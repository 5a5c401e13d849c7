import Upkeep.Table
import Upkeep.Text.Decimal

/-! A key-value server as caches use it. It holds texts under keys, some for a limited time
only; an expired key is as good as gone. It keeps a record of the commands it was sent. -/
namespace Upkeep

structure Server where
  cells : Table (String × Option Nat) := {}
  /-- The commands that are answered with an error. -/
  failing : List String := []
  /-- The commands sent so far, the last one first. -/
  sent : List String := []

/-- A command that did not succeed. -/
inductive ServerFault where
  | refused
  | badValue
  deriving DecidableEq

namespace Server

/-- The text under a key and the millisecond at which it expires. -/
def cell? (s : Server) (now : Nat) (key : String) : Option (String × Option Nat) :=
  (s.cells.find? key).filter fun (_, expiry) => expiry.all (now < ·)

def note (s : Server) (command key : String) : Server :=
  { s with sent := (command ++ " " ++ key) :: s.sent }

/-- Notes a command, and carries it out unless it has to fail. -/
def command {α : Type} (s : Server) (name key : String)
    (f : Server → Except ServerFault α × Server) : Except ServerFault α × Server :=
  let s := s.note name key
  if name ∈ s.failing then (.error .refused, s) else f s

def get (s : Server) (now : Nat) (key : String) : Except ServerFault (Option String) × Server :=
  s.command "GET" key fun s => (.ok ((s.cell? now key).map (·.1)), s)

def put (s : Server) (key value : String) (expiry : Option Nat) : Server :=
  { s with cells := s.cells.insert key (value, expiry) }

/-- Keeps a text for some seconds, which may not be none. -/
def setFor (s : Server) (now : Nat) (key : String) (seconds : Nat) (value : String) :
    Except ServerFault Unit × Server :=
  s.command "SETEX" key fun s =>
    if seconds = 0 then (.error .badValue, s)
    else (.ok (), s.put key value (some (now + seconds * 1000)))

/-- The number that a text is, with a sign at most. -/
def counter? (text : String) : Option Int :=
  match text.toList with
  | '-' :: c :: cs =>
    if c = '+' then none else (Decimal.read (twoTo 63) (c :: cs)).toOption.map fun n => -(n : Int)
  | cs => (Decimal.read (twoTo 63 - 1) cs).toOption.map Int.ofNat

/-- Adds one to a number; a key that is not there counts as zero. -/
def increment (s : Server) (now : Nat) (key : String) : Except ServerFault Int × Server :=
  s.command "INCRBY" key fun s =>
    let cell := s.cell? now key
    match counter? ((cell.map (·.1)).getD "0") with
    | none => (.error .badValue, s)
    | some n =>
      if n + 1 < twoTo 63 then
        (.ok (n + 1), s.put key (Decimal.integer (n + 1)) (cell.bind (·.2)))
      else (.error .badValue, s)

def delete (s : Server) (key : String) : Except ServerFault Unit × Server :=
  s.command "DEL" key fun s => (.ok (), { s with cells := s.cells.erase key })

end Server

end Upkeep
