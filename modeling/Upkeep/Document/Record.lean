import Upkeep.Document.Basic
import Upkeep.Record
import Upkeep.Text.Shortest

/-! Records in documents. Formats differ in what they tell apart, so values are taken for
what they can stand for: a text that is a number or says yes or no, or either as a text. -/
namespace Upkeep.Document

def text? : Document → Option String
  | .text s => some s
  | .bool b => some (if b then "true" else "false")
  | .int n => some (Decimal.integer n)
  | .real x => some (Shortest.text x)
  | _ => none

/-- A word of agreement or refusal, in whatever case. -/
def answer? (s : String) : Option Bool :=
  if ["true", "on", "yes"].any (Text.sameWord s) then some true
  else if ["false", "off", "no"].any (Text.sameWord s) then some false
  else none

def bool? : Document → Option Bool
  | .bool b => some b
  | .int n => some (n ≠ 0)
  | .real x => some (x != 0)
  | .text s => if s = "1" then some true else if s = "0" then some false else answer? s
  | _ => none

/-- A number is rounded, halves going away from zero, and brought within 64 bits. -/
def number? : Document → Option Int
  | .bool b => some b.toNat
  | .int n => some n
  | .real x => some x.round.toUInt64.toNat
  | .text s =>
    match answer? s with
    | some b => some b.toNat
    | none => (Decimal.readWord 64 s).toOption.map Int.ofNat
  | _ => none

def nat? (bits : Nat) (d : Document) : Option Nat :=
  (number? d).bind fun n => if 0 ≤ n ∧ n < twoTo bits then some n.toNat else none

/-- A list may go on past the last field of a record. -/
def fieldsFrom (least : Nat) (names : List String) : Document → Option (List (String × Document))
  | .table fs => some fs
  | .list ds => if least ≤ ds.length then some (names.zip ds) else none
  | _ => none

def isEmpty : Document → Bool
  | .empty => true
  | _ => false

/-- The name of a choice is a text, or the only key of a table. -/
def name? : Document → Option String
  | .text s => some s
  | .table [(k, _)] => some k
  | _ => none

def reader : Reader Document where
  fields := fieldsFrom
  text := text?
  bool := bool?
  nat := nat?
  isNull := isEmpty
  name := name?

def list? {α : Type} (read : Document → Option α) : Document → Option (List α)
  | .list ds => ds.mapM read
  | _ => none

def table? {α : Type} (read : Document → Option α) : Document → Option (Table α)
  | .table fs => do
    let entries ← fs.mapM fun (k, d) => (read d).map (k, ·)
    return ⟨entries⟩
  | _ => none

end Upkeep.Document
