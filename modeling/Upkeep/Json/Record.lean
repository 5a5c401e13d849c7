import Upkeep.Json.Basic
import Upkeep.Power
import Upkeep.Record

/-! Records in JSON. An object may hold further fields than those of a record, but none of
the record's own twice; an array may not go on past the last field. Texts, numbers and truth
values are taken for what they are and nothing else. -/
namespace Upkeep.Json

/-- The fields that are there, under their names. -/
def fieldsFrom (least : Nat) (names : List String) : Json → Option (List (String × Json))
  | .obj fs =>
    let known := fs.filter fun f => f.1 ∈ names
    if (known.map (·.1)).Nodup then some known else none
  | .arr js => if least ≤ js.length ∧ js.length ≤ names.length then some (names.zip js) else none
  | _ => none

def fields (names : List String) (j : Json) : Option (List (String × Json)) := fieldsFrom 0 names j

def text? : Json → Option String
  | .str s => some s
  | _ => none

def bool? : Json → Option Bool
  | .bool b => some b
  | _ => none

def intWithin? (low high : Int) : Json → Option Int
  | .int n => if low ≤ n ∧ n ≤ high then some n else none
  | _ => none

/-- A number of at most `bits` bits. -/
def nat? (bits : Nat) (j : Json) : Option Nat := (intWithin? 0 (twoTo bits - 1) j).map Int.toNat

def word32? (j : Json) : Option UInt32 := (nat? 32 j).map UInt32.ofNat

def word64? (j : Json) : Option UInt64 := (nat? 64 j).map UInt64.ofNat

def isNull : Json → Bool
  | .null => true
  | _ => false

/-- A choice without contents is written as its name, and may be read as a field of it too. -/
def name? : Json → Option String
  | .str s => some s
  | .obj [(s, .null)] => some s
  | _ => none

def reader : Reader Json where
  fields := fieldsFrom
  text := text?
  bool := bool?
  nat := nat?
  isNull := isNull
  name := name?

def optional? {α : Type} (read : Json → Option α) : Json → Option (Option α) :=
  reader.optional read

def choice? {α : Type} (all : List α) (name : α → String) : Json → Option α :=
  reader.choice all name

def list? {α : Type} (read : Json → Option α) : Json → Option (List α)
  | .arr js => js.mapM read
  | _ => none

/-- A choice with contents is an object of one field, named for the choice. -/
def variant? {α : Type} (read : String → Json → Option α) : Json → Option α
  | .obj [(k, j)] => read k j
  | _ => none

def ofOption {α : Type} (write : α → Json) : Option α → Json
  | some a => write a
  | none => .null

/-- A field that is written only where it holds something. -/
def unlessEmpty (name s : String) : List (String × Json) := if s = "" then [] else [(name, .str s)]

def ifSome {α : Type} (name : String) (write : α → Json) : Option α → List (String × Json)
  | some a => [(name, write a)]
  | none => []

end Upkeep.Json
