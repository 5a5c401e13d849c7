import Upkeep.Table

/-! JSON trees. An object keeps its fields in the order of the text, also those that stand
twice. A value can be well formed and yet stand for nothing: a text with half a surrogate
pair, a number beyond all floating-point numbers. It is then `garbled`, and does no harm
where it is not looked at. -/
namespace Upkeep

/-- The number `mantissa` times ten to the `exponent`, or its negative. -/
structure Scientific where
  negative : Bool
  mantissa : Nat
  exponent : Int
  deriving DecidableEq

/-- Integers are those of 64 bits, with or without a sign; all other numbers are real. -/
inductive Json where
  | null
  | bool (b : Bool)
  | int (n : Int)
  | real (r : Scientific)
  | str (s : String)
  | arr (items : List Json)
  | obj (fields : List (String × Json))
  | garbled

namespace Json

/-- How deep the arrays and objects of a plain value may be nested. -/
def deepest : Nat := 127

/-- The value by itself: an object's keys in order, the last of equal keys counting. Nothing
garbled can be in it, and no more than `depth` levels. -/
def plainWithin : Nat → Json → Option Json
  | _, .garbled => none
  | 0, .arr _ => none
  | 0, .obj _ => none
  | depth + 1, .arr items => (items.mapM (plainWithin depth)).map .arr
  | depth + 1, .obj fields => do
    let fields ← fields.mapM fun (k, j) => (plainWithin depth j).map (k, ·)
    return .obj (fields.foldl (fun t (k, j) => t.insert k j) (⟨[]⟩ : Table Json)).entries
  | _, j => some j

def plain (j : Json) : Option Json := j.plainWithin deepest

/-- The first field of the name. -/
def field? (j : Json) (name : String) : Option Json :=
  match j with
  | .obj fields => Table.look name fields
  | _ => none

def ofNat (n : Nat) : Json := .int n

def texts (ss : List String) : Json := .arr (ss.map .str)

end Json

end Upkeep
