import Upkeep.Table

/-! Reading records from trees of any kind. A record has its fields under names or, in an
array, in their order; what is left out has its default. How strictly a tree's texts and
numbers are taken is the business of its reader. -/
namespace Upkeep

structure Reader (τ : Type) where
  /-- The fields that are there. Of an array, at least so many must be. -/
  fields : (least : Nat) → (names : List String) → τ → Option (List (String × τ))
  text : τ → Option String
  bool : τ → Option Bool
  /-- A number of so many bits. -/
  nat : (bits : Nat) → τ → Option Nat
  isNull : τ → Bool
  /-- The name of a choice that has no contents. -/
  name : τ → Option String

namespace Reader
variable {τ α : Type}

/-- A field of a record, or its default. -/
def fieldOr (read : τ → Option α) (default : α) (fs : List (String × τ)) (name : String) :
    Option α :=
  match Table.look name fs with
  | some t => read t
  | none => some default

/-- Null stands for nothing. -/
def optional (R : Reader τ) (read : τ → Option α) (t : τ) : Option (Option α) :=
  if R.isNull t then some none else (read t).map some

def choice (R : Reader τ) (all : List α) (name : α → String) (t : τ) : Option α :=
  (R.name t).bind fun s => all.find? (name · = s)

end Reader

end Upkeep
