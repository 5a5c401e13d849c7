import Upkeep.Proofs.Filter.Typing

/-! The laws of Boolean logic, for expressions. They can be applied anywhere in an expression, and change
neither its types nor its truth. Where an expression is not well typed they can change what it comes to,
since operands are judged in their order. -/
namespace Upkeep.Filter.Expr

/-- Expressions that are one by the laws of Boolean logic. -/
inductive Equivalent : Expr → Expr → Prop where
  | refl (e : Expr) : Equivalent e e
  | symm {e f : Expr} (same : Equivalent e f) : Equivalent f e
  | trans {e f g : Expr} (first : Equivalent e f) (second : Equivalent f g) : Equivalent e g
  | or {a b c d : Expr} (left : Equivalent a c) (right : Equivalent b d) : Equivalent (.or a b) (.or c d)
  | and {a b c d : Expr} (left : Equivalent a c) (right : Equivalent b d) : Equivalent (.and a b) (.and c d)
  | not {a b : Expr} (inner : Equivalent a b) : Equivalent (.not a) (.not b)
  | swapOr (a b : Expr) : Equivalent (.or a b) (.or b a)
  | swapAnd (a b : Expr) : Equivalent (.and a b) (.and b a)
  | notOr (a b : Expr) : Equivalent (.not (.or a b)) (.and (.not a) (.not b))
  | notAnd (a b : Expr) : Equivalent (.not (.and a b)) (.or (.not a) (.not b))
  | notNot (a : Expr) : Equivalent (.not (.not a)) a
  | distribute (a b c : Expr) : Equivalent (.and a (.or b c)) (.or (.and a b) (.and a c))

namespace Equivalent
variable {a b : Expr}

theorem wellTyped (same : Equivalent a b) (k : Kind) : a.WellTyped k ↔ b.WellTyped k := by
  induction same with
  | refl e => exact .rfl
  | symm _ ih => exact ih.symm
  | trans _ _ ih ih' => exact ih.trans ih'
  | or _ _ ihl ihr | and _ _ ihl ihr => exact and_congr ihl ihr
  | not _ ih => exact ih
  | swapOr a b | swapAnd a b => exact and_comm
  | notOr a b | notAnd a b => exact .rfl
  | notNot a => exact .rfl
  | distribute a b c => exact and_and_left

theorem holds (same : Equivalent a b) (r : Resource) : a.Holds r ↔ b.Holds r := by
  induction same with
  | refl e => exact .rfl
  | symm _ ih => exact ih.symm
  | trans _ _ ih ih' => exact ih.trans ih'
  | or _ _ ihl ihr => exact or_congr ihl ihr
  | and _ _ ihl ihr => exact and_congr ihl ihr
  | not _ ih => exact not_congr ih
  | swapOr a b => exact or_comm
  | swapAnd a b => exact and_comm
  | notOr a b => exact not_or
  | notAnd a b => exact Decidable.not_and_iff_not_or_not
  | notNot a => exact Decidable.not_not
  | distribute a b c => exact and_or_left

end Equivalent

/-- On a resource for which they are well typed, equivalent expressions come to the same. -/
theorem Equivalent.eval {r : Resource} {a b : Expr} (same : Equivalent a b) (typed : a.WellTyped r.kind) :
    b.eval r.field = a.eval r.field := by
  have other := (same.wellTyped r.kind).1 typed
  have truth : decide (b.Holds r) = decide (a.Holds r) := decide_eq_decide.2 (same.holds r).symm
  rw [eval_of_clear typed.clear, eval_of_clear other.clear, truth]

end Upkeep.Filter.Expr
