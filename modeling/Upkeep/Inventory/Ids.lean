/-! Random words for new IDs. A supply hands out the words that were listed for it, and then
counts up from a fixed word; words that are in use already are passed over. -/
namespace Upkeep

structure Ids where
  listed : List UInt32 := []
  serial : Nat := 0

namespace Ids

/-- The word handed out after all listed ones and `n` more. -/
def counted (n : Nat) : UInt32 := 0xf0000000 + UInt32.ofNat n

/-- The first free word among `k` counted ones. -/
def count (used : UInt32 → Bool) : Nat → Nat → Option (UInt32 × Nat)
  | 0, _ => none
  | k + 1, n => if used (counted n) then count used k (n + 1) else some (counted n, n + 1)

/-- The next word not in use, and the supply without it and without the words before it.
There is none only where `k` counted words in a row are in use. -/
def draw (used : UInt32 → Bool) (k : Nat) (ids : Ids) : Option (UInt32 × Ids) :=
  match ids.listed.dropWhile used with
  | w :: ws => some (w, { ids with listed := ws })
  | [] => (count used k ids.serial).map fun (w, n) => (w, ⟨[], n⟩)

theorem count_free {used : UInt32 → Bool} {k n m : Nat} {w : UInt32}
    (h : count used k n = some (w, m)) : used w = false := by
  induction k generalizing n with
  | zero => simp [count] at h
  | succ k ih =>
    rw [count] at h
    split at h
    · exact ih h
    · cases h; simp_all

/-- A drawn word is not in use. -/
theorem draw_free {used : UInt32 → Bool} {k : Nat} {ids rest : Ids} {w : UInt32}
    (h : draw used k ids = some (w, rest)) : used w = false := by
  unfold draw at h
  split at h
  · rename_i v vs e
    have := List.head_dropWhile_not used (show ids.listed.dropWhile used ≠ [] by simp [e])
    cases h
    simpa [e] using this
  · obtain ⟨⟨v, m⟩, hc, e⟩ := Option.map_eq_some_iff.1 h
    cases e
    exact count_free hc

end Ids

end Upkeep
