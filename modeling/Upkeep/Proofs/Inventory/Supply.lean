import Mathlib.Data.List.Nodup
import Mathlib.Data.List.Perm.Subperm
import Upkeep.Proofs.Inventory.Naming

/-! The supply of IDs. Different words make different IDs, and so the counter of a supply, which passes
over one word more than there are IDs in use, comes to a free one as long as there is any. -/
namespace Upkeep

theorem Hex.digit_inj {n m : Nat} (n_small : n < 16) (m_small : m < 16) (same : digit n = digit m) : n = m := by
  have each : ∀ n < 16, ∀ m < 16, digit n = digit m → n = m := by decide
  exact each n n_small m m_small same

theorem Hex.padded_inj {k n m : Nat} (n_small : n < Nat.pow 16 k) (m_small : m < Nat.pow 16 k)
    (same : padded k n = padded k m) : n = m := by
  induction k generalizing n m with
  | zero => exact (Nat.lt_one_iff.1 n_small).trans (Nat.lt_one_iff.1 m_small).symm
  | succ k ih =>
      obtain ⟨front, last⟩ := List.append_inj' same rfl
      have low : n % 16 = m % 16 :=
        digit_inj (Nat.mod_lt _ (by decide)) (Nat.mod_lt _ (by decide)) (List.cons.inj last).1
      have shorter {l : Nat} (small : l < Nat.pow 16 (k + 1)) : l / 16 < Nat.pow 16 k :=
        Nat.div_lt_of_lt_mul (Nat.mul_comm _ 16 ▸ small)
      have high : n / 16 = m / 16 := ih (shorter n_small) (shorter m_small) front
      rw [← Nat.div_add_mod n 16, ← Nat.div_add_mod m 16, low, high]

theorem Kind.idOf_inj {k : Kind} {v w : UInt32} (same : k.idOf v = k.idOf w) : v = w := by
  have digits : Hex.padded 8 v.toNat = Hex.padded 8 w.toNat := by
    simpa [idOf] using congrArg String.toList same
  have small (u : UInt32) : u.toNat < Nat.pow 16 8 := u.toNat_lt_size
  exact UInt32.toNat_inj.1 (Hex.padded_inj (small v) (small w) digits)

namespace Ids
variable {used : UInt32 → Bool}

theorem count_none {k n : Nat} (none : count used k n = none) : ∀ i < k, used (counted (n + i)) = true := by
  induction k generalizing n with
  | zero => exact fun i below => absurd below (Nat.not_lt_zero i)
  | succ k ih =>
      rw [count] at none
      split at none
      · next taken =>
        intro i below
        cases i with
        | zero => exact taken
        | succ i =>
            rw [show n + (i + 1) = n + 1 + i by omega]
            exact ih none i (by omega)
      · cases none

theorem counted_inj {n i j : Nat} (i_small : i < UInt32.size) (j_small : j < UInt32.size)
    (same : counted (n + i) = counted (n + j)) : i = j := by
  have words : UInt32.ofNat (n + i) = UInt32.ofNat (n + j) := by
    simpa [counted] using same
  have numbers := congrArg UInt32.toNat words
  simp only [UInt32.toNat_ofNat'] at numbers
  unfold UInt32.size at i_small j_small
  omega

/-- The counter comes to every word. -/
theorem exists_counted (n : Nat) (w : UInt32) : ∃ i < UInt32.size, counted (n + i) = w := by
  refine ⟨(w - 0xf0000000 - UInt32.ofNat n).toNat, UInt32.toNat_lt_size _, ?_⟩
  simp only [counted, UInt32.ofNat_add, UInt32.ofNat_toNat]
  grind

end Ids

theorem Table.mem_keys {α : Type} {t : Table α} {k : String} (there : t.contains k = true) : k ∈ t.keys := by
  obtain ⟨a, found⟩ := contains_iff.1 there
  exact List.mem_map_of_mem (mem_of_look found)

namespace Partition
variable {p : Partition} {k : Kind}

/-- No more counted words than there are resources name IDs that are all in use. -/
theorem counted_le_size {n m : Nat} (short : m ≤ UInt32.size)
    (used : ∀ i < m, p.contains (k.idOf (Ids.counted (n + i))) = true) : m ≤ p.size := by
  let ids := (List.range m).map fun i => k.idOf (Ids.counted (n + i))
  have distinct : ids.Nodup := by
    refine List.Nodup.map_on ?_ List.nodup_range
    intro i i_small j j_small same
    rw [List.mem_range] at i_small j_small
    exact Ids.counted_inj (by omega) (by omega) (Kind.idOf_inj same)
  have inside : ids ⊆ p.keys := by
    intro id member
    obtain ⟨i, below, rfl⟩ := List.mem_map.1 member
    exact Table.mem_keys (used i (List.mem_range.1 below))
  have bound := (distinct.subperm inside).length_le
  simpa [ids, Table.keys, Table.size] using bound

/-- As long as there are fewer resources than words, some ID of the kind is free. -/
theorem exists_free (few : p.size < UInt32.size) (k : Kind) : ∃ w, p.find? (k.idOf w) = none := by
  refine Classical.byContradiction fun none => ?_
  have used : ∀ i < UInt32.size, p.contains (k.idOf (Ids.counted (0 + i))) = true := by
    intro i _
    rw [← Bool.not_eq_false, Table.not_contains_iff]
    exact fun unused => none ⟨_, unused⟩
  exact absurd (counted_le_size (Nat.le_refl _) used) (Nat.not_le.2 few)

/-- As long as an ID of the kind is free, one is drawn. -/
theorem drawId_exists (free : ∃ w, p.find? (k.idOf w) = none) (ids : Ids) :
    ∃ id rest, p.drawId ids k = (.ok id, rest) := by
  unfold drawId
  cases drawn : ids.draw (fun w => p.contains (k.idOf w)) (p.size + 1) with
  | some drawn => exact ⟨_, _, rfl⟩
  | none =>
      exfalso
      have counted : Ids.count (fun w => p.contains (k.idOf w)) (p.size + 1) ids.serial = none := by
        unfold Ids.draw at drawn
        split at drawn
        · cases drawn
        · exact Option.map_eq_none_iff.1 drawn
      have used := Ids.count_none counted
      by_cases short : p.size + 1 ≤ UInt32.size
      · exact Nat.not_succ_le_self _ (counted_le_size short used)
      · obtain ⟨w, unused⟩ := free
        obtain ⟨i, i_small, rfl⟩ := Ids.exists_counted ids.serial w
        rw [← Table.not_contains_iff, used i (by omega)] at unused
        cases unused

end Partition

end Upkeep
