import Upkeep.Inventory.Store
import Upkeep.Proofs.Table

/-! IDs. Every ID has one kind, an ID that is drawn is of the kind it was drawn for, and a
new resource gets an ID that none in its partition has. -/
namespace Upkeep

theorem Hex.isLower_digit {n : Nat} (small : n < 16) : Hex.isLower (Hex.digit n) = true := by
  revert n
  decide

theorem Hex.length_padded (k n : Nat) : (Hex.padded k n).length = k := by
  induction k generalizing n with
  | zero => rfl
  | succ k ih => simp only [Hex.padded, List.length_append, ih, List.length_singleton]

theorem Hex.all_isLower_padded (k n : Nat) : (Hex.padded k n).all Hex.isLower = true := by
  induction k generalizing n with
  | zero => rfl
  | succ k ih =>
      have last := Hex.isLower_digit (Nat.mod_lt n (by decide : 0 < 16))
      simp only [Hex.padded, List.all_append, ih, List.all_cons, last, List.all_nil, Bool.and_self]

namespace Kind

theorem isId_iff {k : Kind} {id : String} :
    k.isId id = true ↔ ∃ digits, id.toList = k.idStem.toList ++ '-' :: digits ∧
      digits.length = 8 ∧ digits.all Hex.isLower = true := by
  simp only [isId, Bool.and_eq_true, beq_iff_eq, and_assoc]
  constructor
  · intro h
    exact ⟨_, h⟩
  · rintro ⟨digits, spelled, rest⟩
    have found : id.toList.drop (k.idStem.length + 1) = digits := by
      rw [spelled, ← String.length_toList, List.drop_append]
      simp
    rw [found]
    exact ⟨spelled, rest⟩

theorem isId_idOf (k : Kind) (w : UInt32) : k.isId (k.idOf w) = true := by
  refine isId_iff.2 ⟨Hex.padded 8 w.toNat, ?_, Hex.length_padded _ _, Hex.all_isLower_padded _ _⟩
  simp [idOf]

/-- No text is an ID of two kinds. -/
theorem isId_unique {k l : Kind} {id : String} (hk : k.isId id = true) (hl : l.isId id = true) :
    k = l := by
  obtain ⟨ds, spelled, -⟩ := isId_iff.1 hk
  obtain ⟨es, again, -⟩ := isId_iff.1 hl
  rw [spelled] at again
  cases k <;> cases l <;> first | rfl | simp [idStem] at again

theorem isId_ne_empty {k : Kind} {id : String} (h : k.isId id = true) : id ≠ "" := by
  rintro rfl
  obtain ⟨ds, spelled, -⟩ := isId_iff.1 h
  simp at spelled

theorem checkId_ok {k : Kind} {id : String} : k.checkId id = .ok () ↔ k.isId id = true := by
  unfold checkId
  split
  · next h => simp only [h]
  · next h => simp only [h, reduceCtorEq]

end Kind

namespace Partition
variable {p : Partition} {ids rest : Ids} {id : String}

theorem drawId_ok {k : Kind} (h : p.drawId ids k = (.ok id, rest)) :
    p.find? id = none ∧ k.isId id = true := by
  unfold drawId at h
  split at h
  · next w left drawn =>
    cases h
    exact ⟨Table.not_contains_iff.1 (Ids.draw_free drawn), Kind.isId_idOf k w⟩
  · cases h

theorem chosenId_ok {r : Resource} (h : p.chosenId r = .ok id) :
    p.find? id = none ∧ r.kind.isId id = true := by
  unfold chosenId at h
  cases valid : r.kind.checkId r.id with
  | error e => rw [valid] at h; cases h
  | ok u =>
      rw [valid] at h
      by_cases taken : p.contains r.id = true
      · simp only [taken, if_true] at h
        cases h
      · simp only [taken] at h
        cases h
        exact ⟨Table.not_contains_iff.1 (Bool.eq_false_iff.2 taken), Kind.checkId_ok.1 valid⟩

/-- A new resource is named for its kind, and apart from all others. -/
theorem newId_ok {r : Resource} (h : p.newId ids r = (.ok id, rest)) :
    p.find? id = none ∧ r.kind.isId id = true := by
  unfold newId at h
  split at h
  · exact drawId_ok h
  · exact chosenId_ok (Prod.ext_iff.1 h).1

end Partition

end Upkeep
