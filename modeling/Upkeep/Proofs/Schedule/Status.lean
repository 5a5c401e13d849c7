import Upkeep.Schedule.Convert

/-! Statuses on their way out and back in. A status has one name in the inventory and another among
callers; what the two have in common is a number. No two statuses on one side share it, and each of
them has a counterpart on the other side, which leads back to it. -/
namespace Upkeep

namespace Status

/-- The number tells the status. -/
theorem ofNumber?_eq_some {n : Int} {s : Status} : ofNumber? n = some s ↔ n = s.number := by
  constructor
  · intro found
    unfold ofNumber? at found
    split at found <;> cases found <;> rfl
  · rintro rfl
    cases s <;> rfl

end Status

namespace Wire.Status

theorem ofNumber?_eq_some {n : Int} {s : Status} : ofNumber? n = some s ↔ n = s.number := by
  constructor
  · intro found
    unfold ofNumber? at found
    split at found <;> cases found <;> rfl
  · rintro rfl
    cases s <;> rfl

theorem number_inj {s t : Status} (same : s.number = t.number) : s = t := by
  have known : ofNumber? s.number = some t := ofNumber?_eq_some.2 (congrArg _ same)
  exact Option.some.inj ((ofNumber?_eq_some.2 rfl).symm.trans known)

/-- A status is stored as the one that has its number. -/
theorem toStored_eq_ok {s : Status} {stored : Upkeep.Status} :
    s.toStored = .ok stored ↔ stored.number = s.number := by
  unfold toStored
  constructor
  · intro done
    split at done
    · next known =>
      cases done
      exact Int.ofNat.inj (Upkeep.Status.ofNumber?_eq_some.1 known).symm
    · cases done
  · intro same
    rw [Upkeep.Status.ofNumber?_eq_some.2 (congrArg _ same.symm)]

/-- A status is shown as the one that has its number. -/
theorem ofStored_eq_ok {stored : Upkeep.Status} {s : Status} :
    ofStored stored = .ok s ↔ s.number = stored.number := by
  unfold ofStored
  constructor
  · intro done
    split at done
    · next known =>
      cases done
      exact Int.ofNat.inj (ofNumber?_eq_some.1 known).symm
    · cases done
  · intro same
    rw [ofNumber?_eq_some.2 (congrArg _ same.symm)]

/-- Every status that a caller can send is known in the inventory. -/
theorem exists_toStored (s : Status) : ∃ stored, s.toStored = .ok stored := by
  cases s with
  | unspecified => exact ⟨.unspecified, rfl⟩
  | maintenance => exact ⟨.maintenance, rfl⟩
  | osUpdate => exact ⟨.osUpdate, rfl⟩

/-- Every status of the inventory is known to callers. -/
theorem exists_ofStored (stored : Upkeep.Status) : ∃ s, ofStored stored = .ok s := by
  cases stored with
  | unspecified => exact ⟨.unspecified, rfl⟩
  | maintenance => exact ⟨.maintenance, rfl⟩
  | osUpdate => exact ⟨.osUpdate, rfl⟩

/-- To store what is shown is to have the status again. -/
theorem toStored_of_shown {stored : Upkeep.Status} {s : Status} (seenAs : ofStored stored = .ok s) :
    s.toStored = .ok stored :=
  toStored_eq_ok.2 (ofStored_eq_ok.1 seenAs).symm

end Wire.Status
end Upkeep
