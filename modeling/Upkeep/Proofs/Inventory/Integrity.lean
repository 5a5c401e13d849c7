import Upkeep.Proofs.Inventory.Partition

/-! Integrity of an inventory. What is filed under an ID has that ID, of its own kind, and
belongs to the tenant; a schedule has a good name and window, and its target is the stub of
a resource that is there. Every change keeps this, whether it succeeds or fails. -/
namespace Upkeep

/-- A partition that is in order. -/
structure Partition.Sound (tenant : String) (p : Partition) : Prop where
  ordered : p.Ordered
  filed : ∀ k r, p.find? k = some r → r.id = k
  named : ∀ k r, p.find? k = some r → r.kind.isId k = true
  owned : ∀ k r, p.find? k = some r → r.tenant = tenant
  titled : ∀ k s, p.find? k = some (.schedule s) → isName s.name = true
  timed : ∀ k s, p.find? k = some (.schedule s) → s.finish = 0 ∨ s.start < s.finish
  stubbed : ∀ k s t, p.find? k = some (.schedule s) → s.target = some t → t.stub = t
  anchored : ∀ k s t, p.find? k = some (.schedule s) → s.target = some t →
    ∃ r, p.find? t.id = some r ∧ r.kind = t.kind

def Inventory.Sound (inv : Inventory) : Prop := ∀ tenant, (inv.partition tenant).Sound tenant

namespace Partition
variable {tenant : String} {p : Partition}

theorem sound_empty (tenant : String) : Partition.Sound tenant {} where
  ordered := Table.ordered_empty
  filed _ _ h := by cases h
  named _ _ h := by cases h
  owned _ _ h := by cases h
  titled _ _ h := by cases h
  timed _ _ h := by cases h
  stubbed _ _ _ h := by cases h
  anchored _ _ _ h := by cases h

/-- What may be filed next to the rest of a partition: a resource with an ID of its kind, and
a schedule only with a target that is there. -/
structure Fits (tenant : String) (p : Partition) (r : Resource) : Prop where
  named : r.kind.isId r.id = true
  owned : r.tenant = tenant
  titled : ∀ s, r = .schedule s → isName s.name = true
  timed : ∀ s, r = .schedule s → s.finish = 0 ∨ s.start < s.finish
  stubbed : ∀ s t, r = .schedule s → s.target = some t → t.stub = t
  anchored : ∀ s t, r = .schedule s → s.target = some t → ∃ u, p.resolve t = some u

theorem Sound.fits (sound : p.Sound tenant) {k : String} {r : Resource}
    (found : p.find? k = some r) : p.Fits tenant r where
  named := by rw [sound.filed k r found]; exact sound.named k r found
  owned := sound.owned k r found
  titled s same := sound.titled k s (same ▸ found)
  timed s same := sound.timed k s (same ▸ found)
  stubbed s t same := sound.stubbed k s t (same ▸ found)
  anchored s t same target := by
    obtain ⟨r', there, kind⟩ := sound.anchored k s t (same ▸ found) target
    obtain ⟨u, rfl, alike⟩ := Resource.eq_resource kind
    exact ⟨u, resolve_eq_some.2 ⟨there, alike⟩⟩

/-- An entry may be written under a new ID, or in place of one of the same kind. -/
theorem Sound.insert (sound : p.Sound tenant) {r : Resource} (fits : p.Fits tenant r)
    (replaces : ∀ old, p.find? r.id = some old → old.kind = r.kind) :
    Partition.Sound tenant (Table.insert p r.id r) := by
  have find : ∀ k, Table.find? (Table.insert p r.id r) k = if k = r.id then some r else p.find? k :=
    fun k => Table.find?_insert p r.id k r
  have each : ∀ {k a}, Table.find? (Table.insert p r.id r) k = some a → p.Fits tenant a ∧ a.id = k := by
    intro k a found
    rw [find] at found
    split at found
    · next same =>
      cases found
      exact ⟨fits, same.symm⟩
    · exact ⟨sound.fits found, sound.filed k a found⟩
  refine ⟨Table.Ordered.insert sound.ordered _ _, fun k a h => (each h).2, fun k a h => ?_,
    fun k a h => (each h).1.owned, fun k s h => (each h).1.titled s rfl,
    fun k s h => (each h).1.timed s rfl, fun k s t h => (each h).1.stubbed s t rfl, ?_⟩
  · obtain ⟨fits, rfl⟩ := each h
    exact fits.named
  · intro k s t h target
    obtain ⟨u, resolved⟩ := (each h).1.anchored s t rfl target
    obtain ⟨there, kind⟩ := resolve_eq_some.1 resolved
    rw [find]
    split
    · next same =>
      refine ⟨r, rfl, ?_⟩
      rw [← replaces _ (same ▸ there), Target.kind_resource, kind]
    · exact ⟨_, there, by rw [Target.kind_resource, kind]⟩

/-- An entry may be taken out where no schedule has it for its target. -/
theorem Sound.erase (sound : p.Sound tenant) {id : String} (free : p.targeting? id = none) :
    Partition.Sound tenant (Table.erase p id) := by
  have each : ∀ {k a}, Table.find? (Table.erase p id) k = some a → k ≠ id ∧ p.find? k = some a := by
    intro k a found
    rw [Table.find?_erase] at found
    split at found
    · cases found
    · next other => exact ⟨other, found⟩
  refine ⟨Table.Ordered.erase sound.ordered _, fun k a h => sound.filed k a (each h).2,
    fun k a h => sound.named k a (each h).2, fun k a h => sound.owned k a (each h).2,
    fun k s h => sound.titled k s (each h).2, fun k s h => sound.timed k s (each h).2,
    fun k s t h => sound.stubbed k s t (each h).2, ?_⟩
  intro k s t h target
  obtain ⟨r, there, kind⟩ := sound.anchored k s t (each h).2 target
  have listed : .schedule s ∈ p.values := sound.ordered.mem_values.2 ⟨k, (each h).2⟩
  refine ⟨r, ?_, kind⟩
  rw [Table.find?_erase, if_neg (targeting?_eq_none.1 free s listed t target)]
  exact there

variable {now id : String} {r filed : Resource}

/-- What is prepared is the resource as filed, a schedule with the stub of its target. -/
theorem prepare_ok (done : p.prepare tenant now id r = .ok filed) :
    filed.id = id ∧ filed.kind = r.kind ∧ filed.tenant = tenant ∧
      ∀ s, filed = .schedule s → s.check = .ok () ∧
        ∀ t, s.target = some t → t.stub = t ∧ ∃ u, p.resolve t = some u := by
  cases r with
  | schedule s =>
      obtain ⟨⟨⟩, required, done⟩ := Answer.bind_ok.1 done
      obtain ⟨⟨⟩, checked, done⟩ := Answer.bind_ok.1 done
      cases done
      refine ⟨rfl, rfl, rfl, ?_⟩
      rintro _ ⟨⟩
      refine ⟨checked, fun t target => ⟨?_, requireTarget_ok.1 required t target⟩⟩
      obtain ⟨u, -, rfl⟩ := Option.map_eq_some_iff.1 target
      exact u.stub_stub
  | host h =>
      cases done
      exact ⟨rfl, rfl, rfl, fun _ same => by cases same⟩
  | site s =>
      cases done
      exact ⟨rfl, rfl, rfl, fun _ same => by cases same⟩
  | region r =>
      cases done
      exact ⟨rfl, rfl, rfl, fun _ same => by cases same⟩

theorem prepare_schedule {s : Schedule} (done : p.prepare tenant now id (.schedule s) = .ok filed) :
    filed = .schedule
      { s with id, tenant, target := s.target.map Target.stub, createdAt := now, updatedAt := now } := by
  obtain ⟨⟨⟩, -, done⟩ := Answer.bind_ok.1 done
  obtain ⟨⟨⟩, -, done⟩ := Answer.bind_ok.1 done
  cases done
  rfl

theorem prepare_target {t : Target} (done : p.prepare tenant now id t.resource = .ok filed) :
    filed = t.resource.filed id tenant now := by
  cases t <;> exact (Except.ok.inj done).symm

theorem prepare_fits (named : r.kind.isId id = true)
    (done : p.prepare tenant now id r = .ok filed) : p.Fits tenant filed := by
  obtain ⟨sameId, sameKind, owned, checked⟩ := prepare_ok done
  refine ⟨by rw [sameId, sameKind]; exact named, owned, ?_, ?_, ?_, ?_⟩
  · intro s same
    exact (Schedule.check_ok.1 (checked s same).1).2.1
  · intro s same
    exact Window.valid_iff.1 (Schedule.check_ok.1 (checked s same).1).2.2.2
  · intro s t same target
    exact ((checked s same).2 t target).1
  · intro s t same target
    exact ((checked s same).2 t target).2

/-- A revised schedule is checked again, and its target too where it is another one. -/
theorem revise_ok {mask : List String} {current incoming updated : Schedule}
    (done : p.revise now mask current incoming = .ok updated) :
    current.Revised incoming updated ∧ updated.check = .ok () ∧
      (updated.target ≠ current.target → p.requireTarget updated.target = .ok ()) := by
  obtain ⟨masked, applied, required, checked, rfl⟩ := revise_steps done
  have revised := Schedule.applyMask_revised applied
  exact ⟨⟨revised.id, revised.tenant, revised.createdAt, revised.target⟩, checked, required⟩

theorem Sound.revise_fits (sound : p.Sound tenant) {mask : List String}
    {current incoming updated : Schedule} (found : p.find? id = some (.schedule current))
    (done : p.revise now mask current incoming = .ok updated) : p.Fits tenant (.schedule updated) := by
  obtain ⟨revised, checked, required⟩ := revise_ok done
  have before := sound.fits found
  have target : ∀ t, updated.target = some t → t.stub = t ∧ ∃ u, p.resolve t = some u := by
    intro t target
    by_cases same : updated.target = current.target
    · have kept := same.symm.trans target
      exact ⟨before.stubbed current t rfl kept, before.anchored current t rfl kept⟩
    · refine ⟨?_, requireTarget_ok.1 (required same) t target⟩
      rcases revised.target t target with kept | ⟨u, -, rfl⟩
      · exact before.stubbed current t rfl kept
      · exact u.stub_stub
  refine ⟨?_, revised.tenant.trans before.owned, ?_, ?_, ?_, ?_⟩
  · have named := before.named
    simpa only [Resource.id, Resource.kind, revised.id] using named
  · rintro _ ⟨⟩
    exact (Schedule.check_ok.1 checked).2.1
  · rintro _ ⟨⟩
    exact Window.valid_iff.1 (Schedule.check_ok.1 checked).2.2.2
  · rintro _ t ⟨⟩ has
    exact (target t has).1
  · rintro _ t ⟨⟩ has
    exact (target t has).2

end Partition
end Upkeep
