import Upkeep.Proofs.Inventory.Integrity

/-! What each call does to an inventory: it fails and changes nothing, or it writes or takes
out one entry of the caller's partition. Hence every call keeps the inventory sound. -/
namespace Upkeep

theorem Inventory.partition_setPartition (inv : Inventory) (tenant other : String) (p : Partition) :
    (inv.setPartition tenant p).partition other = if other = tenant then p else inv.partition other := by
  unfold partition setPartition
  rw [Table.find?_insert]
  split <;> rfl

@[simp] theorem Inventory.partition_setPartition_self (inv : Inventory) (tenant : String)
    (p : Partition) : (inv.setPartition tenant p).partition tenant = p := by
  rw [partition_setPartition, if_pos rfl]

theorem Inventory.partition_setPartition_ne {inv : Inventory} {tenant other : String} {p : Partition}
    (apart : other ≠ tenant) : (inv.setPartition tenant p).partition other = inv.partition other := by
  rw [partition_setPartition, if_neg apart]

namespace Partition

/-- A schedule as it is shown: one that is kept, with its target in full. -/
structure Shown (p : Partition) (s : Schedule) : Prop where
  kept : p.find? s.id = some (.schedule { s with target := s.target.map Target.stub })
  full : ∀ t, s.target = some t → p.find? t.id = some t.resource

variable {tenant : String} {p : Partition}

theorem hydrate_of_none {s : Schedule} (target : s.target = none) : p.hydrate s = s := by
  rcases s with ⟨id, status, name, _, start, finish, owner, createdAt, updatedAt⟩
  cases target
  rfl

theorem hydrate_of_resolve {s : Schedule} {t u : Target} (target : s.target = some t)
    (resolved : p.resolve t = some u) : p.hydrate s = { s with target := some u } := by
  unfold hydrate
  rw [target, Option.map_some, resolved, Option.getD_some]

/-- In a sound partition no target leads nowhere. -/
theorem Sound.hydrate_shown (sound : p.Sound tenant) {k : String} {s : Schedule}
    (found : p.find? k = some (.schedule s)) : p.Shown (p.hydrate s) := by
  have filed : s.id = k := sound.filed k _ found
  subst filed
  rcases s with ⟨id, status, name, _ | t, start, finish, owner, createdAt, updatedAt⟩
  · rw [hydrate_of_none rfl]
    exact ⟨found, fun t none => by cases none⟩
  · obtain ⟨u, resolved⟩ := (sound.fits found).anchored _ t rfl rfl
    obtain ⟨there, kind⟩ := resolve_eq_some.1 resolved
    have sameId : u.id = t.id := by
      rw [← Target.id_resource, sound.filed _ _ there]
    have back : u.stub = t := (Target.stub_eq kind sameId).trans (sound.stubbed _ _ t found rfl)
    rw [hydrate_of_resolve rfl resolved]
    refine ⟨?_, ?_⟩
    · rw [found, ← back]
      rfl
    · rintro _ ⟨⟩
      rw [sameId]
      exact there

theorem Sound.view_shown (sound : p.Sound tenant) {k : String} {r : Resource} {s : Schedule}
    (found : p.find? k = some r) (shown : p.view r = .schedule s) : p.Shown s := by
  cases r with
  | schedule kept =>
      cases shown
      exact sound.hydrate_shown found
  | host h => cases shown
  | site h => cases shown
  | region h => cases shown

end Partition

namespace Inventory
variable {inv : Inventory} {ids rest : Ids} {now tenant id : String} {r : Resource}

/-- A resource that was created is prepared under a new ID, and filed under it. -/
structure Created (inv : Inventory) (ids : Ids) (now tenant : String) (r filed : Resource)
    (rest : Ids) : Prop where
  named : (inv.partition tenant).newId ids r = (.ok filed.id, rest)
  prepared : (inv.partition tenant).prepare tenant now filed.id r = .ok filed

/-- The inventory with a resource under an ID of a tenant's. -/
def put (inv : Inventory) (tenant id : String) (r : Resource) : Inventory :=
  inv.setPartition tenant ((inv.partition tenant).insert id r)

@[simp] theorem partition_put (inv : Inventory) (tenant id : String) (r : Resource) :
    (inv.put tenant id r).partition tenant = (inv.partition tenant).insert id r :=
  partition_setPartition_self ..

theorem partition_put_ne {inv : Inventory} {tenant other id : String} {r : Resource}
    (apart : other ≠ tenant) : (inv.put tenant id r).partition other = inv.partition other :=
  partition_setPartition_ne apart

theorem find?_put {inv : Inventory} {tenant other id k : String} {r : Resource} :
    ((inv.put tenant id r).partition other).find? k =
      if other = tenant ∧ k = id then some r else (inv.partition other).find? k := by
  by_cases same : other = tenant
  · subst same
    simp only [partition_put, Table.find?_insert, true_and]
  · rw [partition_put_ne same, if_neg fun both => same both.1]

/-- Under a new ID, to create comes to what is prepared for the ID. -/
theorem create_named (now : String) (named : (inv.partition tenant).newId ids r = (.ok id, rest)) :
    inv.create ids now tenant r = match (inv.partition tenant).prepare tenant now id r with
      | .error e => (.error e, inv, rest)
      | .ok filed =>
        (.ok (((inv.put tenant filed.id filed).partition tenant).view filed), inv.put tenant filed.id filed, rest) := by
  unfold create
  dsimp only
  rw [named]
  dsimp only [Except.bind]
  cases (inv.partition tenant).prepare tenant now id r with
  | error e => rfl
  | ok filed =>
      dsimp only
      rw [partition_put, put]

theorem create_cases (inv : Inventory) (ids : Ids) (now tenant : String) (r : Resource) :
    (∃ e rest, inv.create ids now tenant r = (.error e, inv, rest)) ∨
    (∃ filed rest, Created inv ids now tenant r filed rest ∧ inv.create ids now tenant r =
      (.ok (((inv.put tenant filed.id filed).partition tenant).view filed),
        inv.put tenant filed.id filed, rest)) := by
  rcases drawn : (inv.partition tenant).newId ids r with ⟨e | id, rest⟩
  · exact Or.inl ⟨e, rest, by simp only [create, drawn, Except.bind]⟩
  · have made := create_named now drawn
    cases done : (inv.partition tenant).prepare tenant now id r with
    | error e =>
        rw [done] at made
        exact Or.inl ⟨e, rest, made⟩
    | ok filed =>
        have sameId : filed.id = id := (Partition.prepare_ok done).1
        subst sameId
        rw [done] at made
        exact Or.inr ⟨filed, rest, ⟨drawn, done⟩, made⟩

/-- Of a schedule that is there, an update comes to what the revision of it comes to. -/
theorem update_found (now : String) (mask : List String) {current : Schedule} (incoming : Schedule)
    (found : (inv.partition tenant).find? id = some (.schedule current)) :
    inv.update now tenant id mask (.schedule incoming) =
      match (inv.partition tenant).revise now mask current incoming with
      | .error e => (.error e, inv)
      | .ok updated =>
        (.ok (.schedule (((inv.put tenant id (.schedule updated)).partition tenant).hydrate updated)),
          inv.put tenant id (.schedule updated)) := by
  unfold update
  dsimp only
  rw [found]
  dsimp only
  cases (inv.partition tenant).revise now mask current incoming with
  | error e => rfl
  | ok updated =>
      dsimp only
      rw [partition_put, put]

theorem update_cases (inv : Inventory) (now tenant id : String) (mask : List String) (r : Resource) :
    (∃ e, inv.update now tenant id mask r = (.error e, inv)) ∨
    (∃ current incoming updated, (inv.partition tenant).find? id = some (.schedule current) ∧
      r = .schedule incoming ∧
      (inv.partition tenant).revise now mask current incoming = .ok updated ∧
      inv.update now tenant id mask r =
        (.ok (.schedule (((inv.put tenant id (.schedule updated)).partition tenant).hydrate updated)),
          inv.put tenant id (.schedule updated))) := by
  unfold update
  dsimp only
  split
  · exact Or.inl ⟨_, rfl⟩
  · next current incoming found =>
    split
    · exact Or.inl ⟨_, rfl⟩
    · next updated done =>
      refine Or.inr ⟨current, incoming, updated, found, rfl, done, ?_⟩
      rw [partition_put, put]
  · exact Or.inl ⟨_, rfl⟩

/-- A schedule that was written is answered as a schedule. -/
theorem create_schedule {s : Schedule} {a : Resource}
    (done : (inv.create ids now tenant (.schedule s)).1 = .ok a) : ∃ made, a = .schedule made := by
  obtain ⟨e, rest, failed⟩ | ⟨filed, rest, created, made⟩ := create_cases inv ids now tenant (.schedule s)
  · rw [failed] at done
    cases done
  · rw [made] at done
    cases done
    obtain ⟨kept, rfl⟩ := Resource.eq_schedule (Partition.prepare_ok created.prepared).2.1
    exact ⟨_, rfl⟩

theorem update_schedule {mask : List String} {a : Resource}
    (done : (inv.update now tenant id mask r).1 = .ok a) : ∃ made, a = .schedule made := by
  obtain ⟨e, failed⟩ | ⟨current, incoming, updated, -, -, -, made⟩ := update_cases inv now tenant id mask r
  · rw [failed] at done
    cases done
  · rw [made] at done
    cases done
    exact ⟨_, rfl⟩

theorem delete_cases (inv : Inventory) (tenant id : String) :
    (∃ e, inv.delete tenant id = (.error e, inv)) ∨
    (∃ old, (inv.partition tenant).find? id = some old ∧
      (inv.partition tenant).targeting? id = none ∧
      inv.delete tenant id = (.ok (), inv.setPartition tenant ((inv.partition tenant).erase id))) := by
  unfold delete
  dsimp only
  split
  · next there =>
    split
    · exact Or.inl ⟨_, rfl⟩
    · next free =>
      obtain ⟨old, found⟩ := Table.contains_iff.1 there
      exact Or.inr ⟨old, found, free, rfl⟩
  · exact Or.inl ⟨_, rfl⟩

theorem sound_empty : ({} : Inventory).Sound := fun tenant => Partition.sound_empty tenant

theorem Sound.setPartition (sound : inv.Sound) {p : Partition} (part : p.Sound tenant) :
    (inv.setPartition tenant p).Sound := by
  intro other
  by_cases same : other = tenant
  · subst same
    rw [partition_setPartition_self]
    exact part
  · rw [partition_setPartition_ne same]
    exact sound other

theorem Sound.put_created (sound : inv.Sound) {filed : Resource} {rest : Ids}
    (created : Created inv ids now tenant r filed rest) : (inv.put tenant filed.id filed).Sound := by
  obtain ⟨free, named⟩ := Partition.newId_ok created.named
  refine sound.setPartition ((sound tenant).insert (Partition.prepare_fits named created.prepared) ?_)
  intro old found
  rw [free] at found
  cases found

theorem Sound.put_revised (sound : inv.Sound) {mask : List String} {current incoming updated : Schedule}
    (found : (inv.partition tenant).find? id = some (.schedule current))
    (done : (inv.partition tenant).revise now mask current incoming = .ok updated) :
    updated.id = id ∧ (inv.put tenant id (.schedule updated)).Sound := by
  have sameId : updated.id = id :=
    (Partition.revise_ok done).1.id.trans ((sound tenant).filed id _ found)
  refine ⟨sameId, sound.setPartition ?_⟩
  have fits := (sound tenant).revise_fits found done
  rw [← sameId] at found ⊢
  apply (sound tenant).insert fits
  intro old there
  cases found.symm.trans there
  rfl

theorem Sound.create (sound : inv.Sound) (ids : Ids) (now tenant : String) (r : Resource) :
    (inv.create ids now tenant r).2.1.Sound := by
  obtain ⟨e, rest, failed⟩ | ⟨filed, rest, created, done⟩ := create_cases inv ids now tenant r
  · rw [failed]
    exact sound
  · rw [done]
    exact sound.put_created created

theorem Sound.update (sound : inv.Sound) (now tenant id : String) (mask : List String) (r : Resource) :
    (inv.update now tenant id mask r).2.Sound := by
  obtain ⟨e, failed⟩ | ⟨current, incoming, updated, found, -, revised, done⟩ :=
    update_cases inv now tenant id mask r
  · rw [failed]
    exact sound
  · rw [done]
    exact (sound.put_revised found revised).2

theorem Sound.delete (sound : inv.Sound) (tenant id : String) : (inv.delete tenant id).2.Sound := by
  obtain ⟨e, failed⟩ | ⟨old, found, free, done⟩ := delete_cases inv tenant id
  · rw [failed]
    exact sound
  · rw [done]
    exact sound.setPartition ((sound tenant).erase free)

end Inventory

end Upkeep
