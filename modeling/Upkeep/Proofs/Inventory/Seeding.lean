import Mathlib.Data.List.Nodup
import Upkeep.Inventory.Seed
import Upkeep.Proofs.Inventory.Rewrite
import Upkeep.Proofs.Service.Alike

/-! Seeding. To plant the seeds of tenants is to file their resources one after the other, and each is filed just
when its ID is one of its kind that is not taken. So a seed is planted whole or not at all, and it does not matter
which tenant comes first. -/
namespace Upkeep

/-- A resource on its way into the partition of a tenant, where it is filed at some time. -/
structure Seedling where
  tenant : String
  at_ : String
  resource : Resource

namespace Seedling

def key (x : Seedling) : String × String := (x.tenant, x.resource.id)

/-- The resource as it is filed under the ID that was chosen for it. -/
def filed (x : Seedling) : Resource := x.resource.filed x.resource.id x.tenant x.at_

/-- The inventory with the resource in it. -/
def into (x : Seedling) (inv : Inventory) : Inventory := inv.put x.tenant x.resource.id x.filed

/-- Only a schedule gets its ID from the inventory, or a resource that has none. -/
structure Chosen (x : Seedling) : Prop where
  kind : x.resource.kind ≠ .schedule
  named : x.resource.id ≠ ""

end Seedling

namespace Partition
variable {p : Partition} {tenant now id : String} {r : Resource}

/-- What keeps a chosen ID from being taken over. -/
theorem chosenId_cases (p : Partition) (r : Resource) :
    (r.kind.isId r.id = true ∧ p.find? r.id = none ∧ p.chosenId r = .ok r.id) ∨
    (¬ (r.kind.isId r.id = true ∧ p.find? r.id = none) ∧ ∃ e, p.chosenId r = .error e) := by
  cases decided : p.chosenId r with
  | ok id =>
      obtain ⟨free, valid⟩ := chosenId_ok decided
      have same : id = r.id := by
        unfold chosenId at decided
        obtain ⟨-, decided⟩ := Answer.after_ok.1 decided
        split at decided
        · cases decided
        · cases decided
          rfl
      subst same
      exact .inl ⟨valid, free, rfl⟩
  | error e =>
      refine .inr ⟨fun ⟨valid, free⟩ => ?_, e, rfl⟩
      have vacant : p.contains r.id = false := Table.not_contains_iff.2 free
      have accepted : p.chosenId r = .ok r.id :=
        Answer.after_ok.2 ⟨Kind.checkId_ok.2 valid, by rw [vacant]; rfl⟩
      rw [accepted] at decided
      cases decided

theorem prepare_bare (other : r.kind ≠ .schedule) : p.prepare tenant now id r = .ok (r.filed id tenant now) := by
  cases r with
  | schedule s => exact absurd rfl other
  | host h => rfl
  | site s => rfl
  | region r => rfl

end Partition

theorem Resource.filed_id (r : Resource) (id tenant now : String) : (r.filed id tenant now).id = id := by
  cases r <;> rfl

theorem Resource.filed_kind (r : Resource) (id tenant now : String) : (r.filed id tenant now).kind = r.kind := by
  cases r <;> rfl

namespace Inventory
variable {inv : Inventory} {ids : Ids} {x : Seedling} {xs ys : List Seedling} {tenant now k : String}

/-- A seedling has a place where its ID is one of its kind and is not taken. -/
structure Place (inv : Inventory) (x : Seedling) : Prop where
  valid : x.resource.kind.isId x.resource.id = true
  free : (inv.partition x.tenant).find? x.resource.id = none

/-- A resource with an ID of its own is filed where it has a place. -/
theorem create_chosen (chosen : x.Chosen) (inv : Inventory) (ids : Ids) :
    (inv.Place x ∧ inv.create ids x.at_ x.tenant x.resource = (.ok x.filed, x.into inv, ids)) ∨
    (¬ inv.Place x ∧ ∃ e, inv.create ids x.at_ x.tenant x.resource = (.error e, inv, ids)) := by
  have named : (inv.partition x.tenant).newId ids x.resource = ((inv.partition x.tenant).chosenId x.resource, ids) :=
    if_neg (not_or.2 ⟨chosen.kind, chosen.named⟩)
  rcases (inv.partition x.tenant).chosenId_cases x.resource with ⟨valid, free, id⟩ | ⟨none, e, failed⟩
  · rw [id] at named
    refine .inl ⟨⟨valid, free⟩, ?_⟩
    rw [create_named x.at_ named, Partition.prepare_bare chosen.kind]
    dsimp only
    rw [Partition.view_bare (by rw [Resource.filed_kind]; exact chosen.kind), Resource.filed_id]
    rfl
  · rw [failed] at named
    exact .inr ⟨fun place => none ⟨place.valid, place.free⟩, e, by simp only [create, named, Except.bind]⟩

/-- Files seedlings one after the other. -/
def sow : List Seedling → Inventory × Ids → Answer (Inventory × Ids)
  | [], s => .ok s
  | x :: xs, (inv, ids) => do
    let (made, inv, ids) := inv.create ids x.at_ x.tenant x.resource
    let _ ← made
    sow xs (inv, ids)

def sown (xs : List Seedling) (inv : Inventory) : Inventory := xs.foldl (fun inv x => x.into inv) inv

/-- All seedlings have places, and no two of them the same. -/
structure Places (inv : Inventory) (xs : List Seedling) : Prop where
  each : ∀ x ∈ xs, inv.Place x
  apart : (xs.map Seedling.key).Nodup

theorem place_into {y : Seedling} : (x.into inv).Place y ↔ inv.Place y ∧ y.key ≠ x.key := by
  have found : ((x.into inv).partition y.tenant).find? y.resource.id = none ↔
      (inv.partition y.tenant).find? y.resource.id = none ∧ y.key ≠ x.key := by
    rw [Seedling.into, find?_put]
    simp only [Seedling.key, ne_eq, Prod.mk.injEq]
    split
    · next same => simp [same]
    · next other => simp [other]
  constructor
  · rintro ⟨valid, free⟩
    obtain ⟨free, other⟩ := found.1 free
    exact ⟨⟨valid, free⟩, other⟩
  · rintro ⟨⟨valid, free⟩, other⟩
    exact ⟨valid, found.2 ⟨free, other⟩⟩

/-- When the first seedling is in its place, the others must have theirs. -/
theorem places_cons : inv.Places (x :: xs) ↔ inv.Place x ∧ (x.into inv).Places xs := by
  constructor
  · rintro ⟨each, apart⟩
    obtain ⟨here, rest⟩ := List.forall_mem_cons.1 each
    obtain ⟨first, apart⟩ := List.nodup_cons.1 apart
    refine ⟨here, fun y member => place_into.2 ⟨rest y member, fun same => first ?_⟩, apart⟩
    exact same ▸ List.mem_map_of_mem member
  · rintro ⟨here, each, apart⟩
    refine ⟨List.forall_mem_cons.2 ⟨here, fun y member => (place_into.1 (each y member)).1⟩, ?_⟩
    refine List.nodup_cons.2 ⟨fun taken => ?_, apart⟩
    obtain ⟨y, member, same⟩ := List.mem_map.1 taken
    exact (place_into.1 (each y member)).2 same

/-- Seedlings are filed, all of them, just where they have places. -/
theorem sow_iff (chosen : ∀ x ∈ xs, x.Chosen) {done : Inventory × Ids} :
    sow xs (inv, ids) = .ok done ↔ inv.Places xs ∧ done = (sown xs inv, ids) := by
  -- the others must have their places once the first seedling has taken its own
  induction xs generalizing inv with
  | nil =>
      have none : inv.Places [] := ⟨nofun, List.nodup_nil⟩
      simp only [sow, sown, List.foldl_nil, Except.ok.injEq, none, true_and]
      exact eq_comm
  | cons x xs ih =>
      obtain ⟨first, rest⟩ := List.forall_mem_cons.1 chosen
      rw [places_cons]
      rcases create_chosen first inv ids with ⟨place, made⟩ | ⟨none, e, failed⟩
      · have next : sow (x :: xs) (inv, ids) = sow xs (x.into inv, ids) := by
          simp only [sow, made]
          rfl
        rw [next, ih rest]
        simp only [place, true_and, sown, List.foldl_cons]
      · have stopped : sow (x :: xs) (inv, ids) = .error e := by
          simp only [sow, failed]
          rfl
        rw [stopped]
        exact ⟨nofun, fun ⟨⟨place, _⟩, _⟩ => absurd place none⟩

/-- Where all have places, what is there is what was there, and the seedlings under their keys. -/
theorem find?_sown (places : inv.Places xs) {a : Resource} : ((sown xs inv).partition tenant).find? k = some a ↔
    (∃ x ∈ xs, x.key = (tenant, k) ∧ a = x.filed) ∨ (inv.partition tenant).find? k = some a := by
  induction xs generalizing inv with
  | nil => simp [sown]
  | cons x xs ih =>
      obtain ⟨here, rest⟩ := places_cons.1 places
      have written : ((x.into inv).partition tenant).find? k = some a ↔
          (x.key = (tenant, k) ∧ a = x.filed) ∨ (inv.partition tenant).find? k = some a := by
        rw [Seedling.into, find?_put]
        simp only [Seedling.key, Prod.mk.injEq]
        split
        · next same =>
          obtain ⟨rfl, rfl⟩ := same
          simp [here.free, eq_comm]
        · next other => simp [eq_comm (b := tenant), eq_comm (b := k), other]
      rw [show sown (x :: xs) inv = sown xs (x.into inv) from rfl, ih rest, written, ← or_assoc]
      simp only [List.mem_cons, exists_eq_or_imp]
      rw [or_comm (a := x.key = (tenant, k) ∧ a = x.filed)]

theorem setPartition_twice (inv : Inventory) (tenant : String) (p q : Partition) :
    (inv.setPartition tenant p).setPartition tenant q = inv.setPartition tenant q :=
  congrArg Inventory.mk (Table.insert_insert ..)

theorem setPartition_comm {other : String} (apart : other ≠ tenant) (p q : Partition) :
    (inv.setPartition tenant p).setPartition other q = (inv.setPartition other q).setPartition tenant p :=
  congrArg Inventory.mk (Table.insert_comm apart ..)

theorem into_comm {y : Seedling} (apart : x.key ≠ y.key) (inv : Inventory) :
    x.into (y.into inv) = y.into (x.into inv) := by
  by_cases same : x.tenant = y.tenant
  · have ids : x.resource.id ≠ y.resource.id := fun id => apart (Prod.ext same id)
    have inserted := Table.insert_comm ids x.filed y.filed (inv.partition y.tenant)
    simp only [Seedling.into, put, same, partition_setPartition_self, setPartition_twice, inserted]
  · have other : y.tenant ≠ x.tenant := fun eq => same eq.symm
    simp only [Seedling.into, put, partition_setPartition_ne same, partition_setPartition_ne other]
    exact setPartition_comm same _ _

/-- Seedlings with places of their own may be filed in any order. -/
theorem sown_perm (apart : (xs.map Seedling.key).Nodup) (perm : ys.Perm xs) (inv : Inventory) :
    sown ys inv = sown xs inv := by
  have commute : ∀ x ∈ xs, ∀ y ∈ xs, ∀ inv, y.into (x.into inv) = x.into (y.into inv) := by
    intro x first y second inv
    by_cases same : x = y
    · rw [same]
    · have keys : x.key ≠ y.key := fun key => same (List.inj_on_of_nodup_map apart first second key)
      exact (into_comm keys inv).symm
  exact (perm.symm.foldl_eq' (fun x first y second inv => commute x first y second inv) inv).symm

/-- The resources of all seeds, on their way. -/
def seedlings (now : String) (seeds : List (String × TenantSeed)) : List Seedling :=
  seeds.flatMap fun (tenant, seed) => seed.resources.map (⟨tenant, now, ·⟩)

variable {seeds visited : List (String × TenantSeed)}

theorem mem_seedlings : x ∈ seedlings now seeds ↔
    ∃ seed, (x.tenant, seed) ∈ seeds ∧ x.resource ∈ seed.resources ∧ x.at_ = now := by
  simp only [seedlings, List.mem_flatMap, List.mem_map, Prod.exists]
  constructor
  · rintro ⟨tenant, seed, member, r, listed, rfl⟩
    exact ⟨seed, member, listed, rfl⟩
  · rintro ⟨seed, member, listed, rfl⟩
    exact ⟨x.tenant, seed, member, x.resource, listed, rfl⟩

theorem sow_append (xs ys : List Seedling) (s : Inventory × Ids) : sow (xs ++ ys) s = sow xs s >>= sow ys := by
  induction xs generalizing s with
  | nil => rfl
  | cons x xs ih =>
      obtain ⟨inv, ids⟩ := s
      simp only [List.cons_append, sow]
      cases (inv.create ids x.at_ x.tenant x.resource).1 with
      | error e => rfl
      | ok made => exact ih _

theorem createAll_eq (now tenant : String) (rs : List Resource) (s : Inventory × Ids) :
    createAll now tenant rs s = sow (rs.map (⟨tenant, now, ·⟩)) s := by
  induction rs generalizing s with
  | nil => rfl
  | cons r rs ih =>
      obtain ⟨inv, ids⟩ := s
      simp only [createAll, List.map_cons, sow, ih]

/-- To plant seeds is to sow all that is in them, and to count it. -/
theorem plant_iff {s done : Inventory × Ids} {count : Nat} : plant now seeds s = .ok (count, done) ↔
    sow (seedlings now seeds) s = .ok done ∧ count = (seedlings now seeds).length := by
  induction seeds generalizing s count with
  | nil => simp [plant, seedlings, sow, and_comm, eq_comm]
  | cons seed seeds ih =>
      obtain ⟨tenant, seed⟩ := seed
      have split : seedlings now ((tenant, seed) :: seeds) =
          seed.resources.map (⟨tenant, now, ·⟩) ++ seedlings now seeds := rfl
      rw [split, sow_append, List.length_append, List.length_map, Answer.bind_ok, plant, createAll_eq]
      simp only [Answer.bind_ok, Answer.during_eq_ok]
      constructor
      · rintro ⟨next, first, ⟨n, last⟩, rest, returned⟩
        cases returned
        obtain ⟨rest, rfl⟩ := ih.1 rest
        exact ⟨⟨next, first, rest⟩, rfl⟩
      · rintro ⟨⟨next, first, rest⟩, rfl⟩
        exact ⟨next, first, _, ih.2 ⟨rest, rfl⟩, rfl⟩

theorem kind_of_seed {seed : TenantSeed} {r : Resource} (listed : r ∈ seed.resources) :
    r.kind ≠ .schedule := by
  simp only [TenantSeed.resources, List.mem_append, List.mem_map] at listed
  rcases listed with (⟨region, -, rfl⟩ | ⟨site, -, rfl⟩) | ⟨host, -, rfl⟩ <;> exact nofun

/-- No two tenants have a place in common. -/
theorem keys_nodup (now : String) (tenants : (seeds.map (·.1)).Nodup) :
    ((seedlings now seeds).map Seedling.key).Nodup ↔ ∀ s ∈ seeds, (s.2.resources.map Resource.id).Nodup := by
  have own (tenant : String) (rs : List Resource) :
      (rs.map fun r => (tenant, r.id)).Nodup ↔ (rs.map Resource.id).Nodup := by
    rw [show (rs.map fun r => (tenant, r.id)) = (rs.map Resource.id).map (Prod.mk tenant) by rw [List.map_map]; rfl]
    exact List.nodup_map_iff fun a b same => congrArg Prod.snd same
  have others : seeds.Pairwise (Function.onFun List.Disjoint fun s => s.2.resources.map fun r => (s.1, r.id)) := by
    refine (List.pairwise_map.1 tenants).imp fun apart key mine yours => ?_
    obtain ⟨r, -, rfl⟩ := List.mem_map.1 mine
    obtain ⟨q, -, same⟩ := List.mem_map.1 yours
    exact apart (congrArg Prod.fst same).symm
  have keys : (seedlings now seeds).map Seedling.key =
      seeds.flatMap fun s => s.2.resources.map fun r => (s.1, r.id) := by
    simp only [seedlings, List.map_flatMap, List.map_map]
    rfl
  rw [keys, List.nodup_flatMap]
  simp only [own, others, and_true]

theorem place_empty : ({} : Inventory).Place x ↔ x.resource.kind.isId x.resource.id = true :=
  ⟨Place.valid, fun valid => ⟨valid, rfl⟩⟩

/-- In an empty inventory there is a place for every ID that is one of its kind and stands once in its seed. -/
theorem places_seedlings (now : String) (tenants : (seeds.map (·.1)).Nodup) :
    ({} : Inventory).Places (seedlings now seeds) ↔
      (∀ s ∈ seeds, ∀ r ∈ s.2.resources, r.kind.isId r.id = true) ∧
      ∀ s ∈ seeds, (s.2.resources.map Resource.id).Nodup := by
  rw [← keys_nodup now tenants]
  constructor
  · rintro ⟨each, apart⟩
    refine ⟨fun s member r listed => ?_, apart⟩
    exact (each ⟨s.1, now, r⟩ (mem_seedlings.2 ⟨s.2, member, listed, rfl⟩)).valid
  · rintro ⟨valid, apart⟩
    refine ⟨fun x member => ?_, apart⟩
    obtain ⟨seed, member, listed, -⟩ := mem_seedlings.1 member
    exact place_empty.2 (valid _ member _ listed)

theorem Sound.sow {inv next : Inventory} {rest : Ids} (sound : inv.Sound)
    (done : sow xs (inv, ids) = .ok (next, rest)) : next.Sound := by
  induction xs generalizing inv ids with
  | nil =>
      cases done
      exact sound
  | cons x xs ih =>
      have kept := sound.create ids x.at_ x.tenant x.resource
      simp only [Inventory.sow] at done
      obtain ⟨made, -, done⟩ := Answer.bind_ok.1 done
      exact ih kept done

/-- Seeds that choose all their IDs are planted where all seedlings have places. -/
theorem plant_chosen_iff (chosen : ∀ s ∈ seeds, ∀ r ∈ s.2.resources, r.id ≠ "") {done : Nat × Inventory × Ids} :
    plant now seeds (inv, ids) = .ok done ↔ inv.Places (seedlings now seeds) ∧
      done = ((seedlings now seeds).length, sown (seedlings now seeds) inv, ids) := by
  have all : ∀ x ∈ seedlings now seeds, x.Chosen := by
    intro x member
    obtain ⟨seed, among, listed, -⟩ := mem_seedlings.1 member
    exact ⟨kind_of_seed listed, chosen _ among _ listed⟩
  obtain ⟨count, done⟩ := done
  rw [plant_iff, sow_iff all, and_assoc]
  exact and_congr_right fun _ => and_comm.trans (Prod.mk.injEq ..).to_iff.symm

/-- What is found where seeds were planted. -/
theorem find?_planted (places : ({} : Inventory).Places (seedlings now seeds)) {a : Resource} :
    ((sown (seedlings now seeds) {}).partition tenant).find? k = some a ↔
      ∃ seed, (tenant, seed) ∈ seeds ∧ ∃ r ∈ seed.resources, r.id = k ∧ a = r.filed k tenant now := by
  rw [find?_sown places]
  constructor
  · rintro (⟨x, member, key, rfl⟩ | none)
    · obtain ⟨seed, among, listed, rfl⟩ := mem_seedlings.1 member
      cases key
      exact ⟨seed, among, x.resource, listed, rfl, rfl⟩
    · cases none
  · rintro ⟨seed, among, r, listed, rfl, rfl⟩
    exact .inl ⟨⟨tenant, now, r⟩, mem_seedlings.2 ⟨seed, among, listed, rfl⟩, rfl, rfl⟩

/-- Of seeds that choose all their IDs all is planted or nothing, whichever tenant comes first. It is all planted just
when every ID is one of its kind and no tenant has one twice; and then every tenant has what its seed has, and no
more, with the tenant and the time filled in. -/
theorem plant_exact (now : String) (ids : Ids) {seeds : List (String × TenantSeed)}
    (tenants : (seeds.map (·.1)).Nodup) (chosen : ∀ s ∈ seeds, ∀ r ∈ s.2.resources, r.id ≠ "") :
    ((∃ done, plant now seeds ({}, ids) = .ok done) ↔
      (∀ s ∈ seeds, ∀ r ∈ s.2.resources, r.kind.isId r.id = true) ∧
      ∀ s ∈ seeds, (s.2.resources.map Resource.id).Nodup) ∧
    (∀ count inv rest, plant now seeds ({}, ids) = .ok (count, inv, rest) →
      count = (seeds.flatMap fun s => s.2.resources).length ∧ rest = ids ∧
      ∀ tenant, (inv.partition tenant).Ordered ∧ ∀ k a, (inv.partition tenant).find? k = some a ↔
        ∃ seed, (tenant, seed) ∈ seeds ∧ ∃ r ∈ seed.resources, r.id = k ∧ a = r.filed k tenant now) ∧
    ∀ visited, visited.Perm seeds →
      ∀ done, plant now visited ({}, ids) = .ok done ↔ plant now seeds ({}, ids) = .ok done := by
  refine ⟨?_, ?_, ?_⟩
  · rw [← places_seedlings now tenants]
    constructor
    · rintro ⟨done, run⟩
      exact ((plant_chosen_iff chosen).1 run).1
    · intro places
      exact ⟨_, (plant_chosen_iff chosen).2 ⟨places, rfl⟩⟩
  · intro count inv rest run
    have sound := sound_empty.sow (plant_iff.1 run).1
    obtain ⟨places, same⟩ := (plant_chosen_iff chosen).1 run
    cases same
    have total : (seedlings now seeds).length = (seeds.flatMap fun s => s.2.resources).length := by
      simp only [seedlings, List.length_flatMap, List.length_map]
    exact ⟨total, rfl, fun tenant => ⟨(sound tenant).ordered, fun k a => find?_planted places⟩⟩
  · intro visited perm done
    have named : ∀ s ∈ visited, ∀ r ∈ s.2.resources, r.id ≠ "" := fun s member => chosen s (perm.mem_iff.1 member)
    have distinct : (visited.map (·.1)).Nodup := (perm.map _).nodup_iff.2 tenants
    have places : ({} : Inventory).Places (seedlings now visited) ↔ ({} : Inventory).Places (seedlings now seeds) := by
      simp only [places_seedlings now distinct, places_seedlings now tenants, perm.mem_iff]
    have order : (seedlings now visited).Perm (seedlings now seeds) := perm.flatMap_right _
    rw [plant_chosen_iff named, plant_chosen_iff chosen, places]
    refine and_congr_right fun fit => ?_
    rw [order.length_eq, sown_perm fit.apart order]

/-- Two tenants' seeds, with one ID in both. -/
def grove : List (String × TenantSeed) :=
  [("b", { hosts := [{ id := "host-00000001", name := "theirs", tenant := "a" }] }),
    ("a",
      { regions := [{ id := "region-00000001" }]
        hosts := [{ id := "host-00000001", siteId := "site-00000009" }] })]

theorem plant_exact_grove :
    (grove.map (·.1)).Nodup ∧ (∀ s ∈ grove, ∀ r ∈ s.2.resources, r.id ≠ "") ∧
      ∃ inv, plant "now" grove ({}, {}) = .ok (3, inv, {}) ∧
        plant "now" grove.reverse ({}, {}) = .ok (3, inv, {}) ∧
        (inv.partition "b").find? "host-00000001" = some (.host
          { id := "host-00000001", name := "theirs", tenant := "b", createdAt := "now", updatedAt := "now" }) := by
  have tenants : (grove.map (·.1)).Nodup := by decide
  have chosen : ∀ s ∈ grove, ∀ r ∈ s.2.resources, r.id ≠ "" := by decide
  obtain ⟨all, exactly, order⟩ := plant_exact "now" {} tenants chosen
  obtain ⟨⟨count, inv, rest⟩, run⟩ := all.2 ⟨by decide, by decide⟩
  obtain ⟨rfl, rfl, found⟩ := exactly count inv rest run
  refine ⟨tenants, chosen, inv, run, (order _ (List.reverse_perm grove) _).2 run, ?_⟩
  exact ((found "b").2 _ _).2 ⟨_, List.mem_cons_self, _, List.mem_singleton.2 rfl, rfl, rfl⟩

end Inventory
end Upkeep
