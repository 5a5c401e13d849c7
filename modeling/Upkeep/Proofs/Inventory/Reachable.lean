import Upkeep.Deployment
import Upkeep.Proofs.Action
import Upkeep.Proofs.Inventory.Listing

/-! The inventories that calls can lead to. All of them are sound, and every schedule that a
call answers with shows its target in full. -/
namespace Upkeep

namespace Deployment

def caller (d : Deployment) (ctx : Context) : Answer String := do
  ctx.check d.cancelled d.now
  ctx.requireTenant

theorem tenant_of_caller {d : Deployment} {ctx : Context} {tenant : String}
    (h : d.caller ctx = .ok tenant) : ctx.tenant = some tenant := by
  obtain ⟨-, required⟩ := Answer.after_ok.1 h
  unfold Context.requireTenant at required
  split at required
  · next t has =>
    cases required
    exact has
  · cases required

theorem enter_result (ctx : Context) (d : Deployment) : (enter ctx).result d = (d.caller ctx, d) := by
  have checked : (check ctx).result d = (ctx.check d.cancelled d.now, d) := rfl
  unfold enter caller
  rw [Action.result_bind, checked]
  cases ctx.check d.cancelled d.now with
  | error e => rfl
  | ok u => rfl

/-- A call that is let in does its work for the tenant; any other leaves all as it is. -/
theorem entered_result {α : Type} (ctx : Context) (f : String → Action Deployment α) (d : Deployment) :
    (enter ctx >>= f).result d = match d.caller ctx with
      | .ok tenant => (f tenant).result d
      | .error e => (.error e, d) := by
  rw [Action.result_bind, enter_result]
  cases d.caller ctx with
  | error e => rfl
  | ok tenant => rfl

/-- A call keeps what the work that it does for its tenant keeps. -/
theorem entered_keeps {α : Type} {ctx : Context} {P : Deployment → Prop}
    {f : String → Deployment → Answer α × Deployment}
    (each : ∀ tenant d, ctx.tenant = some tenant → P d → P (f tenant d).2) :
    Action.Keeps P (enter ctx >>= fun tenant => Action.of (f tenant)) := by
  intro d before
  rw [entered_result]
  cases admitted : d.caller ctx with
  | error e => exact before
  | ok tenant => exact each tenant d (tenant_of_caller admitted) before

end Deployment

/-- The inventories that calls lead to from the empty one, each call under any context, at any
time and with any supply of words. -/
inductive Inventory.Reachable : Inventory → Prop
  | empty : Reachable {}
  | create {d : Deployment} (ctx : Context) (r : Resource) :
      Reachable d.inventory → Reachable ((Deployment.create ctx r).result d).2.inventory
  | update {d : Deployment} (ctx : Context) (id : String) (mask : List String) (r : Resource) :
      Reachable d.inventory → Reachable ((Deployment.update ctx id mask r).result d).2.inventory
  | delete {d : Deployment} (ctx : Context) (id : String) :
      Reachable d.inventory → Reachable ((Deployment.delete ctx id).result d).2.inventory

def Resource.schedules : Resource → List Schedule
  | .schedule s => [s]
  | _ => []

namespace Deployment
variable {d : Deployment}

theorem create_sound (sound : d.inventory.Sound) (ctx : Context) (r : Resource) :
    ((create ctx r).result d).2.inventory.Sound := by
  unfold create
  rw [entered_result]
  split
  · next tenant admitted => exact sound.create d.ids d.time tenant r
  · exact sound

theorem update_sound (sound : d.inventory.Sound) (ctx : Context) (id : String) (mask : List String)
    (r : Resource) : ((update ctx id mask r).result d).2.inventory.Sound := by
  unfold update
  rw [entered_result]
  split
  · next tenant admitted => exact sound.update d.time tenant id mask r
  · exact sound

theorem delete_sound (sound : d.inventory.Sound) (ctx : Context) (id : String) :
    ((delete ctx id).result d).2.inventory.Sound := by
  unfold delete
  rw [entered_result]
  split
  · next tenant admitted => exact sound.delete tenant id
  · exact sound

end Deployment

theorem Inventory.Reachable.sound {inv : Inventory} (reachable : inv.Reachable) : inv.Sound := by
  induction reachable with
  | empty => exact Inventory.sound_empty
  | create ctx r before ih => exact Deployment.create_sound ih ctx r
  | update ctx id mask r before ih => exact Deployment.update_sound ih ctx id mask r
  | delete ctx id before ih => exact Deployment.delete_sound ih ctx id

namespace Deployment
variable {d : Deployment}

/-- Every schedule that a call answers with is one kept for the caller, with its target in
full. -/
def Shows {α : Type} (d : Deployment) (ctx : Context) (call : Action Deployment α)
    (seen : α → List Schedule) : Prop :=
  ∀ a after, call.result d = (.ok a, after) → ∀ s ∈ seen a,
    ∃ tenant, ctx.tenant = some tenant ∧ (after.inventory.partition tenant).Shown s

/-- It is enough to look at what a call does for a tenant who is let in. -/
theorem shows_of_admitted {α : Type} {ctx : Context} {f : String → Deployment → Answer α × Deployment}
    {seen : α → List Schedule}
    (each : ∀ tenant a after, f tenant d = (.ok a, after) → ∀ s ∈ seen a,
      (after.inventory.partition tenant).Shown s) :
    d.Shows ctx (enter ctx >>= fun tenant => Action.of (f tenant)) seen := by
  intro a after done s member
  rw [entered_result] at done
  split at done
  · next tenant admitted => exact ⟨tenant, tenant_of_caller admitted, each tenant a after done s member⟩
  · cases done

theorem view_schedules_shown {tenant k : String} {p : Partition} (sound : p.Sound tenant)
    {r : Resource} (found : p.find? k = some r) : ∀ s ∈ (p.view r).schedules, p.Shown s := by
  intro s member
  unfold Resource.schedules at member
  split at member
  · next shown same =>
    cases List.mem_singleton.1 member
    exact sound.view_shown found same
  · cases member

theorem create_shows (sound : d.inventory.Sound) (ctx : Context) (r : Resource) :
    d.Shows ctx (create ctx r) Resource.schedules := by
  apply shows_of_admitted
  intro tenant a after done s member
  obtain ⟨e, rest, failed⟩ | ⟨filed, rest, created, made⟩ :=
    Inventory.create_cases d.inventory d.ids d.time tenant r
  · rw [failed] at done
    cases done
  · rw [made] at done
    cases done
    refine view_schedules_shown ((sound.put_created created) tenant) (k := filed.id) ?_ s member
    rw [Inventory.partition_put, Table.find?_insert, if_pos rfl]

theorem get_shows (sound : d.inventory.Sound) (ctx : Context) (id : String) :
    d.Shows ctx (get ctx id) Resource.schedules := by
  apply shows_of_admitted
  intro tenant a after done s member
  obtain ⟨got, rfl⟩ := Prod.ext_iff.1 done
  obtain ⟨kept, found, rfl⟩ := Inventory.get_ok.1 got
  exact view_schedules_shown (sound tenant) found s member

theorem list_shows (sound : d.inventory.Sound) (ctx : Context) (q : Query) :
    d.Shows ctx (list ctx q) (fun page => page.items.flatMap Resource.schedules) := by
  apply shows_of_admitted
  intro tenant page after done s member
  obtain ⟨listed, rfl⟩ := Prod.ext_iff.1 done
  obtain ⟨r, onPage, shown⟩ := List.mem_flatMap.1 member
  obtain ⟨kept, there, -, rfl⟩ := Inventory.mem_list listed r onPage
  obtain ⟨k, found⟩ := (sound tenant).ordered.mem_values.1 there
  exact view_schedules_shown (sound tenant) found s shown

theorem update_shows (sound : d.inventory.Sound) (ctx : Context) (id : String) (mask : List String)
    (r : Resource) : d.Shows ctx (update ctx id mask r) Resource.schedules := by
  apply shows_of_admitted
  intro tenant a after done s member
  obtain ⟨e, failed⟩ | ⟨current, incoming, updated, found, -, revised, made⟩ :=
    Inventory.update_cases d.inventory d.time tenant id mask r
  · rw [failed] at done
    cases done
  · rw [made] at done
    cases done
    cases List.mem_singleton.1 member
    refine ((sound.put_revised found revised).2 tenant).hydrate_shown (k := id) ?_
    rw [Inventory.partition_put, Table.find?_insert, if_pos rfl]

/-- Whatever calls were made, an inventory is sound, and no schedule is ever answered with a
target that leads nowhere. -/
theorem integrity_of_reachable (reachable : d.inventory.Reachable) (ctx : Context) :
    d.inventory.Sound ∧
    (∀ r, d.Shows ctx (create ctx r) Resource.schedules) ∧
    (∀ id, d.Shows ctx (get ctx id) Resource.schedules) ∧
    (∀ q, d.Shows ctx (list ctx q) fun page => page.items.flatMap Resource.schedules) ∧
    (∀ id mask r, d.Shows ctx (update ctx id mask r) Resource.schedules) :=
  have sound := reachable.sound
  ⟨sound, create_shows sound ctx, get_shows sound ctx, list_shows sound ctx, update_shows sound ctx⟩

/-- A deployment with a host, and a schedule that was created for it. -/
def sheltered : Deployment :=
  let ctx : Context := { tenant := some "a" }
  let bare : Deployment := { cache := .memory ⟨0, 0⟩ {} }
  let host := (create ctx (.host { id := "host-00000001", name := "h" })).result bare
  ((create ctx (.schedule { target := some (.host { id := "host-00000001" }) })).result host.2).2

def shelteredSchedule : Schedule :=
  let at_ := "1970-01-01T00:00:00.000Z"
  { id := "singlesche-f0000000", tenant := "a", createdAt := at_, updatedAt := at_,
    target := some (.host
      { id := "host-00000001", name := "h", tenant := "a", createdAt := at_, updatedAt := at_ }) }

theorem integrity_of_sheltered :
    sheltered.inventory.Reachable ∧
    ((get { tenant := some "a" } "singlesche-f0000000").result sheltered).1 =
      .ok (.schedule shelteredSchedule) ∧
    (sheltered.inventory.partition "a").Shown shelteredSchedule := by
  have reachable : sheltered.inventory.Reachable := .create _ _ (.create _ _ .empty)
  refine ⟨reachable, rfl, ?_⟩
  have shows := (integrity_of_reachable reachable { tenant := some "a" }).2.2.1 "singlesche-f0000000"
  obtain ⟨tenant, caller, shown⟩ := shows _ _ rfl shelteredSchedule (List.mem_singleton_self _)
  cases caller
  exact shown

end Deployment
end Upkeep
