import Upkeep.Proofs.Cache.Transparent
import Upkeep.Proofs.Schedule.Narrow
import Upkeep.Proofs.Service.Plan

/-! Inventories whose schedules are all narrow. Where schedules are written through the service
only, every run keeps an inventory so, and all that it holds can be shown to callers. -/
namespace Upkeep

def Inventory.Narrow (inv : Inventory) : Prop :=
  ∀ tenant k s, (inv.partition tenant).find? k = some (.schedule s) → s.Narrow

namespace Inventory
variable {inv : Inventory} {tenant id : String} {r : Resource}

theorem narrow_empty : ({} : Inventory).Narrow := fun _ _ _ found => nomatch found

theorem Narrow.setPartition (narrow : inv.Narrow) {p : Partition}
    (each : ∀ k s, p.find? k = some (.schedule s) → s.Narrow) : (inv.setPartition tenant p).Narrow := by
  intro other k s found
  rw [partition_setPartition] at found
  split at found
  · exact each k s found
  · exact narrow other k s found

theorem Narrow.put (narrow : inv.Narrow) (new : ∀ s, r = .schedule s → s.Narrow) :
    (inv.put tenant id r).Narrow := by
  apply narrow.setPartition
  intro k s found
  rw [Table.find?_insert] at found
  split at found
  · exact new s (Option.some.inj found)
  · exact narrow tenant k s found

theorem Narrow.erase (narrow : inv.Narrow) :
    (inv.setPartition tenant ((inv.partition tenant).erase id)).Narrow := by
  apply narrow.setPartition
  intro k s found
  rw [Table.find?_erase] at found
  split at found
  · cases found
  · exact narrow tenant k s found

theorem prepare_narrow {p : Partition} {now : String} {filed : Resource}
    (source : ∀ s, r = .schedule s → s.Narrow) (done : p.prepare tenant now id r = .ok filed) :
    ∀ s, filed = .schedule s → s.Narrow := by
  cases r with
  | schedule s =>
      obtain ⟨-, done⟩ := Answer.after_ok.1 done
      obtain ⟨-, done⟩ := Answer.after_ok.1 done
      cases done
      rintro _ ⟨⟩
      have narrow := source s rfl
      exact ⟨narrow.start, narrow.finish⟩
  | host h =>
      cases done
      intro s same
      cases same
  | site s =>
      cases done
      intro s same
      cases same
  | region r =>
      cases done
      intro s same
      cases same

theorem Narrow.create (narrow : inv.Narrow) (ids : Ids) (now tenant : String)
    (source : ∀ s, r = .schedule s → s.Narrow) : (inv.create ids now tenant r).2.1.Narrow := by
  obtain ⟨e, rest, failed⟩ | ⟨filed, rest, created, done⟩ := create_cases inv ids now tenant r
  · rw [failed]
    exact narrow
  · rw [done]
    exact narrow.put (prepare_narrow source created.prepared)

theorem Narrow.update (narrow : inv.Narrow) (now tenant id : String) (mask : List String)
    (source : ∀ s, r = .schedule s → s.Narrow) : (inv.update now tenant id mask r).2.Narrow := by
  obtain ⟨e, failed⟩ | ⟨current, incoming, updated, found, same, revised, done⟩ :=
    update_cases inv now tenant id mask r
  · rw [failed]
    exact narrow
  · rw [done]
    apply narrow.put
    rintro _ ⟨⟩
    exact Partition.revise_narrow (narrow tenant id current found) (source incoming same) revised

theorem Narrow.delete (narrow : inv.Narrow) (tenant id : String) :
    (inv.delete tenant id).2.Narrow := by
  obtain ⟨e, failed⟩ | ⟨old, found, free, done⟩ := delete_cases inv tenant id
  · rw [failed]
    exact narrow
  · rw [done]
    exact narrow.erase

/-- What every inventory keeps to which schedules come through the service only. -/
structure Lasts (P : Inventory → Prop) : Prop where
  empty : P {}
  create : ∀ {inv r} ids now tenant, (∀ s, r = .schedule s → s.Narrow) → P inv →
    P (inv.create ids now tenant r).2.1
  update : ∀ {inv r} now tenant id mask, (∀ s, r = .schedule s → s.Narrow) → P inv →
    P (inv.update now tenant id mask r).2
  delete : ∀ {inv} tenant id, P inv → P (inv.delete tenant id).2

theorem lasts_narrow : Lasts Narrow where
  empty := narrow_empty
  create ids now tenant source narrow := narrow.create ids now tenant source
  update now tenant id mask source narrow := narrow.update now tenant id mask source
  delete tenant id narrow := narrow.delete tenant id

theorem lasts_sound : Lasts Sound where
  empty := sound_empty
  create ids now tenant _ sound := sound.create ids now tenant _
  update now tenant id mask _ sound := sound.update now tenant id mask _
  delete tenant id sound := sound.delete tenant id

end Inventory

namespace Deployment
variable {d : Deployment} {ctx : Context} {tenant : String}

theorem load_keeps {P : Deployment → Prop} (q : Inquiry) : Action.Keeps P (load ctx q) := by
  intro d before
  rw [load_result]
  exact before

/-- To look something up can change a cache, of whatever kind, and nothing else. -/
theorem seek_keeps {P : Deployment → Prop} (others : ∀ d cache, P d → P { d with cache }) (q : Inquiry) :
    Action.Keeps P (seek ctx tenant q) := by
  cases q with
  | one id =>
      exact .readThrough (fun d before => others d _ before) (load_keeps (.one id))
        fun _ _ d before => others d _ before
  | page key =>
      exact .readThrough (fun d before => others d _ before) (load_keeps (.page key))
        fun _ _ d before => others d _ before

section Lasting
variable {P : Inventory → Prop} (lasts : Inventory.Lasts P)
include lasts

theorem create_lasts {r : Resource} (source : ∀ s, r = .schedule s → s.Narrow) :
    Action.Keeps (fun d => P d.inventory) (create ctx r) :=
  entered_keeps fun tenant d _ before => lasts.create d.ids d.time tenant source before

theorem delete_lasts (id : String) : Action.Keeps (fun d => P d.inventory) (delete ctx id) :=
  entered_keeps fun tenant _ _ before => lasts.delete tenant id before

/-- Whatever cache it has, a backend keeps in its inventory what lasts. -/
theorem backend_lasts (tenant : String) :
    backend.Keeps (fun d => P d.inventory) Schedule.Narrow ctx tenant where
  check := fun _ before => before
  schedule := fun id => seek_keeps (fun _ _ before => before) (.one id)
  page := fun offset limit criteria => seek_keeps (fun _ _ before => before) (.page ⟨offset, limit, criteria⟩)
  create := fun s narrow => create_lasts lasts (r := .schedule s) (by rintro _ ⟨⟩; exact narrow)
  update := fun id mask s narrow => entered_keeps fun tenant d _ before =>
    lasts.update d.time tenant id mask (by rintro _ ⟨⟩; exact narrow) before
  delete := fun id _ => delete_lasts lasts id
  invalidate := fun _ _ _ before => before

theorem step_lasts (before : P d.inventory) (event : Event) : P (step backend d event).2.inventory := by
  cases event with
  | serve set ctx cancelled request =>
      exact Service.serve_keeps (fun tenant _ => backend_lasts lasts tenant)
        (fun _ _ => Wire.Schedule.toStored_narrow) set request _ before
  | plant ctx cancelled t =>
      refine create_lasts lasts (fun s same => ?_) _ before
      cases t <;> cases same
  | uproot ctx cancelled id outside => exact delete_lasts lasts id _ before
  | wait ms => exact before

theorem run_lasts (events : List Event) : ∀ {d : Deployment}, P d.inventory →
    P (run backend events d).2.inventory := by
  induction events with
  | nil => exact id
  | cons event rest ih => exact fun before => ih (step_lasts lasts before event)

end Lasting

/-- The deployments that runs of the service lead to, from an empty inventory on, whatever stands
in the cache. -/
def Served (d : Deployment) : Prop :=
  ∃ events ids now cache, d = (run backend events { ids, now, cache }).2

theorem Served.lasts {P : Inventory → Prop} (served : d.Served) (lasts : Inventory.Lasts P) : P d.inventory := by
  obtain ⟨events, ids, now, cache, rfl⟩ := served
  exact run_lasts lasts events lasts.empty

/-- The deployments that runs of the service lead to, from an empty inventory and an empty cache
in memory on. -/
def Reached (d : Deployment) : Prop :=
  ∃ events limits ids now, d = (run backend events { ids, now, cache := .memory limits {} }).2

theorem Mirrors.self {d e : Deployment} (h : Mirrors d e) : Mirrors d d :=
  ⟨rfl, rfl, rfl, rfl, h.sound, h.fresh⟩

theorem mirrors_empty (limits : CacheLimits) (ids : Ids) (now : Nat) :
    let start : Deployment := { ids, now, cache := .memory limits {} }
    Mirrors start start :=
  ⟨rfl, rfl, rfl, rfl, Inventory.sound_empty, limits, {}, rfl, Memory.fresh_empty _⟩

theorem Reached.mirrors {d : Deployment} (reached : d.Reached) : Mirrors d d := by
  obtain ⟨events, limits, ids, now, rfl⟩ := reached
  exact (run_alike events (mirrors_empty limits ids now)).2.self

theorem Reached.served (reached : d.Reached) : d.Served := by
  obtain ⟨events, limits, ids, now, rfl⟩ := reached
  exact ⟨events, ids, now, _, rfl⟩

theorem Reached.narrow (reached : d.Reached) : d.inventory.Narrow :=
  reached.served.lasts Inventory.lasts_narrow

end Deployment
end Upkeep
