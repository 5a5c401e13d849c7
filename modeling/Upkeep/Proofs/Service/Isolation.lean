import Upkeep.Proofs.Cache.Lasting
import Upkeep.Proofs.Cache.Seek
import Upkeep.Proofs.Inventory.Tenancy
import Upkeep.Proofs.Service.Plan

/-! Tenants are apart. What is done for a tenant is answered from the tenant's own partition of
the inventory and own drawer of the cache, and touches no others, so in a run of calls by many
tenants each gets the answers that it would get alone. -/
namespace Upkeep
open Upkeep.Action (Alike Ends)

namespace Memory
variable {m n : Memory} {limits : CacheLimits} {now : Nat} {tenant id : String} {g : UInt64}
  {q : Inquiry} {a : q.Item}

theorem known?_same (same : n.drawer tenant = m.drawer tenant) :
    n.known? limits now tenant q = m.known? limits now tenant q := by
  cases q with
  | one id => simp only [known?, schedule?, same]
  | page key => simp only [known?, page?, same]

theorem generation_same (same : n.drawer tenant = m.drawer tenant) :
    n.generation tenant = m.generation tenant := by
  simp only [generation, same]

theorem drawer_file_same (same : n.drawer tenant = m.drawer tenant) :
    (n.file limits now tenant g q a).drawer tenant = (m.file limits now tenant g q a).drawer tenant := by
  cases q with
  | one id =>
      simp only [file, fileSchedule, same]
      split
      · simp only [drawer_setDrawer, if_true]
      · exact same
  | page key =>
      simp only [file, filePage, same]
      split
      · simp only [drawer_setDrawer, if_true]
      · exact same

theorem drawer_invalidate_same {c : Change} (same : n.drawer tenant = m.drawer tenant) :
    (n.invalidate tenant id c).drawer tenant = (m.invalidate tenant id c).drawer tenant := by
  simp only [invalidate, drawer_setDrawer, if_true, same]

end Memory

namespace Deployment
variable {d e : Deployment} {ctx : Context} {tenant : String}

/-- Two deployments, each with a cache in memory, that have the same for a tenant. -/
structure Shares (tenant : String) (d e : Deployment) : Prop where
  partition : e.inventory.partition tenant = d.inventory.partition tenant
  drawer : ∃ limits m n, d.cache = .memory limits m ∧ e.cache = .memory limits n ∧
    n.drawer tenant = m.drawer tenant

/-- While they serve a call they also have the time and the random words in common. -/
structure Together (tenant : String) (d e : Deployment) : Prop extends Shares tenant d e where
  ids : e.ids = d.ids
  now : e.now = d.now
  cancelled : e.cancelled = d.cancelled

/-- No other tenant's request. -/
def Concerns (tenant : String) (ctx : Context) : Prop := ∀ t, ctx.tenant = some t → t = tenant

namespace Together

theorem caller (h : Together tenant d e) : e.caller ctx = d.caller ctx := by
  unfold Deployment.caller
  rw [h.now, h.cancelled]

theorem time (h : Together tenant d e) : e.time = d.time := by
  unfold Deployment.time
  rw [h.now]

theorem put (h : Together tenant d e) {inv next : Inventory} {rest : Ids}
    (same : next.partition tenant = inv.partition tenant) :
    Together tenant { d with inventory := inv, ids := rest } { e with inventory := next, ids := rest } :=
  ⟨⟨same, h.drawer⟩, rfl, h.now, h.cancelled⟩

theorem cached (h : Together tenant d e) {limits : CacheLimits} {m n : Memory}
    (same : n.drawer tenant = m.drawer tenant) :
    Together tenant { d with cache := .memory limits m } { e with cache := .memory limits n } :=
  ⟨⟨h.partition, limits, m, n, rfl, rfl, same⟩, h.ids, h.now, h.cancelled⟩

theorem filed (h : Together tenant d e) {limits : CacheLimits} {m n : Memory} {q : Inquiry}
    {a : q.Item} (same : n.drawer tenant = m.drawer tenant) :
    Together tenant (d.filed limits m tenant q a) (e.filed limits n tenant q a) := by
  apply h.cached
  rw [h.now, Memory.generation_same same]
  exact Memory.drawer_file_same same

end Together

/-- Two calls that do the same work for the tenant. -/
theorem entered_together {α : Type} {f : String → Deployment → Answer α × Deployment}
    (own : Concerns tenant ctx)
    (each : ∀ d e, Together tenant d e →
      (f tenant d).1 = (f tenant e).1 ∧ Together tenant (f tenant d).2 (f tenant e).2) :
    Alike (Together tenant) (Together tenant) (enter ctx >>= fun t => Action.of (f t))
      (enter ctx >>= fun t => Action.of (f t)) fun _ => Together tenant := by
  intro d e h
  rw [entered_result, entered_result, h.caller]
  cases admitted : d.caller ctx with
  | error f => exact .error h
  | ok t =>
      cases own t (tenant_of_caller admitted)
      obtain ⟨same, after⟩ := each d e h
      exact .of_same same after

theorem create_together (own : Concerns tenant ctx) (r : Resource) :
    Alike (Together tenant) (Together tenant) (create ctx r) (create ctx r) fun _ => Together tenant := by
  apply entered_together own
  intro d e h
  obtain ⟨answer, ids, partition⟩ := Inventory.create_same h.partition d.ids d.time r
  dsimp only
  rw [h.ids, h.time, ids]
  exact ⟨answer.symm, h.put partition⟩

theorem get_together (own : Concerns tenant ctx) (id : String) :
    Alike (Together tenant) (Together tenant) (get ctx id) (get ctx id) fun _ => Together tenant := by
  apply entered_together own
  intro d e h
  exact ⟨(Inventory.get_same h.partition id).symm, h⟩

theorem list_together (own : Concerns tenant ctx) (q : Query) :
    Alike (Together tenant) (Together tenant) (list ctx q) (list ctx q) fun _ => Together tenant := by
  apply entered_together own
  intro d e h
  exact ⟨(Inventory.list_same h.partition q).symm, h⟩

theorem update_together (own : Concerns tenant ctx) (id : String) (mask : List String) (r : Resource) :
    Alike (Together tenant) (Together tenant) (update ctx id mask r) (update ctx id mask r)
      fun _ => Together tenant := by
  apply entered_together own
  intro d e h
  obtain ⟨answer, partition⟩ := Inventory.update_same h.partition d.time id mask r
  dsimp only
  rw [h.time]
  exact ⟨answer.symm, ⟨partition, h.drawer⟩, h.ids, h.now, h.cancelled⟩

theorem delete_together (own : Concerns tenant ctx) (id : String) :
    Alike (Together tenant) (Together tenant) (delete ctx id) (delete ctx id) fun _ => Together tenant := by
  apply entered_together own
  intro d e h
  obtain ⟨answer, partition⟩ := Inventory.delete_same h.partition id
  exact ⟨answer.symm, ⟨partition, h.drawer⟩, h.ids, h.now, h.cancelled⟩

theorem seek_together (own : Concerns tenant ctx) (q : Inquiry) :
    Alike (Together tenant) (Together tenant) (seek ctx tenant q) (seek ctx tenant q)
      fun _ => Together tenant := by
  intro d e h
  obtain ⟨limits, m, n, kept, copied, same⟩ := h.drawer
  have again : n.known? limits e.now tenant q = m.known? limits d.now tenant q := by
    rw [h.now]
    exact Memory.known?_same same
  cases known : m.known? limits d.now tenant q with
  | some a =>
      rw [seek_hit kept known, seek_hit copied (again.trans known)]
      exact .ok h
  | none =>
      rw [seek_miss kept known, seek_miss copied (again.trans known), h.caller]
      cases admitted : d.caller ctx with
      | error f => exact .error h
      | ok t =>
          cases own t (tenant_of_caller admitted)
          dsimp only [bind, Except.bind]
          rw [Inventory.answer_congr h.partition q]
          cases d.inventory.answer tenant q with
          | error f => exact .error h
          | ok a =>
              exact .ok (h.filed same)

theorem check_together (ctx : Context) : Alike (Together tenant) (Together tenant) (check ctx) (check ctx)
    fun _ => Together tenant := by
  intro d e h
  have checked (d : Deployment) : (check ctx).result d = (ctx.check d.cancelled d.now, d) := rfl
  rw [checked, checked, h.now, h.cancelled]
  exact .of_same rfl h

theorem Together.told (h : Together tenant d e) (id : String) (c : Change) :
    Together tenant (invalidate tenant id c d) (invalidate tenant id c e) := by
  obtain ⟨limits, m, n, kept, copied, same⟩ := h.drawer
  unfold invalidate changeCache
  rw [kept, copied]
  exact h.cached (Memory.drawer_invalidate_same same)

theorem create_schedule {s : Schedule} (d : Deployment) (r : Resource)
    (done : ((create ctx (.schedule s)).result d).1 = .ok r) : ∃ made, r = .schedule made := by
  unfold create at done
  rw [entered_result] at done
  split at done
  · exact Inventory.create_schedule done
  · cases done

theorem update_schedule {id : String} {mask : List String} {s : Schedule} (d : Deployment)
    (r : Resource) (done : ((update ctx id mask (.schedule s)).result d).1 = .ok r) : ∃ made, r = .schedule made := by
  unfold update at done
  rw [entered_result] at done
  split at done
  · exact Inventory.update_schedule done
  · cases done

theorem backend_together (own : Concerns tenant ctx) :
    Service.AlikeFor (Together tenant) (Together tenant) backend backend ctx := by
  intro t required
  cases own t (Context.requireTenant_ok.1 required)
  exact
    { check := check_together ctx
      schedule := fun id => seek_together own (.one id)
      page := fun offset limit criteria => seek_together own (.page ⟨offset, limit, criteria⟩)
      create := fun s => by
        apply ((create_together own (.schedule s)).answers create_schedule).post
        rintro r d e ⟨⟨made, rfl⟩, h⟩
        exact ⟨made, rfl, h.told made.id .created⟩
      update := fun id mask s _ => by
        apply ((update_together own id mask (.schedule s)).answers update_schedule).post
        rintro r d e ⟨⟨made, rfl⟩, h⟩
        exact ⟨made, rfl, h.told id .updated⟩
      delete := fun id _ => (delete_together own id).post fun _ _ _ h => h.told id .deleted }

/-- Calls for others leave what a tenant has as it is. -/
theorem entered_apart {α : Type} {P : Deployment → Prop} {f : String → Deployment → Answer α × Deployment}
    {other : String} (caller : ctx.tenant = some other) (each : ∀ d, P d → P (f other d).2) :
    Action.Keeps P (enter ctx >>= fun t => Action.of (f t)) := by
  apply entered_keeps
  intro t d again before
  cases caller.symm.trans again
  exact each d before

section Apart
variable {other : String}

theorem Shares.put (h : Shares tenant d e) {inv : Inventory} {ids : Ids}
    (same : inv.partition tenant = d.inventory.partition tenant) :
    Shares tenant { d with inventory := inv, ids } e :=
  ⟨h.partition.trans same.symm, h.drawer⟩

theorem Shares.cached (h : Shares tenant d e) {limits : CacheLimits} {m k : Memory}
    (kept : d.cache = .memory limits m) (same : k.drawer tenant = m.drawer tenant) :
    Shares tenant { d with cache := .memory limits k } e := by
  obtain ⟨limits', m', n, was, copied, shared⟩ := h.drawer
  cases kept.symm.trans was
  exact ⟨h.partition, limits, k, n, rfl, copied, shared.trans same.symm⟩

theorem create_apart (caller : ctx.tenant = some other) (apart : tenant ≠ other) (r : Resource) :
    Action.Keeps (Shares tenant · e) (create ctx r) :=
  entered_apart caller fun _ h => h.put (Inventory.partition_create_ne apart _ _ r)

theorem update_apart (caller : ctx.tenant = some other) (apart : tenant ≠ other) (id : String)
    (mask : List String) (r : Resource) : Action.Keeps (Shares tenant · e) (update ctx id mask r) :=
  entered_apart caller fun _ h => h.put (Inventory.partition_update_ne apart _ id mask r)

theorem delete_apart (caller : ctx.tenant = some other) (apart : tenant ≠ other) (id : String) :
    Action.Keeps (Shares tenant · e) (delete ctx id) :=
  entered_apart caller fun _ h => h.put (Inventory.partition_delete_ne apart id)

theorem seek_apart (apart : tenant ≠ other) (q : Inquiry) :
    Action.Keeps (Shares tenant · e) (seek ctx other q) := by
  intro d h
  obtain ⟨limits, m, n, kept, -, -⟩ := h.drawer
  cases known : m.known? limits d.now other q with
  | some a =>
      rw [seek_hit kept known]
      exact h
  | none =>
      rw [seek_miss kept known]
      cases d.caller ctx >>= fun t => d.inventory.answer t q with
      | error f => exact h
      | ok a => exact h.cached kept (Memory.drawer_file_ne apart)

theorem backend_apart (caller : ctx.tenant = some other) (apart : tenant ≠ other) :
    backend.Keeps (Shares tenant · e) (fun _ => True) ctx other where
  check := fun _ h => h
  schedule := fun id => seek_apart apart (.one id)
  page := fun offset limit criteria => seek_apart apart (.page ⟨offset, limit, criteria⟩)
  create := fun s _ => create_apart caller apart (.schedule s)
  update := fun id mask s _ => update_apart caller apart id mask (.schedule s)
  delete := fun id _ => delete_apart caller apart id
  invalidate := fun id c d h => by
    obtain ⟨limits, m, n, kept, -, -⟩ := h.drawer
    unfold backend invalidate changeCache
    dsimp only
    rw [kept]
    exact h.cached kept (Memory.drawer_invalidate_ne apart)

end Apart

/-- What a caller can do: have a request served, or use the inventory itself. -/
inductive Errand where
  | serve (set : ServiceSettings) (request : Service.Request)
  | create (r : Resource)
  | get (id : String)
  | list (q : Query)
  | update (id : String) (mask : List String) (r : Resource)
  | delete (id : String)

namespace Errand

abbrev Value : Errand → Type
  | .serve _ _ => Service.Reply
  | .create _ | .get _ | .update _ _ _ => Resource
  | .list _ => Page Resource
  | .delete _ => Unit

def perform (ctx : Context) : (errand : Errand) → Action Deployment errand.Value
  | .serve set request => Service.serve backend set ctx request
  | .create r => Deployment.create ctx r
  | .get id => Deployment.get ctx id
  | .list q => Deployment.list ctx q
  | .update id mask r => Deployment.update ctx id mask r
  | .delete id => Deployment.delete ctx id

theorem perform_together (own : Concerns tenant ctx) (errand : Errand) :
    Alike (Together tenant) (Together tenant) (errand.perform ctx) (errand.perform ctx)
      fun _ => Together tenant := by
  cases errand with
  | serve set request => exact Service.serve_alike (backend_together own) set request
  | create r => exact create_together own r
  | get id => exact get_together own id
  | list q => exact list_together own q
  | update id mask r => exact update_together own id mask r
  | delete id => exact delete_together own id

theorem perform_apart {other : String} (caller : ctx.tenant = some other) (apart : tenant ≠ other)
    (errand : Errand) : Action.Keeps (Shares tenant · e) (errand.perform ctx) := by
  cases errand with
  | serve set request =>
      have each : ∀ t, ctx.tenant = some t → backend.Keeps (Shares tenant · e) (fun _ => True) ctx t := by
        intro t again
        cases caller.symm.trans again
        exact backend_apart caller apart
      exact Service.serve_keeps each (fun _ _ _ => trivial) set request
  | create r => exact create_apart caller apart r
  | get id => exact entered_apart caller fun _ h => h
  | list q => exact entered_apart caller fun _ h => h
  | update id mask r => exact update_apart caller apart id mask r
  | delete id => exact delete_apart caller apart id

end Errand

/-- A call in a run, with what it meets: the time, the words that are drawn for new IDs, and
whether it has been cancelled. -/
structure Turn where
  ctx : Context
  errand : Errand
  now : Nat
  cancelled : Bool
  ids : Ids

/-- Whether a call is made for the tenant, or for nobody. -/
def Turn.concerns (tenant : String) (t : Turn) : Bool := t.ctx.tenant.all (· = tenant)

def take (d : Deployment) (t : Turn) : Answer t.errand.Value × Deployment :=
  (t.errand.perform t.ctx).result { d with now := t.now, cancelled := t.cancelled, ids := t.ids }

/-- The calls of a run, each with its answer. -/
def transcript : List Turn → Deployment → List (Σ t : Turn, Answer t.errand.Value)
  | [], _ => []
  | t :: rest, d => ⟨t, (d.take t).1⟩ :: transcript rest (d.take t).2

/-- A call of the tenant's is answered alike in both deployments. -/
theorem take_own {t : Turn} (own : t.concerns tenant = true) (h : Shares tenant d e) :
    (d.take t).1 = (e.take t).1 ∧ Shares tenant (d.take t).2 (e.take t).2 := by
  have concerns : Concerns tenant t.ctx := by
    intro other caller
    simpa [Turn.concerns, caller] using own
  have ends := t.errand.perform_together concerns _ _ (⟨⟨h.partition, h.drawer⟩, rfl, rfl, rfl⟩ :
    Together tenant { d with now := t.now, cancelled := t.cancelled, ids := t.ids }
      { e with now := t.now, cancelled := t.cancelled, ids := t.ids })
  exact ⟨ends.same, ends.related.toShares⟩

theorem take_apart {t : Turn} (others : t.concerns tenant = false) (h : Shares tenant d e) :
    Shares tenant (d.take t).2 e := by
  unfold Turn.concerns at others
  cases caller : t.ctx.tenant with
  | none => simp [caller] at others
  | some other =>
      have apart : tenant ≠ other := by
        rintro rfl
        simp [caller] at others
      exact t.errand.perform_apart caller apart _ ⟨h.partition, h.drawer⟩

theorem transcript_filter (turns : List Turn) : ∀ {d e : Deployment}, Shares tenant d e →
    (transcript turns d).filter (·.1.concerns tenant) =
      transcript (turns.filter (·.concerns tenant)) e := by
  induction turns with
  | nil => exact fun _ => rfl
  | cons t rest ih =>
      intro d e h
      -- Both runs take a call of the tenant's; any other is taken in the first run only.
      have first : transcript (t :: rest) d = ⟨t, (d.take t).1⟩ :: transcript rest (d.take t).2 := rfl
      rw [first, List.filter_cons, List.filter_cons]
      cases own : t.concerns tenant with
      | true =>
          obtain ⟨same, after⟩ := take_own own h
          simp only [if_true, transcript, same, ih after]
      | false =>
          simp only [Bool.false_eq_true, if_false]
          exact ih (take_apart own h)

/-- The answers to a tenant's calls are the answers it gets when all calls for other tenants are
left out of the run. -/
theorem others_unnoticed (tenant : String) (turns : List Turn) (inventory : Inventory)
    (limits : CacheLimits) (memory : Memory) :
    let start : Deployment := { inventory, cache := .memory limits memory }
    (transcript turns start).filter (·.1.concerns tenant) =
      transcript (turns.filter (·.concerns tenant)) start :=
  transcript_filter turns ⟨rfl, limits, memory, memory, rfl, rfl, rfl⟩

end Deployment
end Upkeep
