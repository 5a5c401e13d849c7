import Upkeep.Proofs.Service.Contact
import Upkeep.Proofs.Service.Isolation

/-! A deployment that is watched. It does what it does unwatched, and notes every call that is made
on its store, by the service or by the cache when it loads, and every call on its cache. All of them
are made under the tenant of the request, and none is made for a request without one. -/
namespace Upkeep
open Upkeep.Action (Alike Keeps)

/-- A call under the tenant, by its context and by the name that it is given. -/
def Service.Contact.Under (tenant : String) : Service.Contact → Prop
  | .one ctx named _ | .page ctx named _ _ _ => ctx.tenant = some tenant ∧ named = tenant
  | .create ctx _ | .get ctx _ | .list ctx _ | .update ctx _ _ _ | .delete ctx _ => ctx.tenant = some tenant
  | .invalidate named _ _ => named = tenant

namespace Deployment
open Service (Contact Watched)
variable {ctx : Context} {tenant : String} {α τ : Type}

/-- Notes a call and makes it. -/
def noting (made : Contact) (call : Action Deployment α) : Action (Watched Deployment) α := fun w =>
  let (a, d) := call.result w.state
  (a, ⟨d, w.contacts ++ [made]⟩)

def watchedStore : Store (Watched Deployment) where
  create ctx r := noting (.create ctx r) (store.create ctx r)
  get ctx id := noting (.get ctx id) (store.get ctx id)
  list ctx q := noting (.list ctx q) (store.list ctx q)
  update ctx id mask r := noting (.update ctx id mask r) (store.update ctx id mask r)
  delete ctx id := noting (.delete ctx id) (store.delete ctx id)

/-- Notes that the cache is consulted, and lets it load from the watched store. -/
def watchedRead (made : Contact) (consult : Deployment → Consulted α τ × Deployment)
    (load : Action (Watched Deployment) α) (take : τ → α → Deployment → Deployment) :
    Action (Watched Deployment) α :=
  Action.readThrough
    (fun w => ((consult w.state).1, ⟨(consult w.state).2, w.contacts ++ [made]⟩))
    load
    (fun ticket a w => { w with state := take ticket a w.state })

def watched : Backend (Watched Deployment) where
  check ctx := fun w => (((check ctx).result w.state).1, w)
  store := watchedStore
  schedule ctx tenant id :=
    watchedRead (.one ctx tenant id) (onCache fun now => Cache.consultSchedule now tenant id)
      (watchedStore.loadSchedule ctx id)
      fun ticket s => changeCache fun now => Cache.takeSchedule now tenant id s ticket
  page ctx tenant offset limit c :=
    watchedRead (.page ctx tenant offset limit c)
      (onCache fun now => Cache.consultPage now tenant ⟨offset, limit, c⟩)
      (watchedStore.loadPage ctx offset limit c)
      fun ticket p => changeCache fun now => Cache.takePage now tenant ⟨offset, limit, c⟩ p ticket
  invalidate tenant id c w := ⟨invalidate tenant id c w.state, w.contacts ++ [.invalidate tenant id c]⟩

/-- What is watched, and what it is without its notes. -/
def Seen (w : Watched Deployment) (d : Deployment) : Prop := w.state = d

section Alike

theorem noting_alike (made : Contact) (call : Action Deployment α) :
    Alike Seen Seen (noting made call) call fun _ => Seen := by
  rintro w _ rfl
  exact .of_same rfl rfl

theorem watchedRead_alike (made : Contact) (consult : Deployment → Consulted α τ × Deployment)
    {load : Action (Watched Deployment) α} {unwatched : Action Deployment α}
    (loads : Alike Seen Seen load unwatched fun _ => Seen) (take : τ → α → Deployment → Deployment) :
    Alike Seen Seen (watchedRead made consult load take) (Action.readThrough consult unwatched take)
      fun _ => Seen := by
  apply Alike.readThrough
  · rintro w _ rfl
    exact ⟨rfl, rfl⟩
  · exact loads
  · rintro ticket a w _ rfl
    rfl

theorem watched_check_alike (ctx : Context) :
    Alike Seen Seen (watched.check ctx) (check ctx) fun _ => Seen := by
  rintro w _ rfl
  exact .of_same rfl rfl

/-- Watched or not, a deployment does the same. -/
theorem watched_alike (ctx : Context) : Service.AlikeFor Seen Seen watched backend ctx := by
  intro tenant _
  have told {w : Watched Deployment} {d : Deployment} (id : String) (c : Change) (same : Seen w d) :
      Seen (watched.invalidate tenant id c w) (invalidate tenant id c d) :=
    congrArg (invalidate tenant id c) same
  exact
    { check := watched_check_alike ctx
      schedule := fun id => watchedRead_alike _ _ ((noting_alike _ _).bind fun _ => .answer) _
      page := fun offset limit criteria =>
        watchedRead_alike _ _ ((noting_alike _ _).bind fun _ => .answer) _
      create := fun s => by
        apply ((noting_alike _ _).answers fun w => create_schedule w.state).post
        rintro r w d ⟨⟨made, rfl⟩, same⟩
        exact ⟨made, rfl, told made.id .created same⟩
      update := fun id mask s _ => by
        apply ((noting_alike _ _).answers fun w => update_schedule w.state).post
        rintro r w d ⟨⟨made, rfl⟩, same⟩
        exact ⟨made, rfl, told id .updated same⟩
      delete := fun id _ => (noting_alike _ _).post fun _ _ _ => told id .deleted }

theorem serve_watched (set : ServiceSettings) (ctx : Context) (request : Service.Request)
    (w : Watched Deployment) :
    ((Service.serve watched set ctx request).result w).1 =
        ((Service.serve backend set ctx request).result w.state).1 ∧
      ((Service.serve watched set ctx request).result w).2.state =
        ((Service.serve backend set ctx request).result w.state).2 := by
  have ends := Service.serve_alike (watched_alike ctx) set request w w.state rfl
  exact ⟨ends.same, ends.related⟩

end Alike

section Under
variable {P : Contact → Prop}

/-- Every call that was noted is of a kind. -/
def Noted (P : Contact → Prop) (w : Watched Deployment) : Prop := ∀ made ∈ w.contacts, P made

theorem Noted.add {w : Watched Deployment} (before : Noted P w) {made : Contact} (good : P made)
    (d : Deployment) : Noted P ⟨d, w.contacts ++ [made]⟩ := by
  intro other member
  rcases List.mem_append.1 member with old | new
  · exact before other old
  · exact List.mem_singleton.1 new ▸ good

theorem noting_keeps {made : Contact} (good : P made) (call : Action Deployment α) :
    Keeps (Noted P) (noting made call) :=
  fun _ before => before.add good _

theorem watchedRead_keeps {made : Contact} (good : P made)
    {consult : Deployment → Consulted α τ × Deployment} {load : Action (Watched Deployment) α}
    (loads : Keeps (Noted P) load) (take : τ → α → Deployment → Deployment) :
    Keeps (Noted P) (watchedRead made consult load take) := by
  apply Keeps.readThrough
  · exact fun _ before => before.add good _
  · exact loads
  · exact fun _ _ _ before => before

theorem watched_under (caller : ctx.tenant = some tenant) :
    watched.Keeps (Noted (Contact.Under tenant)) (fun _ => True) ctx tenant where
  check := fun _ before => before
  schedule := fun _ =>
    watchedRead_keeps ⟨caller, rfl⟩ ((noting_keeps caller _).bind fun _ => .answer) _
  page := fun _ _ _ =>
    watchedRead_keeps ⟨caller, rfl⟩ ((noting_keeps caller _).bind fun _ => .answer) _
  create := fun _ _ => noting_keeps caller _
  update := fun _ _ _ _ => noting_keeps caller _
  delete := fun _ _ => noting_keeps caller _
  invalidate := fun id c _ before => by
    have told : Contact.Under tenant (.invalidate tenant id c) := rfl
    exact before.add told _

/-- Whatever is served, all calls for it are under the tenant of its context. -/
theorem serve_under (caller : ctx.tenant = some tenant) (set : ServiceSettings)
    (request : Service.Request) :
    Keeps (Noted (Contact.Under tenant)) (Service.serve watched set ctx request) := by
  have each : ∀ other, ctx.tenant = some other →
      watched.Keeps (Noted (Contact.Under tenant)) (fun _ => True) ctx other := by
    intro other again
    cases caller.symm.trans again
    exact watched_under caller
  exact Service.serve_keeps each (fun _ _ _ => trivial) set request

end Under

end Deployment

/-- Without a tenant nothing is planned, and so nothing is done. -/
theorem Service.serve_nobody {σ : Type} (b : Backend σ) (set : ServiceSettings) {ctx : Context}
    (nobody : ctx.tenant = none) (request : Request) (s : σ) :
    ∃ e, (serve b set ctx request).result s = (.error e, s) := by
  rw [serve_eq, Action.result_bind, Action.result_answer]
  cases fit : plan set ctx request with
  | error e => exact ⟨e, rfl⟩
  | ok p =>
      have planned := plan_ok.1 fit
      cases planned with
      | create caller _ | get caller _ | list caller _ _ | update caller _ _ | patch caller _ _ _
        | delete caller _ => cases nobody.symm.trans caller

end Upkeep
