import Upkeep.Proofs.Cache.Inquiry
import Upkeep.Proofs.Inventory.Reachable

/-! An inventory at a distance. A call to it is some time on its way, and so is its answer, while the clock of
the cache goes on. A value that is loaded is filed when it is back. -/
namespace Upkeep

namespace Deployment

/-- How many milliseconds a call to the inventory is on its way, and its answer on the way back. -/
structure Lag where
  there : Nat := 0
  back : Nat := 0

def later (d : Deployment) (ms : Nat) : Deployment := { d with now := d.now + ms }

def lagging {α : Type} (lag : Lag) (call : Action Deployment α) : Action Deployment α := fun d =>
  let (a, d) := call.result (d.later lag.there)
  (a, d.later lag.back)

def remote (lag : Lag) : Store Deployment where
  create ctx r := lagging lag (create ctx r)
  get ctx id := lagging lag (get ctx id)
  list ctx q := lagging lag (list ctx q)
  update ctx id mask r := lagging lag (update ctx id mask r)
  delete ctx id := lagging lag (delete ctx id)

def distant (lag : Lag) : Backend Deployment where
  check := check
  store := remote lag
  schedule ctx tenant id :=
    Action.readThrough (onCache fun now => Cache.consultSchedule now tenant id)
      ((remote lag).loadSchedule ctx id)
      fun ticket s => changeCache fun now => Cache.takeSchedule now tenant id s ticket
  page ctx tenant offset limit c :=
    Action.readThrough (onCache fun now => Cache.consultPage now tenant ⟨offset, limit, c⟩)
      ((remote lag).loadPage ctx offset limit c)
      fun ticket p => changeCache fun now => Cache.takePage now tenant ⟨offset, limit, c⟩ p ticket
  invalidate := invalidate

/-- Where no time passes on the way, an inventory at a distance is as good as one at hand. -/
theorem distant_none : distant {} = backend := rfl

def inquire (lag : Lag) (ctx : Context) (tenant : String) : (q : Inquiry) → Action Deployment q.Item
  | .one id => (distant lag).schedule ctx tenant id
  | .page key => (distant lag).page ctx tenant key.offset key.limit key.criteria

def load (ctx : Context) : (q : Inquiry) → Action Deployment q.Item
  | .one id => store.loadSchedule ctx id
  | .page key => store.loadPage ctx key.offset key.limit key.criteria

variable {d : Deployment} {ctx : Context} {tenant : String} {limits : CacheLimits} {m : Memory} {lag : Lag}

/-- To look at the inventory changes nothing. -/
theorem looked_result {α β : Type} (f : String → Deployment → Answer α) (g : α → Answer β) :
    ((enter ctx >>= fun tenant => Action.of fun d => (f tenant d, d)) >>= fun x =>
      Action.answer (g x)).result d = (d.caller ctx >>= fun tenant => f tenant d >>= g, d) := by
  rw [Action.result_bind, entered_result]
  cases d.caller ctx with
  | error e => rfl
  | ok tenant =>
      simp only [Action.result_of, Action.result_answer, bind, Except.bind]
      cases f tenant d with
      | error e => rfl
      | ok x => rfl

theorem load_result (q : Inquiry) :
    (load ctx q).result d = (d.caller ctx >>= fun tenant => d.inventory.answer tenant q, d) := by
  cases q with
  | one id => exact looked_result (fun tenant d => d.inventory.get tenant id) Resource.expectSchedule
  | page key => exact looked_result (fun tenant d => d.inventory.list tenant _) _

def filed (d : Deployment) (limits : CacheLimits) (m : Memory) (tenant : String) (q : Inquiry)
    (a : q.Item) : Deployment :=
  { d with cache := .memory limits (m.file limits d.now tenant (m.generation tenant) q a) }

theorem cache_self (cached : d.cache = .memory limits m) :
    { d with cache := .memory limits m } = d := by
  rw [← cached]

/-- A clock that goes on changes nothing else. -/
def passed (d : Deployment) (lag : Lag) : Deployment := (d.later lag.there).later lag.back

theorem lagging_result {α : Type} (call : Action Deployment α) : (lagging lag call).result d =
    ((call.result (d.later lag.there)).1, (call.result (d.later lag.there)).2.later lag.back) := rfl

theorem lagging_answer {α β : Type} (call : Action Deployment α) (f : α → Answer β) :
    (lagging lag call >>= fun x => Action.answer (f x)).result d =
      (lagging lag (call >>= fun x => Action.answer (f x))).result d := by
  rw [Action.result_bind, lagging_result, lagging_result, Action.result_bind]
  rcases call.result (d.later lag.there) with ⟨e | x, after⟩
  · rfl
  · rfl

def fetch (lag : Lag) (ctx : Context) : (q : Inquiry) → Action Deployment q.Item
  | .one id => (remote lag).loadSchedule ctx id
  | .page key => (remote lag).loadPage ctx key.offset key.limit key.criteria

/-- The inventory answers as it does when the call has arrived. -/
theorem fetch_result (q : Inquiry) : (fetch lag ctx q).result d =
    ((d.later lag.there).caller ctx >>= fun tenant => d.inventory.answer tenant q, d.passed lag) := by
  have loaded := @load_result (d.later lag.there) ctx q
  have fetched : (fetch lag ctx q).result d = (lagging lag (load ctx q)).result d := by
    cases q with
    | one id => exact lagging_answer (get ctx id) Resource.expectSchedule
    | page key => exact lagging_answer (list ctx _) fun page => page.mapM Resource.expectSchedule
  rw [fetched, lagging_result, loaded]
  rfl

theorem inquire_hit (cached : d.cache = .memory limits m) {q : Inquiry} {a : q.Item}
    (known : m.known? limits d.now tenant q = some a) : (inquire lag ctx tenant q).result d = (.ok a, d) := by
  cases q with
  | one id =>
      have hit : m.schedule? limits d.now tenant id = some a := known
      refine Action.readThrough_hit ?_
      simp only [onCache, cached, Cache.consultSchedule, hit, cache_self cached]
  | page key =>
      have hit : m.page? limits d.now tenant key = some a := known
      refine Action.readThrough_hit ?_
      simp only [onCache, cached, Cache.consultPage, hit, cache_self cached]

theorem inquire_miss (cached : d.cache = .memory limits m) {q : Inquiry}
    (unknown : m.known? limits d.now tenant q = none) :
    (inquire lag ctx tenant q).result d =
      match (d.later lag.there).caller ctx >>= fun tenant => d.inventory.answer tenant q with
      | .ok a => (.ok a, (d.passed lag).filed limits m tenant q a)
      | .error e => (.error e, d.passed lag) := by
  have fetched := @fetch_result d ctx lag q
  have cachedStill : (d.passed lag).cache = .memory limits m := cached
  cases q with
  | one id =>
      have miss : m.schedule? limits d.now tenant id = none := unknown
      have consulted : onCache (fun now => Cache.consultSchedule now tenant id) d =
          (.miss (.generation (m.generation tenant)), d) := by
        simp only [onCache, cached, Cache.consultSchedule, miss, cache_self cached]
      refine (Action.readThrough_miss consulted).trans ?_
      rw [show ((remote lag).loadSchedule ctx id).result d = _ from fetched]
      cases (d.later lag.there).caller ctx >>= fun tenant => d.inventory.answer tenant (.one id) with
      | error e => rfl
      | ok a => simp only [changeCache, cachedStill, Cache.takeSchedule, filed, Memory.file]
  | page key =>
      have miss : m.page? limits d.now tenant key = none := unknown
      have consulted : onCache (fun now => Cache.consultPage now tenant key) d =
          (.miss (.generation (m.generation tenant)), d) := by
        simp only [onCache, cached, Cache.consultPage, miss, cache_self cached]
      refine (Action.readThrough_miss consulted).trans ?_
      rw [show ((remote lag).loadPage ctx key.offset key.limit key.criteria).result d = _ from fetched]
      cases (d.later lag.there).caller ctx >>= fun tenant => d.inventory.answer tenant (.page key) with
      | error e => rfl
      | ok a => simp only [changeCache, cachedStill, Cache.takePage, filed, Memory.file]

end Deployment
end Upkeep
