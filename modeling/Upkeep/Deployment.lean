import Upkeep.Backend
import Upkeep.Cache.Basic
import Upkeep.Calendar.Stamp

/-! A service with all that it works on: one inventory with a cache before it, a supply of
random words and a clock. -/
namespace Upkeep

structure Deployment where
  inventory : Inventory := {}
  ids : Ids := {}
  /-- Milliseconds since the start of 1970. -/
  now : Nat := 0
  cache : Cache
  /-- Whether the request that is being served has been cancelled. -/
  cancelled : Bool := false

namespace Deployment

def time (d : Deployment) : String := Calendar.stamp (.ofMillis d.now)

def check (ctx : Context) : Action Deployment Unit := fun d => (ctx.check d.cancelled d.now, d)

/-- The tenant for whom an action is done, if the request has not ended. -/
def enter (ctx : Context) : Action Deployment String := do
  check ctx
  Action.answer ctx.requireTenant

def create (ctx : Context) (r : Resource) : Action Deployment Resource := do
  let tenant ← enter ctx
  Action.of fun d =>
    let (made, inventory, ids) := d.inventory.create d.ids d.time tenant r
    (made, { d with inventory, ids })

def get (ctx : Context) (id : String) : Action Deployment Resource := do
  let tenant ← enter ctx
  Action.of fun d => (d.inventory.get tenant id, d)

def list (ctx : Context) (q : Query) : Action Deployment (Page Resource) := do
  let tenant ← enter ctx
  Action.of fun d => (d.inventory.list tenant q, d)

def update (ctx : Context) (id : String) (mask : List String) (r : Resource) :
    Action Deployment Resource := do
  let tenant ← enter ctx
  Action.of fun d =>
    let (made, inventory) := d.inventory.update d.time tenant id mask r
    (made, { d with inventory })

def delete (ctx : Context) (id : String) : Action Deployment Unit := do
  let tenant ← enter ctx
  Action.of fun d =>
    let (done, inventory) := d.inventory.delete tenant id
    (done, { d with inventory })

def store : Store Deployment where
  create := create
  get := get
  list := list
  update := update
  delete := delete

def onCache {α : Type} (f : Nat → Cache → α × Cache) (d : Deployment) : α × Deployment :=
  let (a, cache) := f d.now d.cache
  (a, { d with cache })

def changeCache (f : Nat → Cache → Cache) (d : Deployment) : Deployment :=
  { d with cache := f d.now d.cache }

def schedule (ctx : Context) (tenant id : String) : Action Deployment Schedule :=
  Action.readThrough (onCache fun now => Cache.consultSchedule now tenant id)
    (store.loadSchedule ctx id)
    fun ticket s => changeCache fun now => Cache.takeSchedule now tenant id s ticket

def page (ctx : Context) (tenant : String) (offset limit : Nat) (c : Criteria) :
    Action Deployment (Page Schedule) :=
  Action.readThrough (onCache fun now => Cache.consultPage now tenant ⟨offset, limit, c⟩)
    (store.loadPage ctx offset limit c)
    fun ticket p => changeCache fun now => Cache.takePage now tenant ⟨offset, limit, c⟩ p ticket

def invalidate (tenant id : String) (c : Change) : Deployment → Deployment :=
  changeCache fun now => Cache.invalidate now tenant id c

def backend : Backend Deployment where
  check := check
  store := store
  schedule := schedule
  page := page
  invalidate := invalidate

end Deployment

end Upkeep
