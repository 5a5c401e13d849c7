import Upkeep.Action
import Upkeep.Cache.Change
import Upkeep.Cache.Criteria
import Upkeep.Context
import Upkeep.Inventory.Store

/-! What the service works with: an inventory, and a cache that reads from it. All of it acts
on a state of any type. -/
namespace Upkeep

/-- An inventory as it is used under the context of a request. -/
structure Store (σ : Type) where
  create : Context → Resource → Action σ Resource
  get : Context → String → Action σ Resource
  list : Context → Query → Action σ (Page Resource)
  update : Context → String → List String → Resource → Action σ Resource
  delete : Context → String → Action σ Unit

namespace Store
variable {σ : Type}

/-- A schedule of the inventory, for a cache that does not have it. -/
def loadSchedule (store : Store σ) (ctx : Context) (id : String) : Action σ Schedule := do
  let r ← store.get ctx id
  Action.answer r.expectSchedule

def scheduleQuery (offset limit : Nat) (c : Criteria) : Query :=
  { kind := .schedule, offset, limit, orderBy := "resource_id", filter := c.expression }

/-- A page of schedules, for a cache that does not have it. -/
def loadPage (store : Store σ) (ctx : Context) (offset limit : Nat) (c : Criteria) :
    Action σ (Page Schedule) := do
  let page ← store.list ctx (scheduleQuery offset limit c)
  Action.answer (page.mapM Resource.expectSchedule)

end Store

structure Backend (σ : Type) where
  /-- Fails if the request has ended. -/
  check : Context → Action σ Unit
  store : Store σ
  /-- A schedule of the tenant, through the cache. -/
  schedule : Context → (tenant id : String) → Action σ Schedule
  /-- A page of the tenant's schedules, through the cache. -/
  page : Context → (tenant : String) → (offset limit : Nat) → Criteria → Action σ (Page Schedule)
  /-- Tells the cache of a change. -/
  invalidate : (tenant id : String) → Change → σ → σ

/-- Calls on behalf of a request, unless that has ended. -/
def Backend.await {σ α : Type} (b : Backend σ) (ctx : Context) (call : Action σ α) :
    Action σ α := do
  b.check ctx
  call

end Upkeep
