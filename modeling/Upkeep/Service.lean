import Upkeep.Backend
import Upkeep.Schedule.Convert
import Upkeep.Schedule.Mask

/-! The service: the six operations that callers have on single schedules. Each finds out
the tenant, checks and converts what it was given, calls the inventory or the cache once,
tells the cache of a change that has been made, and converts the answer. -/
namespace Upkeep

structure ServiceSettings where
  /-- The size of a page where none is asked for. -/
  pageSize : Nat := 20
  maxPageSize : Nat := 100
  /-- Whether a mask may name no unknown fields. -/
  strictMask : Bool := false

structure ListRequest where
  pageSize : Nat := 0
  offset : Nat := 0
  hostId : Option String := none
  siteId : Option String := none
  regionId : Option String := none
  epoch : Option String := none

/-- The number of items to list for the number that was asked for. -/
def ServiceSettings.limit (set : ServiceSettings) (asked : Nat) : Answer Nat :=
  if asked = 0 then .ok set.pageSize
  else if set.maxPageSize < asked then
    .error (.invalidArgument ("page_size " ++ Decimal.text asked ++ " exceeds the maximum of " ++
      Decimal.text set.maxPageSize))
  else .ok asked

/-- Callers count in 31 bits. -/
def countForCaller (n : Nat) : Answer Nat :=
  if n < twoTo 31 then .ok n
  else .error (.internal ("total elements out of range: " ++ Decimal.Fault.tooLarge.message))

namespace Service
variable {σ : Type}
open Upkeep.Action (answer during)

def create (b : Backend σ) (ctx : Context) (schedule : Wire.Schedule) : Action σ Wire.Schedule := do
  let operation := "CreateSingleSchedule"
  let tenant ← answer ctx.requireTenant
  let stored ← during operation (answer schedule.toStored)
  let made ← during operation do
    let r ← b.await ctx (b.store.create ctx (.schedule stored))
    answer r.expectSchedule
  Action.change (b.invalidate tenant made.id .created)
  during operation (answer (Wire.Schedule.ofStored made))

def get (b : Backend σ) (ctx : Context) (id : String) : Action σ Wire.Schedule := do
  let operation := "GetSingleSchedule"
  let tenant ← answer ctx.requireTenant
  during operation (answer (Kind.schedule.checkId id))
  let stored ← during operation (b.await ctx (b.schedule ctx tenant id))
  during operation (answer (Wire.Schedule.ofStored stored))

def list (b : Backend σ) (set : ServiceSettings) (ctx : Context) (r : ListRequest) :
    Action σ (Page Wire.Schedule) := do
  let operation := "ListSingleSchedules"
  let tenant ← answer ctx.requireTenant
  let criteria ← during operation (answer (Criteria.read r.hostId r.siteId r.regionId r.epoch))
  let limit ← during operation (answer (set.limit r.pageSize))
  let page ← during operation (b.await ctx (b.page ctx tenant r.offset limit criteria))
  let seen ← during operation (answer (page.mapM Wire.Schedule.ofStored))
  let total ← during operation (answer (countForCaller seen.total))
  return { seen with total }

/-- Changes the masked fields of a schedule. -/
def change (b : Backend σ) (operation : String) (ctx : Context) (tenant id : String)
    (mask : List String) (stored : Schedule) : Action σ Wire.Schedule := do
  let made ← during operation do
    let r ← b.await ctx (b.store.update ctx id mask (.schedule stored))
    answer r.expectSchedule
  Action.change (b.invalidate tenant id .updated)
  during operation (answer (Wire.Schedule.ofStored made))

/-- Replaces all that can change of a schedule. -/
def update (b : Backend σ) (ctx : Context) (id : String) (schedule : Wire.Schedule) :
    Action σ Wire.Schedule := do
  let operation := "UpdateSingleSchedule"
  let tenant ← answer ctx.requireTenant
  during operation (answer (Kind.schedule.checkId id))
  let stored ← during operation (answer schedule.toStored)
  change b operation ctx tenant id Mask.full stored

/-- Replaces what the caller's mask names. -/
def patch (b : Backend σ) (set : ServiceSettings) (ctx : Context) (id : String)
    (schedule : Wire.Schedule) (mask : Option (List String)) : Action σ Wire.Schedule := do
  let operation := "PatchSingleSchedule"
  let tenant ← answer ctx.requireTenant
  during operation (answer (Kind.schedule.checkId id))
  let stored ← during operation (answer schedule.toStored)
  let mask ← during operation (answer (Mask.translate mask set.strictMask))
  change b operation ctx tenant id mask stored

def delete (b : Backend σ) (ctx : Context) (id : String) : Action σ Unit := do
  let operation := "DeleteSingleSchedule"
  let tenant ← answer ctx.requireTenant
  during operation (answer (Kind.schedule.checkId id))
  during operation (b.await ctx (b.store.delete ctx id))
  Action.change (b.invalidate tenant id .deleted)

end Service

end Upkeep
