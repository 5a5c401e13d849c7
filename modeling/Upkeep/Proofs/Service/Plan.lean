import Upkeep.Proofs.Inventory.Partition
import Upkeep.Proofs.Service.Alike

/-! What the service does with a request, in two parts. First it plans: it finds the tenant and
checks and converts what it was given, and nothing is called for that. Then it carries the plan
out: one call, and word to the cache if the call changed something. -/
namespace Upkeep

theorem Answer.pure_ok {α : Type} {x y : α} : (pure x : Answer α) = .ok y ↔ x = y :=
  ⟨Except.ok.inj, congrArg Except.ok⟩

theorem Context.requireTenant_ok {ctx : Context} {tenant : String} :
    ctx.requireTenant = .ok tenant ↔ ctx.tenant = some tenant := by
  unfold requireTenant
  split
  · next t has => simp [has]
  · next lacking => simp [lacking]

theorem Kind.checked_ok {k : Kind} {id : String} {u : Unit} :
    k.checkId id = .ok u ↔ k.isId id = true :=
  checkId_ok

namespace Service
open Upkeep.Action (answer during)
variable {σ : Type}

/-- A request that was found good, with all that is needed to carry it out. -/
inductive Plan where
  | look (tenant id : String)
  | page (tenant : String) (offset limit : Nat) (criteria : Criteria)
  | create (tenant : String) (stored : Schedule)
  | change (tenant operation id : String) (mask : List String) (stored : Schedule)
  | delete (tenant id : String)

def plan (set : ServiceSettings) (ctx : Context) : Request → Answer Plan
  | .create s => do
    let tenant ← ctx.requireTenant
    let stored ← s.toStored.during "CreateSingleSchedule"
    return .create tenant stored
  | .get id => do
    let tenant ← ctx.requireTenant
    (Kind.schedule.checkId id).during "GetSingleSchedule"
    return .look tenant id
  | .list r => do
    let tenant ← ctx.requireTenant
    let criteria ← (Criteria.read r.hostId r.siteId r.regionId r.epoch).during "ListSingleSchedules"
    let limit ← (set.limit r.pageSize).during "ListSingleSchedules"
    return .page tenant r.offset limit criteria
  | .update id s => do
    let tenant ← ctx.requireTenant
    (Kind.schedule.checkId id).during "UpdateSingleSchedule"
    let stored ← s.toStored.during "UpdateSingleSchedule"
    return .change tenant "UpdateSingleSchedule" id Mask.full stored
  | .patch id s mask => do
    let tenant ← ctx.requireTenant
    (Kind.schedule.checkId id).during "PatchSingleSchedule"
    let stored ← s.toStored.during "PatchSingleSchedule"
    let mask ← (Mask.translate mask set.strictMask).during "PatchSingleSchedule"
    return .change tenant "PatchSingleSchedule" id mask stored
  | .delete id => do
    let tenant ← ctx.requireTenant
    (Kind.schedule.checkId id).during "DeleteSingleSchedule"
    return .delete tenant id

/-- When a request is found good, and what is planned for it then. -/
inductive Planned (set : ServiceSettings) (ctx : Context) : Request → Plan → Prop
  | create {tenant s stored} : ctx.tenant = some tenant → s.toStored = .ok stored →
      Planned set ctx (.create s) (.create tenant stored)
  | get {tenant id} : ctx.tenant = some tenant → Kind.schedule.isId id = true →
      Planned set ctx (.get id) (.look tenant id)
  | list {tenant r criteria limit} : ctx.tenant = some tenant →
      Criteria.read r.hostId r.siteId r.regionId r.epoch = .ok criteria →
      set.limit r.pageSize = .ok limit →
      Planned set ctx (.list r) (.page tenant r.offset limit criteria)
  | update {tenant id s stored} : ctx.tenant = some tenant → Kind.schedule.isId id = true →
      s.toStored = .ok stored →
      Planned set ctx (.update id s) (.change tenant "UpdateSingleSchedule" id Mask.full stored)
  | patch {tenant id s mask stored paths} : ctx.tenant = some tenant →
      Kind.schedule.isId id = true → s.toStored = .ok stored →
      Mask.translate mask set.strictMask = .ok paths →
      Planned set ctx (.patch id s mask) (.change tenant "PatchSingleSchedule" id paths stored)
  | delete {tenant id} : ctx.tenant = some tenant → Kind.schedule.isId id = true →
      Planned set ctx (.delete id) (.delete tenant id)

/-- A stored schedule as the caller gets it. -/
def shown (operation : String) (s : Schedule) : Answer Reply := do
  return .schedule (← (Wire.Schedule.ofStored s).during operation)

def shownPage (page : Page Schedule) : Answer Reply := do
  let seen ← (page.mapM Wire.Schedule.ofStored).during "ListSingleSchedules"
  let total ← (countForCaller seen.total).during "ListSingleSchedules"
  return .page { seen with total }

/-- Writes a schedule, and tells of it once the store has answered with it. -/
def write (b : Backend σ) (operation : String) (ctx : Context) (call : Action σ Resource)
    (tell : Schedule → σ → σ) : Action σ Reply := do
  let made ← during operation do
    let r ← b.await ctx call
    answer r.expectSchedule
  Action.change (tell made)
  answer (shown operation made)

def carryOut (b : Backend σ) (ctx : Context) : Plan → Action σ Reply
  | .look tenant id => do
    let stored ← during "GetSingleSchedule" (b.await ctx (b.schedule ctx tenant id))
    answer (shown "GetSingleSchedule" stored)
  | .page tenant offset limit criteria => do
    let page ← during "ListSingleSchedules" (b.await ctx (b.page ctx tenant offset limit criteria))
    answer (shownPage page)
  | .create tenant stored =>
    write b "CreateSingleSchedule" ctx (b.store.create ctx (.schedule stored)) fun made =>
      b.invalidate tenant made.id .created
  | .change tenant operation id mask stored =>
    write b operation ctx (b.store.update ctx id mask (.schedule stored)) fun _ =>
      b.invalidate tenant id .updated
  | .delete tenant id => do
    during "DeleteSingleSchedule" (b.await ctx (b.store.delete ctx id))
    Action.change (b.invalidate tenant id .deleted)
    return .deleted

/-- To serve a request is to plan it and then to carry out the plan. -/
theorem serve_eq (b : Backend σ) (set : ServiceSettings) (ctx : Context) (request : Request) :
    serve b set ctx request = answer (plan set ctx request) >>= carryOut b ctx := by
  cases request with
  | create s =>
      simp only [serve, create, plan, carryOut, write, shown, Action.answer_bind,
        Action.answer_pure, Action.during_answer, bind_assoc, pure_bind]
  | get id =>
      simp only [serve, get, plan, carryOut, shown, Action.answer_bind,
        Action.answer_pure, Action.during_answer, bind_assoc, pure_bind]
  | list r =>
      simp only [serve, list, plan, carryOut, shownPage, Action.answer_bind,
        Action.answer_pure, Action.during_answer, bind_assoc, pure_bind]
  | update id s =>
      simp only [serve, update, plan, carryOut, change, write, shown, Action.answer_bind,
        Action.answer_pure, Action.during_answer, bind_assoc, pure_bind]
  | patch id s mask =>
      simp only [serve, patch, plan, carryOut, change, write, shown, Action.answer_bind,
        Action.answer_pure, Action.during_answer, bind_assoc, pure_bind]
  | delete id =>
      simp only [serve, delete, plan, carryOut, Action.answer_bind,
        Action.answer_pure, Action.during_answer, bind_assoc, pure_bind]

/-- A request is found good in one way only. -/
theorem plan_ok {set : ServiceSettings} {ctx : Context} {request : Request} {p : Plan} :
    plan set ctx request = .ok p ↔ Planned set ctx request p := by
  cases request with
  | create s =>
      simp only [plan, Answer.bind_ok, Context.requireTenant_ok, Answer.during_eq_ok, Answer.pure_ok]
      constructor
      · rintro ⟨tenant, caller, stored, converted, rfl⟩
        exact .create caller converted
      · intro h
        cases h with
        | create caller converted => exact ⟨_, caller, _, converted, rfl⟩
  | get id =>
      simp only [plan, Answer.bind_ok, Context.requireTenant_ok, Answer.during_eq_ok, Kind.checked_ok,
        Answer.pure_ok]
      constructor
      · rintro ⟨tenant, caller, _, named, rfl⟩
        exact .get caller named
      · intro h
        cases h with
        | get caller named => exact ⟨_, caller, (), named, rfl⟩
  | list r =>
      simp only [plan, Answer.bind_ok, Context.requireTenant_ok, Answer.during_eq_ok, Answer.pure_ok]
      constructor
      · rintro ⟨tenant, caller, criteria, read, limit, limited, rfl⟩
        exact .list caller read limited
      · intro h
        cases h with
        | list caller read limited => exact ⟨_, caller, _, read, _, limited, rfl⟩
  | update id s =>
      simp only [plan, Answer.bind_ok, Context.requireTenant_ok, Kind.checked_ok, Answer.during_eq_ok,
        Answer.pure_ok]
      constructor
      · rintro ⟨tenant, caller, _, named, stored, converted, rfl⟩
        exact .update caller named converted
      · intro h
        cases h with
        | update caller named converted => exact ⟨_, caller, (), named, _, converted, rfl⟩
  | patch id s mask =>
      simp only [plan, Answer.bind_ok, Context.requireTenant_ok, Kind.checked_ok, Answer.during_eq_ok,
        Answer.pure_ok]
      constructor
      · rintro ⟨tenant, caller, _, named, stored, converted, paths, translated, rfl⟩
        exact .patch caller named converted translated
      · intro h
        cases h with
        | patch caller named converted translated =>
            exact ⟨_, caller, (), named, _, converted, _, translated, rfl⟩
  | delete id =>
      simp only [plan, Answer.bind_ok, Context.requireTenant_ok, Answer.during_eq_ok, Kind.checked_ok,
        Answer.pure_ok]
      constructor
      · rintro ⟨tenant, caller, _, named, rfl⟩
        exact .delete caller named
      · intro h
        cases h with
        | delete caller named => exact ⟨_, caller, (), named, rfl⟩

end Service

/-- What a backend keeps in all that the service has it do for a tenant, where every schedule
that is to be stored is a good one. -/
structure Backend.Keeps {σ : Type} (P : σ → Prop) (good : Schedule → Prop) (b : Backend σ)
    (ctx : Context) (tenant : String) : Prop where
  check : Action.Keeps P (b.check ctx)
  schedule : ∀ id, Action.Keeps P (b.schedule ctx tenant id)
  page : ∀ offset limit criteria, Action.Keeps P (b.page ctx tenant offset limit criteria)
  create : ∀ s, good s → Action.Keeps P (b.store.create ctx (.schedule s))
  update : ∀ id mask s, good s → Action.Keeps P (b.store.update ctx id mask (.schedule s))
  delete : ∀ id, Kind.schedule.isId id = true → Action.Keeps P (b.store.delete ctx id)
  invalidate : ∀ id c s, P s → P (b.invalidate tenant id c s)

namespace Service
variable {σ : Type} {P : σ → Prop} {good : Schedule → Prop} {b : Backend σ} {ctx : Context}
  {tenant : String}

theorem write_keeps (keeps : b.Keeps P good ctx tenant) {operation : String} {call : Action σ Resource}
    {tell : Schedule → σ → σ} (called : Action.Keeps P call) (told : ∀ made s, P s → P (tell made s)) :
    Action.Keeps P (write b operation ctx call tell) := by
  apply Action.Keeps.bind
  · exact Action.Keeps.during _ ((keeps.check.bind fun _ => called).bind fun _ => .answer)
  · intro made
    exact (Action.Keeps.change (told made)).bind fun _ => .answer

/-- Whatever a backend keeps in each of its parts is kept when a request is served. -/
theorem serve_keeps (each : ∀ tenant, ctx.tenant = some tenant → b.Keeps P good ctx tenant)
    (converted : ∀ w stored, Wire.Schedule.toStored w = .ok stored → good stored)
    (set : ServiceSettings) (request : Request) : Action.Keeps P (serve b set ctx request) := by
  rw [serve_eq]
  apply Action.Keeps.answer_bind
  intro p found
  have planned := plan_ok.1 found
  cases planned with
  | create caller stored =>
      have keeps := each _ caller
      exact write_keeps keeps (keeps.create _ (converted _ _ stored)) fun _ => keeps.invalidate _ _
  | get caller named =>
      have keeps := each _ caller
      apply Action.Keeps.bind
      · exact (keeps.check.bind fun _ => keeps.schedule _).during _
      · exact fun _ => .answer
  | list caller read limited =>
      have keeps := each _ caller
      apply Action.Keeps.bind
      · exact (keeps.check.bind fun _ => keeps.page _ _ _).during _
      · exact fun _ => .answer
  | update caller named stored =>
      have keeps := each _ caller
      exact write_keeps keeps (keeps.update _ _ _ (converted _ _ stored)) fun _ => keeps.invalidate _ _
  | patch caller named stored translated =>
      have keeps := each _ caller
      exact write_keeps keeps (keeps.update _ _ _ (converted _ _ stored)) fun _ => keeps.invalidate _ _
  | delete caller named =>
      have keeps := each _ caller
      apply Action.Keeps.bind
      · exact (keeps.check.bind fun _ => keeps.delete _ named).during _
      · exact fun _ => (Action.Keeps.change (keeps.invalidate _ _)).bind fun _ => .pure

end Service
end Upkeep
