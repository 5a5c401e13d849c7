import Upkeep.Proofs.Action
import Upkeep.Proofs.Inventory.Naming
import Upkeep.Service

/-! Requests to the service, and what makes two backends serve all of them alike: that they
answer every call alike, and that a write which is made known to both caches leaves them in
related states, if it succeeded. -/
namespace Upkeep

namespace Service

inductive Request where
  | create (schedule : Wire.Schedule)
  | get (id : String)
  | list (request : ListRequest)
  | update (id : String) (schedule : Wire.Schedule)
  | patch (id : String) (schedule : Wire.Schedule) (mask : Option (List String))
  | delete (id : String)

inductive Reply where
  | schedule (s : Wire.Schedule)
  | page (p : Page Wire.Schedule)
  | deleted

def serve {σ : Type} (b : Backend σ) (set : ServiceSettings) (ctx : Context) :
    Request → Action σ Reply
  | .create s => do return .schedule (← create b ctx s)
  | .get id => do return .schedule (← get b ctx id)
  | .list r => do return .page (← list b set ctx r)
  | .update id s => do return .schedule (← update b ctx id s)
  | .patch id s mask => do return .schedule (← patch b set ctx id s mask)
  | .delete id => do
    delete b ctx id
    return .deleted

end Service

/-- What two backends have to do alike for a caller whose request has not ended, in states that
are then related by `L`. -/
structure Backend.Alike {σ τ : Type} (R L : σ → τ → Prop) (b : Backend σ) (c : Backend τ)
    (ctx : Context) (tenant : String) : Prop where
  check : Action.Alike R R (b.check ctx) (c.check ctx) fun _ => L
  schedule : ∀ id, Action.Alike R L (b.schedule ctx tenant id) (c.schedule ctx tenant id) fun _ => R
  page : ∀ offset limit criteria, Action.Alike R L (b.page ctx tenant offset limit criteria)
    (c.page ctx tenant offset limit criteria) fun _ => R
  create : ∀ s, Action.Alike R L (b.store.create ctx (.schedule s)) (c.store.create ctx (.schedule s))
    fun r s t => ∃ made, r = .schedule made ∧
      R (b.invalidate tenant made.id .created s) (c.invalidate tenant made.id .created t)
  update : ∀ id mask s, Kind.schedule.isId id = true →
    Action.Alike R L (b.store.update ctx id mask (.schedule s)) (c.store.update ctx id mask (.schedule s))
      fun r s t => ∃ made, r = .schedule made ∧
        R (b.invalidate tenant id .updated s) (c.invalidate tenant id .updated t)
  delete : ∀ id, Kind.schedule.isId id = true →
    Action.Alike R L (b.store.delete ctx id) (c.store.delete ctx id) fun _ s t =>
      R (b.invalidate tenant id .deleted s) (c.invalidate tenant id .deleted t)

namespace Backend.Alike
variable {σ τ α : Type} {R L : σ → τ → Prop} {b : Backend σ} {c : Backend τ} {ctx : Context}
  {tenant : String}

theorem await (alike : b.Alike R L c ctx tenant) {f : Action σ α} {g : Action τ α}
    {Q : α → σ → τ → Prop} (call : Action.Alike R L f g Q) :
    Action.Alike R R (b.await ctx f) (c.await ctx g) Q :=
  alike.check.bind fun _ => call

/-- A call that answers with a schedule, and with the schedule leaves what `Q` says. -/
theorem expect {f : Action σ Resource} {g : Action τ Resource} {Q : Schedule → σ → τ → Prop}
    (call : Action.Alike R R f g fun r s t => ∃ made, r = .schedule made ∧ Q made s t) :
    Action.Alike R R (do Action.answer (← f).expectSchedule) (do Action.answer (← g).expectSchedule) Q := by
  apply call.bind
  intro r
  rintro s t ⟨made, rfl, post⟩
  exact .ok post

end Backend.Alike

theorem Answer.during_eq_ok {α : Type} {operation : String} {a : Answer α} {x : α} :
    a.during operation = .ok x ↔ a = .ok x := by
  cases a with
  | ok y => exact Iff.rfl
  | error e => exact ⟨fun h => (by cases h), fun h => (by cases h)⟩

namespace Service
open Upkeep.Action (answer during)
variable {σ τ : Type} {R L : σ → τ → Prop} {b : Backend σ} {c : Backend τ} {ctx : Context}

/-- For the caller of a request; there may be none, and then nothing is called. -/
def AlikeFor (R L : σ → τ → Prop) (b : Backend σ) (c : Backend τ) (ctx : Context) : Prop :=
  ∀ tenant, ctx.requireTenant = .ok tenant → b.Alike R L c ctx tenant

theorem answer_alike {α : Type} (operation : String) (x : Answer α) :
    Action.Alike R R (during operation (answer x)) (during operation (answer x)) fun _ => R :=
  Action.Alike.answer.during operation

theorem create_alike (each : AlikeFor R L b c ctx) (s : Wire.Schedule) :
    Action.Alike R R (create b ctx s) (create c ctx s) fun _ => R := by
  apply Action.Alike.answer_bind
  intro tenant required
  have alike := each tenant required
  apply (answer_alike _ _).bind
  intro stored
  apply ((Backend.Alike.expect (alike.await (alike.create stored))).during _).bind
  intro made
  exact (Action.Alike.change _ _).bind fun _ => answer_alike _ _

theorem get_alike (each : AlikeFor R L b c ctx) (id : String) :
    Action.Alike R R (get b ctx id) (get c ctx id) fun _ => R := by
  apply Action.Alike.answer_bind
  intro tenant required
  have alike := each tenant required
  apply (answer_alike _ _).bind
  intro _
  apply ((alike.await (alike.schedule id)).during _).bind
  intro stored
  exact answer_alike _ _

theorem list_alike (each : AlikeFor R L b c ctx) (set : ServiceSettings) (r : ListRequest) :
    Action.Alike R R (list b set ctx r) (list c set ctx r) fun _ => R := by
  apply Action.Alike.answer_bind
  intro tenant required
  have alike := each tenant required
  apply (answer_alike _ _).bind
  intro criteria
  apply (answer_alike _ _).bind
  intro limit
  apply ((alike.await (alike.page r.offset limit criteria)).during _).bind
  intro page
  apply (answer_alike _ _).bind
  intro seen
  exact (answer_alike _ _).bind fun total => Action.Alike.answer

theorem change_alike {tenant id : String} (alike : b.Alike R L c ctx tenant)
    (named : Kind.schedule.isId id = true) (operation : String) (mask : List String) (s : Schedule) :
    Action.Alike R R (change b operation ctx tenant id mask s) (change c operation ctx tenant id mask s)
      fun _ => R := by
  apply ((Backend.Alike.expect (alike.await (alike.update id mask s named))).during _).bind
  intro made
  exact (Action.Alike.change _ _).bind fun _ => answer_alike _ _

theorem checked_alike {α : Type} {operation id : String} {f : Action σ α} {g : Action τ α}
    (rest : Kind.schedule.isId id = true → Action.Alike R R f g fun _ => R) :
    Action.Alike R R (do during operation (answer (Kind.schedule.checkId id)); f)
      (do during operation (answer (Kind.schedule.checkId id)); g) fun _ => R := by
  rw [Action.during_answer, Action.during_answer]
  exact Action.Alike.answer_bind fun _ checked =>
    rest (Kind.checkId_ok.1 (Answer.during_eq_ok.1 checked))

theorem update_alike (each : AlikeFor R L b c ctx) (id : String) (s : Wire.Schedule) :
    Action.Alike R R (update b ctx id s) (update c ctx id s) fun _ => R := by
  apply Action.Alike.answer_bind
  intro tenant required
  apply checked_alike
  intro named
  apply (answer_alike _ _).bind
  intro stored
  exact change_alike (each tenant required) named _ _ _

theorem patch_alike (each : AlikeFor R L b c ctx) (set : ServiceSettings) (id : String)
    (s : Wire.Schedule) (mask : Option (List String)) :
    Action.Alike R R (patch b set ctx id s mask) (patch c set ctx id s mask) fun _ => R := by
  apply Action.Alike.answer_bind
  intro tenant required
  apply checked_alike
  intro named
  apply (answer_alike _ _).bind
  intro stored
  apply (answer_alike _ _).bind
  intro mask
  exact change_alike (each tenant required) named _ _ _

theorem delete_alike (each : AlikeFor R L b c ctx) (id : String) :
    Action.Alike R R (delete b ctx id) (delete c ctx id) fun _ => R := by
  apply Action.Alike.answer_bind
  intro tenant required
  have alike := each tenant required
  apply checked_alike
  intro named
  apply ((alike.await (alike.delete id named)).during _).bind
  intro _
  exact Action.Alike.change _ _

/-- Backends that do everything alike for the caller serve every request alike. -/
theorem serve_alike (each : AlikeFor R L b c ctx) (set : ServiceSettings) (request : Request) :
    Action.Alike R R (serve b set ctx request) (serve c set ctx request) fun _ => R := by
  cases request with
  | create s => exact (create_alike each s).bind fun _ => Action.Alike.answer
  | get id => exact (get_alike each id).bind fun _ => Action.Alike.answer
  | list r => exact (list_alike each set r).bind fun _ => Action.Alike.answer
  | update id s => exact (update_alike each id s).bind fun _ => Action.Alike.answer
  | patch id s mask => exact (patch_alike each set id s mask).bind fun _ => Action.Alike.answer
  | delete id => exact (delete_alike each id).bind fun _ => Action.Alike.answer

end Service
end Upkeep
