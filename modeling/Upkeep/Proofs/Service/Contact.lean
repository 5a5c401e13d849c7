import Upkeep.Proofs.Service.Plan

/-! Whom the service calls. It works with a store and a cache that may do anything at all, and
every call it makes on them is noted. A request that is refused, or has ended, makes none; any
other makes one, and a write that succeeded is followed by word to the cache. -/
namespace Upkeep.Service
open Upkeep.Action (answer during)

inductive Contact where
  | one (ctx : Context) (tenant id : String)
  | page (ctx : Context) (tenant : String) (offset limit : Nat) (criteria : Criteria)
  | create (ctx : Context) (r : Resource)
  | get (ctx : Context) (id : String)
  | list (ctx : Context) (q : Query)
  | update (ctx : Context) (id : String) (mask : List String) (r : Resource)
  | delete (ctx : Context) (id : String)
  | invalidate (tenant id : String) (c : Change)

/-- A store and a cache of any kind, and what becomes of a request while they are at work. -/
structure Collaborators (σ : Type) where
  cancelled : σ → Bool
  now : σ → Nat
  /-- How the request has ended, if it ended before the answer to a call was there. -/
  overtaken : Context → σ → Option Failure
  store : Store σ
  schedule : Context → (tenant id : String) → Action σ Schedule
  page : Context → (tenant : String) → (offset limit : Nat) → Criteria → Action σ (Page Schedule)
  invalidate : (tenant id : String) → Change → σ → σ

/-- A state, and the calls that have been made, in their order. -/
structure Watched (σ : Type) where
  state : σ
  contacts : List Contact := []

namespace Collaborators
variable {σ α : Type}

def contact (c : Collaborators σ) (ctx : Context) (made : Contact) (call : Action σ α) :
    Action (Watched σ) α := fun w =>
  let (a, s) := call.result w.state
  let a := match c.overtaken ctx s with
    | some e => .error e
    | none => a
  (a, ⟨s, w.contacts ++ [made]⟩)

def backend (c : Collaborators σ) : Backend (Watched σ) where
  check ctx := fun w => (ctx.check (c.cancelled w.state) (c.now w.state), w)
  store :=
    { create := fun ctx r => c.contact ctx (.create ctx r) (c.store.create ctx r)
      get := fun ctx id => c.contact ctx (.get ctx id) (c.store.get ctx id)
      list := fun ctx q => c.contact ctx (.list ctx q) (c.store.list ctx q)
      update := fun ctx id mask r =>
        c.contact ctx (.update ctx id mask r) (c.store.update ctx id mask r)
      delete := fun ctx id => c.contact ctx (.delete ctx id) (c.store.delete ctx id) }
  schedule ctx tenant id := c.contact ctx (.one ctx tenant id) (c.schedule ctx tenant id)
  page ctx tenant offset limit criteria :=
    c.contact ctx (.page ctx tenant offset limit criteria) (c.page ctx tenant offset limit criteria)
  invalidate tenant id change w :=
    ⟨c.invalidate tenant id change w.state, w.contacts ++ [.invalidate tenant id change]⟩

/-- What a call brings back, if it succeeds and the request does not end before. -/
def reached (c : Collaborators σ) (ctx : Context) (call : Action σ α) (s : σ) : Option α :=
  match call.result s with
  | (.ok a, after) => if c.overtaken ctx after = none then some a else none
  | (.error _, _) => none

variable {c : Collaborators σ} {ctx : Context}

theorem contact_reached (made : Contact) {call : Action σ α} {w : Watched σ} {a : α}
    (back : c.reached ctx call w.state = some a) :
    (c.contact ctx made call).result w =
      (.ok a, ⟨(call.result w.state).2, w.contacts ++ [made]⟩) := by
  unfold reached at back
  rcases done : call.result w.state with ⟨e | x, after⟩
  · simp [done] at back
  · simp only [done, Option.ite_none_right_eq_some, Option.some.injEq] at back
    obtain ⟨intime, rfl⟩ := back
    unfold contact Action.result
    simp only [show call w.state = _ from done, intime]

theorem contact_lost (made : Contact) {call : Action σ α} {w : Watched σ}
    (lost : c.reached ctx call w.state = none) :
    ∃ e, (c.contact ctx made call).result w =
      (.error e, ⟨(call.result w.state).2, w.contacts ++ [made]⟩) := by
  unfold reached at lost
  unfold contact
  rcases done : call.result w.state with ⟨e | x, after⟩
  · cases passed : c.overtaken ctx after with
    | none => exact ⟨e, by simp [Action.result, show call w.state = _ from done, passed]⟩
    | some f => exact ⟨f, by simp [Action.result, show call w.state = _ from done, passed]⟩
  · cases passed : c.overtaken ctx after with
    | none => simp [done, passed] at lost
    | some f => exact ⟨f, by simp [Action.result, show call w.state = _ from done, passed]⟩

theorem await_live {call : Action (Watched σ) α} {w : Watched σ}
    (live : ctx.ended (c.cancelled w.state) (c.now w.state) = none) :
    (c.backend.await ctx call).result w = call.result w := by
  have checked : (c.backend.check ctx).result w = (.ok (), w) := by
    simp only [Action.result, backend, Context.check, live]
  unfold Backend.await
  rw [Action.result_bind, checked]

theorem await_ended {call : Action (Watched σ) α} {w : Watched σ} {e : Failure}
    (ended : ctx.ended (c.cancelled w.state) (c.now w.state) = some e) :
    (c.backend.await ctx call).result w = (.error e, w) := by
  have checked : (c.backend.check ctx).result w = (.error e, w) := by
    simp only [Action.result, backend, Context.check, ended]
  unfold Backend.await
  rw [Action.result_bind, checked]

/-- The calls that are due to a plan for a request that has not ended. -/
def due (c : Collaborators σ) (ctx : Context) (s : σ) : Plan → List Contact
  | .look tenant id => [.one ctx tenant id]
  | .page tenant offset limit criteria => [.page ctx tenant offset limit criteria]
  | .create tenant stored =>
    .create ctx (.schedule stored) :: match c.reached ctx (c.store.create ctx (.schedule stored)) s with
      | some (.schedule made) => [.invalidate tenant made.id .created]
      | _ => []
  | .change tenant _ id mask stored =>
    .update ctx id mask (.schedule stored) ::
      match c.reached ctx (c.store.update ctx id mask (.schedule stored)) s with
      | some (.schedule _) => [.invalidate tenant id .updated]
      | _ => []
  | .delete tenant id =>
    .delete ctx id :: match c.reached ctx (c.store.delete ctx id) s with
      | some () => [.invalidate tenant id .deleted]
      | none => []

/-- A request that has ended is not carried out. -/
theorem carryOut_ended {w : Watched σ} {e : Failure} (p : Plan)
    (ended : ctx.ended (c.cancelled w.state) (c.now w.state) = some e) :
    ((carryOut c.backend ctx p).result w).2 = w := by
  cases p with
  | look tenant id => simp only [carryOut, Action.result_bind, Action.result_during, await_ended ended, Answer.during]
  | page tenant offset limit criteria =>
      simp only [carryOut, Action.result_bind, Action.result_during, await_ended ended, Answer.during]
  | create tenant stored =>
      simp only [carryOut, write, Action.result_bind, Action.result_during, await_ended ended, Answer.during]
  | change tenant operation id mask stored =>
      simp only [carryOut, write, Action.result_bind, Action.result_during, await_ended ended, Answer.during]
  | delete tenant id =>
      simp only [carryOut, Action.result_bind, Action.result_during, await_ended ended, Answer.during]

/-- What is read is handed on, and nobody is called again. -/
theorem read_contacts {w : Watched σ} {made : Contact} {call : Action σ α} (operation : String)
    (show_ : α → Answer Reply) (live : ctx.ended (c.cancelled w.state) (c.now w.state) = none) :
    ((do
      let a ← during operation (c.backend.await ctx (c.contact ctx made call))
      answer (show_ a)).result w).2.contacts = w.contacts ++ [made] := by
  rw [Action.result_bind, Action.result_during, await_live live]
  cases back : c.reached ctx call w.state with
  | none =>
      obtain ⟨e, done⟩ := contact_lost made back
      rw [done]
      rfl
  | some a =>
      rw [contact_reached made back]
      rfl

theorem write_contacts {w : Watched σ} {made : Contact} {call : Action σ Resource} (operation : String)
    (tell : Schedule → Watched σ → Watched σ) (told : Schedule → Contact)
    (tells : ∀ s w, (tell s w).contacts = w.contacts ++ [told s])
    (live : ctx.ended (c.cancelled w.state) (c.now w.state) = none) :
    ((write c.backend operation ctx (c.contact ctx made call) tell).result w).2.contacts =
      w.contacts ++ made :: match c.reached ctx call w.state with
        | some (.schedule s) => [told s]
        | _ => [] := by
  unfold write
  rw [Action.result_bind, Action.result_during, Action.result_bind, await_live live]
  cases back : c.reached ctx call w.state with
  | none =>
      obtain ⟨e, done⟩ := contact_lost made back
      rw [done]
      rfl
  | some r =>
      rw [contact_reached made back]
      cases r with
      | schedule s => exact (tells s _).trans (List.append_assoc ..)
      | host h => rfl
      | site s => rfl
      | region r => rfl

theorem carryOut_live {w : Watched σ} (p : Plan)
    (live : ctx.ended (c.cancelled w.state) (c.now w.state) = none) :
    ((carryOut c.backend ctx p).result w).2.contacts = w.contacts ++ c.due ctx w.state p := by
  cases p with
  | look tenant id => exact read_contacts _ _ live
  | page tenant offset limit criteria => exact read_contacts _ _ live
  | create tenant stored =>
      exact write_contacts _ _ (fun made => .invalidate tenant made.id .created) (fun _ _ => rfl) live
  | change tenant operation id mask stored =>
      exact write_contacts _ _ (fun _ => .invalidate tenant id .updated) (fun _ _ => rfl) live
  | delete tenant id =>
      unfold carryOut
      rw [Action.result_bind, Action.result_during, await_live live, due]
      cases back : c.reached ctx (c.store.delete ctx id) w.state with
      | none =>
          obtain ⟨e, done⟩ := contact_lost (.delete ctx id) back
          rw [show (c.backend.store.delete ctx id).result w = _ from done]
          rfl
      | some u =>
          have done := contact_reached (.delete ctx id) back
          rw [show (c.backend.store.delete ctx id).result w = _ from done]
          exact List.append_assoc ..

end Collaborators

/-- Of all that it works with, the service calls what is due to its plan and nothing else, and
nobody at all if there is no plan or the request has ended. -/
theorem contacts_of_serve {σ : Type} (c : Collaborators σ) (set : ServiceSettings) (ctx : Context)
    (request : Request) (s : σ) :
    let contacts := ((serve c.backend set ctx request).result ⟨s, []⟩).2.contacts
    let ended := ctx.ended (c.cancelled s) (c.now s)
    (∀ p, Planned set ctx request p → ended = none → contacts = c.due ctx s p) ∧
      ((∀ p, ¬ Planned set ctx request p) ∨ ended ≠ none → contacts = []) := by
  intro contacts ended
  have served : contacts = ((serve c.backend set ctx request).result ⟨s, []⟩).2.contacts := rfl
  rw [serve_eq, Action.result_bind, Action.result_answer] at served
  constructor
  · intro p planned live
    rw [plan_ok.2 planned] at served
    exact served.trans (Collaborators.carryOut_live p live)
  · intro unfit
    cases found : plan set ctx request with
    | error e =>
        rw [found] at served
        exact served
    | ok p =>
        rw [found] at served
        have late := unfit.resolve_left fun none => none p (plan_ok.1 found)
        obtain ⟨e, ended⟩ := Option.ne_none_iff_exists'.1 late
        exact served.trans (congrArg Watched.contacts (Collaborators.carryOut_ended p ended))

end Upkeep.Service
