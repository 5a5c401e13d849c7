import Upkeep.Gateway.Basic
import Upkeep.Proofs.Service.Plan

/-! What the gateway makes of a request before it calls the service: it settles the request by
itself, or it has one request of the service to ask, which does not depend on the caller. So the gateway
works with any backend. -/
namespace Upkeep.Gateway
open Upkeep.Action (answer)

/-- A reply of the service, as it is sent. -/
def replyJson : Service.Reply → Json
  | .schedule s => s.json
  | .page p => listed p
  | .deleted => .obj []

/-- What is asked of the service for a patch. -/
def patchRequest (r : HttpRequest) (query : List (String × String)) (id : String) :
    Answer Service.Request := do
  let named ← queryField query "field_mask"
  let body ← bodyValue r
  match Wire.Schedule.ofJson? body with
  | some s => return .patch id s (patchMask named body)
  | none => throw badSchedule

/-- What is asked of the service for a method at an endpoint; a failure if the request cannot be
read, and nothing if the service is not concerned. -/
def request? (r : HttpRequest) (query : List (String × String)) (id : String) (e : Endpoint)
    (method : String) : Option (Answer Service.Request) :=
  match e, method with
  | .schedules _, "GET" => some (.list <$> listRequest query)
  | .schedules _, "POST" => some (.create <$> bodySchedule r)
  | .schedule _ _, "GET" => some (.ok (.get id))
  | .schedule _ _, "PUT" => some (.update id <$> bodySchedule r)
  | .schedule _ _, "PATCH" => some (patchRequest r query id)
  | .schedule _ _, "DELETE" => some (.ok (.delete id))
  | _, _ => none

section Handlers
variable {σ : Type} (b : Backend σ) (set : ServiceSettings) (ctx : Context)

/-- Asks the service, if the request can be read. -/
def ask (asked : Answer Service.Request) : Action σ Json := do
  let request ← answer asked
  replyJson <$> Service.serve b set ctx request

theorem ask_map {α : Type} (x : Answer α) (f : α → Service.Request) :
    ask b set ctx (f <$> x) = answer x >>= fun a => replyJson <$> Service.serve b set ctx (f a) := by
  cases x with
  | ok a => rfl
  | error e => rfl

theorem ask_ok (request : Service.Request) :
    ask b set ctx (.ok request) = replyJson <$> Service.serve b set ctx request := rfl

variable (c : Config) (r : HttpRequest) (query : List (String × String)) (id : String)

theorem patch_ask : patch c ctx r query id = ask Deployment.backend (settingsOf c) ctx (patchRequest r query id) := by
  unfold patch patchRequest ask
  simp only [Action.answer_bind, bind_assoc]
  congr 1
  funext named
  congr 1
  funext body
  cases Wire.Schedule.ofJson? body with
  | some s =>
      simp only [Action.answer_pure, pure_bind, Service.serve, map_bind, map_pure]
      rfl
  | none => rfl

/-- All handlers but the one of the health ask the service. -/
theorem handler?_eq (e : Endpoint) (method : String) (concerned : e ≠ .health) :
    handler? c ctx r query id e method =
      (request? r query id e method).map (ask Deployment.backend (settingsOf c) ctx) := by
  unfold handler? request?
  split
  · exact absurd rfl concerned
  · simp only [Option.map_some, ask_map, Service.serve, map_bind, map_pure]
    rfl
  · simp only [Option.map_some, ask_map, Service.serve, map_bind, map_pure]
    rfl
  · simp only [Option.map_some, ask_ok, Service.serve, map_bind, map_pure]
    rfl
  · simp only [Option.map_some, ask_map, Service.serve, map_bind, map_pure]
    rfl
  · simp only [Option.map_some, patch_ask]
  · simp only [Option.map_some, ask_ok, Service.serve, map_bind, map_pure]
    rfl
  · -- Nothing is left that either of them knows.
    split
    case h_7 => rfl
    all_goals simp_all

end Handlers

/-- What becomes of a request before anyone is called for it. -/
inductive Errand where
  | settled (response : HttpResponse)
  | ask (asked : Answer Service.Request)

/-- A head is had as the whole, but sent without body. -/
def wholeMethod (r : HttpRequest) : String := if r.method = "HEAD" then "GET" else r.method

def sent (r : HttpRequest) (response : HttpResponse) : HttpResponse :=
  if r.method = "HEAD" then { response with body := none } else response

def answered (r : HttpRequest) : Answer Json → HttpResponse
  | .ok j => sent r { status := 200, body := some j }
  | .error e => sent r (failureResponse e)

def errandAt (c : Config) (r : HttpRequest) (query : List (String × String)) : Endpoint → Errand
  | .health =>
    if wholeMethod r = "GET" then .settled (answered r (.ok (healthJson c)))
    else .settled { status := 405 }
  | e =>
    match request? r query (e.id?.getD "") e (wholeMethod r) with
    | none => .settled { status := 405 }
    | some asked => if e.id? = none then .settled { status := 400 } else .ask asked

def errand (c : Config) (r : HttpRequest) : Errand :=
  if r.method = "OPTIONS" then .settled { status := 200 }
  else
    match Endpoint.ofSegments? (Address.ofText r.address).segments with
    | none => .settled { status := 404 }
    | some e => errandAt c r (Address.ofText r.address).query e

section Handle
variable {σ : Type} (b : Backend σ) (now : Nat) (c : Config)

def contextOf (tenant : Option String) : Context where
  tenant := tenant
  deadline := some (now + c.server.timeout * 1000)

/-- Runs an errand for a tenant. -/
def run (tenant : Option String) (r : HttpRequest) (s : σ) : Errand → HttpResponse × σ
  | .settled response => (response, s)
  | .ask asked =>
    let (a, s) := (ask b (settingsOf c) (contextOf now c tenant) asked).result s
    (answered r a, s)

/-- Handles a request at a time, with any backend. -/
def handleWith (validate : Validator) (r : HttpRequest) (s : σ) : HttpResponse × σ :=
  match tenantOf? validate c.gateway (now / 1000 : Nat) r with
  | none => (refusal, s)
  | some tenant => run b now c tenant r s (errand c r)

end Handle

theorem answered_eq (r : HttpRequest) (a : Action Deployment Json) (d : Deployment) :
    (sent r (responseOf a d).1, (responseOf a d).2) = (answered r (a.result d).1, (a.result d).2) := by
  unfold responseOf
  rcases a.result d with ⟨e | j, next⟩
  · rfl
  · rfl

theorem errandAt_asked (c : Config) (r : HttpRequest) (query : List (String × String)) {e : Endpoint}
    (concerned : e ≠ .health) :
    errandAt c r query e = match request? r query (e.id?.getD "") e (wholeMethod r) with
      | none => .settled { status := 405 }
      | some asked => if e.id? = none then .settled { status := 400 } else .ask asked := by
  cases e with
  | health => exact absurd rfl concerned
  | schedules project => rfl
  | schedule project id => rfl

/-- To run what was made of a request is to do what the handler of its endpoint does. -/
theorem run_errandAt (c : Config) (tenant : Option String) (r : HttpRequest)
    (query : List (String × String)) (e : Endpoint) (d : Deployment) :
    run Deployment.backend d.now c tenant r d (errandAt c r query e) =
      match handler? c (contextOf d.now c tenant) r query (e.id?.getD "") e (wholeMethod r) with
      | none => ({ status := 405 }, d)
      | some a =>
        if e.id? = none then ({ status := 400 }, d) else (sent r (responseOf a d).1, (responseOf a d).2) := by
  by_cases concerned : e = .health
  · subst concerned
    unfold errandAt handler?
    by_cases got : wholeMethod r = "GET"
    · rw [if_pos got, got]
      rfl
    · rw [if_neg got]
      simp [got, run]
  · rw [errandAt_asked c r query concerned, handler?_eq _ c r query _ e _ concerned]
    cases request? r query (e.id?.getD "") e (wholeMethod r) with
    | none => rfl
    | some asked =>
        dsimp only [Option.map_some]
        split
        · rfl
        · rw [answered_eq]
          rfl

theorem serve_eq (c : Config) (tenant : Option String) (r : HttpRequest) (d : Deployment) :
    serve c tenant r d = run Deployment.backend d.now c tenant r d (errand c r) := by
  unfold errand
  by_cases options : r.method = "OPTIONS"
  · simp only [serve, if_pos options, run]
  rw [if_neg options]
  cases found : Endpoint.ofSegments? (Address.ofText r.address).segments with
  | none => simp only [serve, if_neg options, found, run]
  | some e =>
      dsimp only
      rw [run_errandAt]
      simp only [serve, if_neg options, found]
      rfl

/-- The gateway is the one that works with the backend of its deployment. -/
theorem handleBy_eq (validate : Validator) (c : Config) (r : HttpRequest) (d : Deployment) :
    handleBy validate c r d = handleWith Deployment.backend d.now c validate r d := by
  unfold handleBy handleWith
  cases tenantOf? validate c.gateway (d.now / 1000 : Nat) r with
  | none => rfl
  | some tenant => exact serve_eq c tenant r d

end Upkeep.Gateway
