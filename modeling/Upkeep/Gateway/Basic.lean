import Upkeep.Deployment
import Upkeep.Gateway.Address
import Upkeep.Gateway.Caller
import Upkeep.Gateway.MediaType
import Upkeep.Service
import Upkeep.Wire.Record

/-! The gateway: the operations of the service, and a word on its health, for callers who send
requests with a method, an address, headers and a body. -/
namespace Upkeep.Gateway

def version : String := "0.1.0"

/-- What an address leads to. The parts of it that callers choose are still encoded. -/
inductive Endpoint where
  | health
  | schedules (project : List Char)
  | schedule (project id : List Char)

namespace Endpoint

def ofSegments? (segments : List (List Char)) : Option Endpoint :=
  match segments.map String.ofList with
  | ["", "health"] => some .health
  | ["", "v1", "projects", project, "schedules", "single"] =>
    if project = "" then none else some (.schedules project.toList)
  | ["", "v1", "projects", project, "schedules", "single", id] =>
    if project = "" ∨ id = "" then none else some (.schedule project.toList id.toList)
  | _ => none

end Endpoint

def failureResponse (e : Failure) : HttpResponse where
  status := e.code.httpStatus
  body := some (.obj [("code", .str e.code.name), ("message", .str e.message)])

def badBody : Failure := .invalidArgument "invalid request body: not what is expected here"

def badQuery : Failure := .invalidArgument "invalid query parameters: not what is expected here"

def badSchedule : Failure := .invalidArgument "invalid single schedule body: no schedule"

/-- The JSON text in the body of a request. How long a body may be is not asked here: the server that receives the
request sees to that before it hands it over. -/
def bodyText (r : HttpRequest) : Answer String :=
  if (r.header? "content-type").any isJsonType then .ok (r.body.getD "") else .error badBody

/-- The schedule in a body; its fields may not stand there twice. -/
def bodySchedule (r : HttpRequest) : Answer Wire.Schedule := do
  let text ← bodyText r
  match (Json.read text).bind Wire.Schedule.ofJson? with
  | some s => .ok s
  | none => .error badBody

/-- The JSON value in a body, by itself. -/
def bodyValue (r : HttpRequest) : Answer Json := do
  let text ← bodyText r
  match Json.readPlain text with
  | some j => .ok j
  | none => .error badBody

/-- The value of a field of a query, which may not be there twice. -/
def queryField (fields : List (String × String)) (name : String) : Answer (Option String) :=
  match fields.filter (·.1 = name) with
  | [] => .ok none
  | [(_, value)] => .ok (some value)
  | _ => .error badQuery

def queryNumber (fields : List (String × String)) (name : String) : Answer Nat := do
  match ← queryField fields name with
  | none => .ok 0
  | some value =>
    match Decimal.readWord 32 value with
    | .ok n => .ok n
    | .error _ => .error badQuery

def listRequest (fields : List (String × String)) : Answer ListRequest := do
  return {
    pageSize := ← queryNumber fields "page_size"
    offset := ← queryNumber fields "offset"
    hostId := ← queryField fields "host_id"
    siteId := ← queryField fields "site_id"
    regionId := ← queryField fields "region_id"
    epoch := ← queryField fields "unix_epoch" }

/-- The fields to change: those that the query names, or else those that the body has. A mask
that names nothing is none. -/
def patchMask (named : Option String) (body : Json) : Option (List String) :=
  let paths := match named with
    | some raw => (((Text.splitOn (· = ',') raw.toList).map Text.trimChars).filter (· ≠ [])).map
        String.ofList
    | none =>
      match body with
      | .obj fields => fields.map (·.1)
      | _ => []
  if paths.isEmpty then none else some paths

def settingsOf (c : Config) : ServiceSettings where
  pageSize := c.api.pageSize
  maxPageSize := c.api.maxPageSize
  strictMask := c.api.strictMask

section Handlers
open Upkeep.Action (answer)
variable (c : Config) (ctx : Context) (r : HttpRequest)

def listed (p : Page Wire.Schedule) : Json := Page.json "single_schedules" Wire.Schedule.json p

def healthJson : Json :=
  .obj [("status", .str "ok"), ("version", .str version), ("cache_backend", .str c.cache.kind.tag)]

def list (query : List (String × String)) : Action Deployment Json := do
  let request ← answer (listRequest query)
  listed <$> Service.list Deployment.backend (settingsOf c) ctx request

def create : Action Deployment Json := do
  let s ← answer (bodySchedule r)
  Wire.Schedule.json <$> Service.create Deployment.backend ctx s

def get (id : String) : Action Deployment Json :=
  Wire.Schedule.json <$> Service.get Deployment.backend ctx id

def update (id : String) : Action Deployment Json := do
  let s ← answer (bodySchedule r)
  Wire.Schedule.json <$> Service.update Deployment.backend ctx id s

def patch (query : List (String × String)) (id : String) : Action Deployment Json := do
  let named ← answer (queryField query "field_mask")
  let body ← answer (bodyValue r)
  match Wire.Schedule.ofJson? body with
  | some s =>
    Wire.Schedule.json <$>
      Service.patch Deployment.backend (settingsOf c) ctx id s (patchMask named body)
  | none => throw badSchedule

def delete (id : String) : Action Deployment Json :=
  (fun _ => .obj []) <$> Service.delete Deployment.backend ctx id

/-- What is done for a method at an endpoint; nothing if it has no such method. -/
def handler? (query : List (String × String)) (id : String) (e : Endpoint) (method : String) :
    Option (Action Deployment Json) :=
  match e, method with
  | .health, "GET" => some (pure (healthJson c))
  | .schedules _, "GET" => some (list c ctx query)
  | .schedules _, "POST" => some (create ctx r)
  | .schedule _ _, "GET" => some (get ctx id)
  | .schedule _ _, "PUT" => some (update ctx r id)
  | .schedule _ _, "PATCH" => some (patch c ctx r query id)
  | .schedule _ _, "DELETE" => some (delete ctx id)
  | _, _ => none

end Handlers

/-- The ID in an address, decoded; the empty one where there is none. Nothing if any part of
the address cannot be decoded. -/
def Endpoint.id? : Endpoint → Option String
  | .health => some ""
  | .schedules project => (decodeSegment? project).map fun _ => ""
  | .schedule project id => (decodeSegment? project).bind fun _ => decodeSegment? id

def responseOf (a : Action Deployment Json) (d : Deployment) : HttpResponse × Deployment :=
  match a.result d with
  | (.ok j, d) => ({ status := 200, body := some j }, d)
  | (.error e, d) => (failureResponse e, d)

/-- Serves a request whose tenant is known. A head is had as the whole, but sent without body. -/
def serve (c : Config) (tenant : Option String) (r : HttpRequest) (d : Deployment) :
    HttpResponse × Deployment :=
  let address := Address.ofText r.address
  let ctx : Context := { tenant, deadline := some (d.now + c.server.timeout * 1000) }
  let method := if r.method = "HEAD" then "GET" else r.method
  if r.method = "OPTIONS" then ({ status := 200 }, d)
  else
    match Endpoint.ofSegments? address.segments with
    | none => ({ status := 404 }, d)
    | some e =>
      match handler? c ctx r address.query (e.id?.getD "") e method with
      | none => ({ status := 405 }, d)
      | some a =>
        if e.id? = none then ({ status := 400 }, d)
        else
          let (response, d) := responseOf a d
          (if r.method = "HEAD" then { response with body := none } else response, d)

/-- Finds out the tenant and serves the request. -/
def handleBy (validate : Validator) (c : Config) (r : HttpRequest) (d : Deployment) : HttpResponse × Deployment :=
  match tenantOf? validate c.gateway (d.now / 1000 : Nat) r with
  | none => (refusal, d)
  | some tenant => serve c tenant r d

def handle : Config → HttpRequest → Deployment → HttpResponse × Deployment := handleBy Token.validate

end Upkeep.Gateway
