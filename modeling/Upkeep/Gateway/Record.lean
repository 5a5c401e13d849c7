import Upkeep.Gateway.Exchange
import Upkeep.Json.Record

/-! The form of requests and responses where they are kept in JSON. -/
namespace Upkeep.Gateway

/-- A request and the millisecond at which it comes. -/
structure Arrival where
  time : Nat
  request : HttpRequest

def headersOfJson? : Json → Option (List (String × String))
  | .obj fs => fs.mapM fun (name, j) => (Json.text? j).map (name, ·)
  | _ => none

def Arrival.ofJson? (j : Json) : Option Arrival := do
  let fs ← Json.fields ["at", "method", "address", "headers", "body"] j
  let time ← (Table.look "at" fs).bind (Json.nat? 64)
  let method ← Reader.fieldOr Json.text? "GET" fs "method"
  let address ← (Table.look "address" fs).bind Json.text?
  let headers ← Reader.fieldOr headersOfJson? [] fs "headers"
  let body ← Reader.fieldOr (Json.optional? Json.text?) none fs "body"
  return { time, request := { method, address, headers, body } }

def HttpResponse.json (r : HttpResponse) : Json :=
  .obj [("status", .ofNat r.status), ("body", Json.ofOption id r.body)]

end Upkeep.Gateway
