import Upkeep.Calendar.Stamp
import Upkeep.Json.Record
import Upkeep.Wire.Basic

/-! The JSON form of what callers send and get. Empty texts and absent records are left out;
the fields that every schedule has are always written. -/
namespace Upkeep.Wire
open Upkeep.Calendar (Instant readInstant)
open Json (text? unlessEmpty ifSome optional?)
open Reader (fieldOr)

def instantJson (t : Instant) : Json := .str t.text

def instantOfJson? (j : Json) : Option Instant := (text? j).bind readInstant

namespace Times

def json (t : Times) : Json :=
  .obj (ifSome "created_at" instantJson t.createdAt ++ ifSome "updated_at" instantJson t.updatedAt)

def ofJson? (j : Json) : Option Times := do
  let fs ← Json.fields ["created_at", "updated_at"] j
  return {
    createdAt := ← fieldOr (optional? instantOfJson?) none fs "created_at"
    updatedAt := ← fieldOr (optional? instantOfJson?) none fs "updated_at" }

end Times

namespace Host

def json (h : Host) : Json :=
  .obj ([("resource_id", .str h.id), ("name", .str h.name)] ++ unlessEmpty "uuid" h.uuid ++
    unlessEmpty "site_id" h.siteId ++ unlessEmpty "hostID" h.hostId ++
    ifSome "timestamps" Times.json h.times)

def ofJson? (j : Json) : Option Host := do
  let fs ← Json.fields ["resource_id", "name", "uuid", "site_id", "hostID", "timestamps"] j
  return {
    id := ← fieldOr text? "" fs "resource_id"
    name := ← fieldOr text? "" fs "name"
    uuid := ← fieldOr text? "" fs "uuid"
    siteId := ← fieldOr text? "" fs "site_id"
    hostId := ← fieldOr text? "" fs "hostID"
    times := ← fieldOr (optional? Times.ofJson?) none fs "timestamps" }

end Host

namespace Site

def json (s : Site) : Json :=
  .obj ([("resource_id", .str s.id), ("name", .str s.name)] ++ unlessEmpty "region_id" s.regionId ++
    unlessEmpty "address" s.address ++ unlessEmpty "siteID" s.siteId ++
    ifSome "timestamps" Times.json s.times)

def ofJson? (j : Json) : Option Site := do
  let fs ← Json.fields ["resource_id", "name", "region_id", "address", "siteID", "timestamps"] j
  return {
    id := ← fieldOr text? "" fs "resource_id"
    name := ← fieldOr text? "" fs "name"
    regionId := ← fieldOr text? "" fs "region_id"
    address := ← fieldOr text? "" fs "address"
    siteId := ← fieldOr text? "" fs "siteID"
    times := ← fieldOr (optional? Times.ofJson?) none fs "timestamps" }

end Site

namespace Region

def json (r : Region) : Json :=
  .obj ([("resource_id", .str r.id), ("name", .str r.name)] ++ unlessEmpty "parent_id" r.parentId ++
    unlessEmpty "regionID" r.regionId ++ ifSome "timestamps" Times.json r.times)

def ofJson? (j : Json) : Option Region := do
  let fs ← Json.fields ["resource_id", "name", "parent_id", "regionID", "timestamps"] j
  return {
    id := ← fieldOr text? "" fs "resource_id"
    name := ← fieldOr text? "" fs "name"
    parentId := ← fieldOr text? "" fs "parent_id"
    regionId := ← fieldOr text? "" fs "regionID"
    times := ← fieldOr (optional? Times.ofJson?) none fs "timestamps" }

end Region

namespace Schedule

def fieldNames : List String :=
  ["resource_id", "schedule_status", "name", "target_site", "target_host", "target_region",
    "start_seconds", "end_seconds", "single_scheduleID", "target_host_id", "target_site_id",
    "target_region_id", "timestamps"]

def json (s : Schedule) : Json :=
  .obj (unlessEmpty "resource_id" s.id ++
    [("schedule_status", .str s.status.tag), ("name", .str s.name)] ++
    ifSome "target_site" Site.json s.site ++ ifSome "target_host" Host.json s.host ++
    ifSome "target_region" Region.json s.region ++
    [("start_seconds", .ofNat s.start.toNat), ("end_seconds", .ofNat s.finish.toNat)] ++
    unlessEmpty "single_scheduleID" s.scheduleId ++ unlessEmpty "target_host_id" s.hostId ++
    unlessEmpty "target_site_id" s.siteId ++ unlessEmpty "target_region_id" s.regionId ++
    ifSome "timestamps" Times.json s.times)

def ofJson? (j : Json) : Option Schedule := do
  let fs ← Json.fields fieldNames j
  return {
    id := ← fieldOr text? "" fs "resource_id"
    status := ← fieldOr (Json.choice? Status.all Status.tag) .unspecified fs "schedule_status"
    name := ← fieldOr text? "" fs "name"
    site := ← fieldOr (optional? Site.ofJson?) none fs "target_site"
    host := ← fieldOr (optional? Host.ofJson?) none fs "target_host"
    region := ← fieldOr (optional? Region.ofJson?) none fs "target_region"
    start := ← fieldOr Json.word32? 0 fs "start_seconds"
    finish := ← fieldOr Json.word32? 0 fs "end_seconds"
    scheduleId := ← fieldOr text? "" fs "single_scheduleID"
    hostId := ← fieldOr text? "" fs "target_host_id"
    siteId := ← fieldOr text? "" fs "target_site_id"
    regionId := ← fieldOr text? "" fs "target_region_id"
    times := ← fieldOr (optional? Times.ofJson?) none fs "timestamps" }

end Schedule

end Upkeep.Wire
