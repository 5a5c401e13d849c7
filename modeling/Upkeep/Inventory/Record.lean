import Upkeep.Inventory.Store
import Upkeep.Json.Record

/-! The form in which resources are stored and exchanged: every field is always written. -/
namespace Upkeep
open Json (text?)
open Reader (fieldOr)

namespace Status

def json (s : Status) : Json := .str s.tag

def ofJson? : Json → Option Status := Json.choice? all tag

end Status

namespace Host

def fieldNames : List String :=
  ["resource_id", "name", "uuid", "site_id", "tenant_id", "created_at", "updated_at"]

def json (h : Host) : Json :=
  .obj [("resource_id", .str h.id), ("name", .str h.name), ("uuid", .str h.uuid),
    ("site_id", .str h.siteId), ("tenant_id", .str h.tenant), ("created_at", .str h.createdAt),
    ("updated_at", .str h.updatedAt)]

def read {τ : Type} (R : Reader τ) (t : τ) : Option Host := do
  let fs ← R.fields 0 fieldNames t
  return {
    id := ← fieldOr R.text "" fs "resource_id"
    name := ← fieldOr R.text "" fs "name"
    uuid := ← fieldOr R.text "" fs "uuid"
    siteId := ← fieldOr R.text "" fs "site_id"
    tenant := ← fieldOr R.text "" fs "tenant_id"
    createdAt := ← fieldOr R.text "" fs "created_at"
    updatedAt := ← fieldOr R.text "" fs "updated_at" }

def ofJson? : Json → Option Host := read Json.reader

end Host

namespace Site

def fieldNames : List String :=
  ["resource_id", "name", "region_id", "address", "tenant_id", "created_at", "updated_at"]

def json (s : Site) : Json :=
  .obj [("resource_id", .str s.id), ("name", .str s.name), ("region_id", .str s.regionId),
    ("address", .str s.address), ("tenant_id", .str s.tenant), ("created_at", .str s.createdAt),
    ("updated_at", .str s.updatedAt)]

def read {τ : Type} (R : Reader τ) (t : τ) : Option Site := do
  let fs ← R.fields 0 fieldNames t
  return {
    id := ← fieldOr R.text "" fs "resource_id"
    name := ← fieldOr R.text "" fs "name"
    regionId := ← fieldOr R.text "" fs "region_id"
    address := ← fieldOr R.text "" fs "address"
    tenant := ← fieldOr R.text "" fs "tenant_id"
    createdAt := ← fieldOr R.text "" fs "created_at"
    updatedAt := ← fieldOr R.text "" fs "updated_at" }

def ofJson? : Json → Option Site := read Json.reader

end Site

namespace Region

def fieldNames : List String :=
  ["resource_id", "name", "parent_id", "tenant_id", "created_at", "updated_at"]

def json (r : Region) : Json :=
  .obj [("resource_id", .str r.id), ("name", .str r.name), ("parent_id", .str r.parentId),
    ("tenant_id", .str r.tenant), ("created_at", .str r.createdAt),
    ("updated_at", .str r.updatedAt)]

def read {τ : Type} (R : Reader τ) (t : τ) : Option Region := do
  let fs ← R.fields 0 fieldNames t
  return {
    id := ← fieldOr R.text "" fs "resource_id"
    name := ← fieldOr R.text "" fs "name"
    parentId := ← fieldOr R.text "" fs "parent_id"
    tenant := ← fieldOr R.text "" fs "tenant_id"
    createdAt := ← fieldOr R.text "" fs "created_at"
    updatedAt := ← fieldOr R.text "" fs "updated_at" }

def ofJson? : Json → Option Region := read Json.reader

end Region

namespace Target

def json : Target → Json
  | .host h => .obj [("target_host", h.json)]
  | .site s => .obj [("target_site", s.json)]
  | .region r => .obj [("target_region", r.json)]

def ofJson? : Json → Option Target :=
  Json.variant? fun
    | "target_host", j => (Host.ofJson? j).map .host
    | "target_site", j => (Site.ofJson? j).map .site
    | "target_region", j => (Region.ofJson? j).map .region
    | _, _ => none

end Target

namespace Schedule

def fieldNames : List String :=
  ["resource_id", "schedule_status", "name", "relation", "start_seconds", "end_seconds",
    "tenant_id", "created_at", "updated_at"]

def json (s : Schedule) : Json :=
  .obj [("resource_id", .str s.id), ("schedule_status", s.status.json), ("name", .str s.name),
    ("relation", Json.ofOption Target.json s.target), ("start_seconds", .ofNat s.start.toNat),
    ("end_seconds", .ofNat s.finish.toNat), ("tenant_id", .str s.tenant),
    ("created_at", .str s.createdAt), ("updated_at", .str s.updatedAt)]

def ofJson? (j : Json) : Option Schedule := do
  let fs ← Json.fields fieldNames j
  return {
    id := ← fieldOr text? "" fs "resource_id"
    status := ← fieldOr Status.ofJson? .unspecified fs "schedule_status"
    name := ← fieldOr text? "" fs "name"
    target := ← fieldOr (Json.optional? Target.ofJson?) none fs "relation"
    start := ← fieldOr Json.word64? 0 fs "start_seconds"
    finish := ← fieldOr Json.word64? 0 fs "end_seconds"
    tenant := ← fieldOr text? "" fs "tenant_id"
    createdAt := ← fieldOr text? "" fs "created_at"
    updatedAt := ← fieldOr text? "" fs "updated_at" }

end Schedule

namespace Resource

def json : Resource → Json
  | .schedule s => .obj [("single_schedule", s.json)]
  | .host h => .obj [("host", h.json)]
  | .site s => .obj [("site", s.json)]
  | .region r => .obj [("region", r.json)]

def ofJson? : Json → Option Resource :=
  Json.variant? fun
    | "single_schedule", j => (Schedule.ofJson? j).map .schedule
    | "host", j => (Host.ofJson? j).map .host
    | "site", j => (Site.ofJson? j).map .site
    | "region", j => (Region.ofJson? j).map .region
    | _, _ => none

end Resource

namespace Kind

def json (k : Kind) : Json := .str k.tag

def ofJson? : Json → Option Kind := Json.choice? all tag

end Kind

namespace Page

/-- A page in JSON; the items stand under the name that is given. -/
def json {α : Type} (itemsName : String) (write : α → Json) (p : Page α) : Json :=
  .obj [(itemsName, .arr (p.items.map write)), ("has_next", .bool p.hasNext),
    ("total_elements", .ofNat p.total)]

/-- All three fields of a page must be there. -/
def ofJson? {α : Type} (itemsName : String) (read : Json → Option α) (j : Json) :
    Option (Page α) := do
  let fs ← Json.fields [itemsName, "has_next", "total_elements"] j
  return {
    items := ← (Table.look itemsName fs).bind (Json.list? read)
    hasNext := ← (Table.look "has_next" fs).bind Json.bool?
    total := ← (Table.look "total_elements" fs).bind (Json.nat? 64) }

end Page

end Upkeep
