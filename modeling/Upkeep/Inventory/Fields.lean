import Upkeep.Filter.Expr
import Upkeep.Resource

/-! The fields of a resource that a filter can name. A target is named by its edge, alone
or with `.resource_id` after it; an edge that holds no target is unset. -/
namespace Upkeep
open Upkeep.Filter (Field)

def edges : List String := ["target_host", "target_site", "target_region"]

namespace Field

def ofText (s : String) : Field := .value (.text s)

def ofNumber (n : UInt64) : Field := .value (.number n)

end Field

/-- The target of an edge, if the edge is the one in use. -/
def Schedule.edgeField (s : Schedule) (edge : String) : Field :=
  match s.target with
  | some t => if t.edge = edge then Field.ofText t.id else .unset
  | none => .unset

/-- The edge that a path means. -/
def edgeOfPath (path : String) : Option String :=
  let (edge, field) := match Text.splitOnce '.' path.toList with
    | some (l, r) => (String.ofList l, String.ofList r)
    | none => (path, "resource_id")
  if field = "resource_id" ∧ edge ∈ edges then some edge else none

def Schedule.field (s : Schedule) (path : String) : Field :=
  match path with
  | "resource_id" => Field.ofText s.id
  | "name" => Field.ofText s.name
  | "tenant_id" => Field.ofText s.tenant
  | "schedule_status" => Field.ofNumber (UInt64.ofNat s.status.number)
  | "start_seconds" => Field.ofNumber s.start
  | "end_seconds" => Field.ofNumber s.finish
  | "created_at" => Field.ofText s.createdAt
  | "updated_at" => Field.ofText s.updatedAt
  | _ =>
    match edgeOfPath path with
    | some edge => s.edgeField edge
    | none => .unknown

def Host.field (h : Host) : String → Field
  | "resource_id" => Field.ofText h.id
  | "name" => Field.ofText h.name
  | "uuid" => Field.ofText h.uuid
  | "site_id" => Field.ofText h.siteId
  | "tenant_id" => Field.ofText h.tenant
  | _ => .unknown

def Site.field (s : Site) : String → Field
  | "resource_id" => Field.ofText s.id
  | "name" => Field.ofText s.name
  | "region_id" => Field.ofText s.regionId
  | "address" => Field.ofText s.address
  | "tenant_id" => Field.ofText s.tenant
  | _ => .unknown

def Region.field (r : Region) : String → Field
  | "resource_id" => Field.ofText r.id
  | "name" => Field.ofText r.name
  | "parent_id" => Field.ofText r.parentId
  | "tenant_id" => Field.ofText r.tenant
  | _ => .unknown

def Resource.field : Resource → String → Field
  | .schedule s => s.field
  | .host h => h.field
  | .site s => s.field
  | .region r => r.field

end Upkeep
