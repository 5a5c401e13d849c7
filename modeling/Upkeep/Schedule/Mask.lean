import Upkeep.Failure
import Upkeep.Text.Quoted

/-! The fields of a schedule that a caller can change. Callers name a target by the field of
its ID, the inventory by the edge that holds it; all other names are the same for both. -/
namespace Upkeep

inductive Patchable where
  | name
  | region
  | site
  | host
  | start
  | finish
  | status
  deriving DecidableEq

namespace Patchable

/-- All of them, in the order in which a replacement changes them. -/
def all : List Patchable := [.name, .region, .site, .host, .start, .finish, .status]

/-- The name among callers. -/
def field : Patchable → String
  | .name => "name"
  | .region => "target_region_id"
  | .site => "target_site_id"
  | .host => "target_host_id"
  | .start => "start_seconds"
  | .finish => "end_seconds"
  | .status => "schedule_status"

/-- The name in the inventory. -/
def path : Patchable → String
  | .name => "name"
  | .region => "target_region"
  | .site => "target_site"
  | .host => "target_host"
  | .start => "start_seconds"
  | .finish => "end_seconds"
  | .status => "schedule_status"

def ofField? (field : String) : Option Patchable := all.find? (·.field = field)

end Patchable

namespace Mask

/-- Names every field that can change. -/
def full : List String := Patchable.all.map (·.path)

/-- Adds a path unless it is there. -/
def add (paths : List String) (path : String) : List String :=
  if path ∈ paths then paths else paths ++ [path]

/-- One more field of a caller's mask. Unknown ones are dropped unless that is not allowed. -/
def translateField (strict : Bool) (paths : List String) (field : String) : Answer (List String) :=
  match Patchable.ofField? field with
  | some p => .ok (add paths p.path)
  | none =>
    if strict then
      .error (.invalidArgument ("field mask path " ++ Text.quoted field ++
        " is not a patchable single schedule field"))
    else .ok paths

/-- The inventory's mask for a caller's. No mask and an empty one are the empty mask; a mask
that names fields, but none that can change, is refused and not taken for the empty one. -/
def translate (mask : Option (List String)) (strict : Bool) : Answer (List String) :=
  match mask with
  | none | some [] => .ok []
  | some fields => do
    let paths ← fields.foldlM (translateField strict) []
    if paths.isEmpty then
      throw (.invalidArgument "field mask does not name any patchable single schedule field")
    return paths

end Mask

end Upkeep
