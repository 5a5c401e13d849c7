import Upkeep.Resource
import Upkeep.Text.Quoted

/-! Partial updates of a stored schedule. A mask lists the fields to take from the incoming
schedule; an empty mask lists all that can change. The three edges hold one target between
them: naming an edge that the incoming schedule does not use clears it where it is in use. -/
namespace Upkeep

def mutableFields : List String :=
  ["name", "schedule_status", "start_seconds", "end_seconds",
    "target_host", "target_site", "target_region"]

namespace Schedule

def assignEdge (incoming current : Schedule) (edge : String) : Schedule :=
  match incoming.target with
  | some t => if t.edge = edge then { current with target := some t.stub } else clear
  | none => clear
where
  clear : Schedule :=
    if current.target.any (·.edge = edge) then { current with target := none } else current

def assign (incoming current : Schedule) (path : String) : Answer Schedule :=
  match path with
  | "name" => .ok { current with name := incoming.name }
  | "schedule_status" => .ok { current with status := incoming.status }
  | "start_seconds" => .ok { current with start := incoming.start }
  | "end_seconds" => .ok { current with finish := incoming.finish }
  | "target_host" => .ok (assignEdge incoming current "target_host")
  | "target_site" => .ok (assignEdge incoming current "target_site")
  | "target_region" => .ok (assignEdge incoming current "target_region")
  | other => .error (.invalidArgument ("field mask path " ++ Text.quoted other ++
      " is not an updatable single schedule field"))

/-- The current schedule with the masked fields of the incoming one. -/
def applyMask (current incoming : Schedule) (mask : List String) : Answer Schedule :=
  (if mask.isEmpty then mutableFields else mask).foldlM (assign incoming) current

end Schedule

end Upkeep
