import Upkeep.Calendar.Stamp
import Upkeep.Inventory.Valid
import Upkeep.Text.Decimal
import Upkeep.Wire.Basic

/-! Between the schedule that a caller sends or gets and the one the inventory keeps. On the
way in only status, name, target and window are taken; the rest is the inventory's own. -/
namespace Upkeep
open Upkeep.Calendar (Instant readStamp)

/-- The target that three IDs name; an empty text names none. -/
def Target.ofIds (hostId siteId regionId : String) : Answer (Option Target) :=
  if 1 < ([hostId, siteId, regionId].filter (· ≠ "")).length then
    .error (.invalidArgument
      "only site, host or region target must be provided for schedule resource")
  else if hostId ≠ "" then .ok (some (.host { id := hostId }))
  else if siteId ≠ "" then .ok (some (.site { id := siteId }))
  else if regionId ≠ "" then .ok (some (.region { id := regionId }))
  else .ok none

namespace Wire

/-- A stamp that cannot be read counts as the start of 1970. -/
def Times.ofStamps (createdAt updatedAt : String) : Times where
  createdAt := some ((readStamp createdAt).getD {})
  updatedAt := some ((readStamp updatedAt).getD {})

def Host.ofStored (h : Upkeep.Host) : Host where
  id := h.id
  name := h.name
  uuid := h.uuid
  siteId := h.siteId
  hostId := h.id
  times := some (.ofStamps h.createdAt h.updatedAt)

def Site.ofStored (s : Upkeep.Site) : Site where
  id := s.id
  name := s.name
  regionId := s.regionId
  address := s.address
  siteId := s.id
  times := some (.ofStamps s.createdAt s.updatedAt)

def Region.ofStored (r : Upkeep.Region) : Region where
  id := r.id
  name := r.name
  parentId := r.parentId
  regionId := r.id
  times := some (.ofStamps r.createdAt r.updatedAt)

namespace Status

/-- The status in the inventory that has the number. -/
def toStored (s : Status) : Answer Upkeep.Status :=
  match Upkeep.Status.ofNumber? s.number with
  | some stored => .ok stored
  | none => .error (.invalidArgument ("unsupported schedule_status " ++ Decimal.text s.number))

/-- The status among callers that has the number. -/
def ofStored (s : Upkeep.Status) : Answer Status :=
  match ofNumber? s.number with
  | some seen => .ok seen
  | none => .error (.internal ("store returned unknown schedule_status " ++ Decimal.text s.number))

end Status

namespace Schedule

/-- The schedule to be stored. -/
def toStored (s : Schedule) : Answer Upkeep.Schedule := do
  let target ← Target.ofIds s.hostId s.siteId s.regionId
  let window ← Window.ofWords s.start s.finish
  let status ← s.status.toStored
  let stored : Upkeep.Schedule :=
    { status, name := s.name, target, start := window.start, finish := window.finish }
  stored.check
  return stored

def withTarget (s : Schedule) : Option Target → Schedule
  | some (.host h) => { s with hostId := h.id, host := some (.ofStored h) }
  | some (.site t) => { s with siteId := t.id, site := some (.ofStored t) }
  | some (.region r) => { s with regionId := r.id, region := some (.ofStored r) }
  | none => s

/-- The stored schedule as callers see it. -/
def ofStored (s : Upkeep.Schedule) : Answer Schedule := do
  let (start, finish) ← s.window.toWords
  let status ← Status.ofStored s.status
  let seen : Schedule :=
    { id := s.id, scheduleId := s.id, status, name := s.name, start, finish,
      times := some (.ofStamps s.createdAt s.updatedAt) }
  return seen.withTarget s.target

end Schedule

end Wire

end Upkeep
