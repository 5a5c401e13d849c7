import Upkeep.Calendar.Civil
import Upkeep.Resource

/-! Resources as callers see them. Times are instants instead of stamps, the bounds of a
schedule have 32 bits, statuses have names of their own, and every ID is given twice, once under the
resource's own name. A schedule names its target by an ID, and shows it in full when it is sent back. -/
namespace Upkeep.Wire
open Upkeep.Calendar (Instant)

structure Times where
  createdAt : Option Instant := none
  updatedAt : Option Instant := none
  deriving DecidableEq

structure Host where
  id : String := ""
  name : String := ""
  uuid : String := ""
  siteId : String := ""
  /-- The ID again. -/
  hostId : String := ""
  times : Option Times := none
  deriving DecidableEq

structure Site where
  id : String := ""
  name : String := ""
  regionId : String := ""
  address : String := ""
  /-- The ID again. -/
  siteId : String := ""
  times : Option Times := none
  deriving DecidableEq

structure Region where
  id : String := ""
  name : String := ""
  parentId : String := ""
  /-- The ID again. -/
  regionId : String := ""
  times : Option Times := none
  deriving DecidableEq

inductive Status where
  | unspecified
  | maintenance
  | osUpdate
  deriving DecidableEq

namespace Status

def all : List Status := [.unspecified, .maintenance, .osUpdate]

/-- The number by which a status is known in the inventory as well. -/
def number : Status → Nat
  | .unspecified => 0
  | .maintenance => 1
  | .osUpdate => 3

def ofNumber? : Int → Option Status
  | 0 => some .unspecified
  | 1 => some .maintenance
  | 3 => some .osUpdate
  | _ => none

/-- The name of a status among callers. -/
def tag : Status → String
  | .unspecified => "SCHEDULE_STATUS_UNSPECIFIED"
  | .maintenance => "SCHEDULE_STATUS_MAINTENANCE"
  | .osUpdate => "SCHEDULE_STATUS_OS_UPDATE"

end Status

structure Schedule where
  id : String := ""
  status : Status := .unspecified
  name : String := ""
  site : Option Site := none
  host : Option Host := none
  region : Option Region := none
  start : UInt32 := 0
  finish : UInt32 := 0
  /-- The ID again. -/
  scheduleId : String := ""
  hostId : String := ""
  siteId : String := ""
  regionId : String := ""
  times : Option Times := none
  deriving DecidableEq

end Upkeep.Wire
