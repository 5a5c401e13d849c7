import Upkeep.Failure
import Upkeep.Text.Blank

/-! What an inventory holds: single schedules, and the hosts, sites and regions they may
target. Each kind of resource has its own prefix of IDs. -/
namespace Upkeep

inductive Kind where
  | schedule
  | host
  | site
  | region
  deriving DecidableEq

namespace Kind

def all : List Kind := [.schedule, .host, .site, .region]

def tag : Kind → String
  | .schedule => "SingleSchedule"
  | .host => "Host"
  | .site => "Site"
  | .region => "Region"

/-- The first part of every ID of the kind, before the hyphen. -/
def idStem : Kind → String
  | .schedule => "singlesche"
  | .host => "host"
  | .site => "site"
  | .region => "region"

def label : Kind → String
  | .schedule => "single schedule"
  | .host => "host"
  | .site => "site"
  | .region => "region"

/-- The kind that the text before the first hyphen of an ID names. -/
def ofId? (id : String) : Option Kind :=
  (Text.splitOnce '-' id.toList).bind fun (stem, _) =>
    all.find? fun k => k.idStem.toList == stem

end Kind

inductive Status where
  | unspecified
  | maintenance
  | osUpdate
  deriving DecidableEq

namespace Status

def all : List Status := [.unspecified, .maintenance, .osUpdate]

/-- The number by which a status is known to callers as well. -/
def number : Status → Nat
  | .unspecified => 0
  | .maintenance => 1
  | .osUpdate => 3

def ofNumber? : Int → Option Status
  | 0 => some .unspecified
  | 1 => some .maintenance
  | 3 => some .osUpdate
  | _ => none

/-- The name of a status in the inventory. -/
def tag : Status → String
  | .unspecified => "UNSPECIFIED"
  | .maintenance => "MAINTENANCE"
  | .osUpdate => "OS_UPDATE"

end Status

structure Host where
  id : String := ""
  name : String := ""
  uuid : String := ""
  siteId : String := ""
  tenant : String := ""
  createdAt : String := ""
  updatedAt : String := ""
  deriving DecidableEq

structure Site where
  id : String := ""
  name : String := ""
  regionId : String := ""
  address : String := ""
  tenant : String := ""
  createdAt : String := ""
  updatedAt : String := ""
  deriving DecidableEq

structure Region where
  id : String := ""
  name : String := ""
  parentId : String := ""
  tenant : String := ""
  createdAt : String := ""
  updatedAt : String := ""
  deriving DecidableEq

/-- What a schedule applies to. A stub holds the ID of its resource and nothing else. -/
inductive Target where
  | host (host : Host)
  | site (site : Site)
  | region (region : Region)
  deriving DecidableEq

namespace Target

def id : Target → String
  | .host h => h.id
  | .site s => s.id
  | .region r => r.id

def kind : Target → Kind
  | .host _ => .host
  | .site _ => .site
  | .region _ => .region

def stub : Target → Target
  | .host h => .host { id := h.id }
  | .site s => .site { id := s.id }
  | .region r => .region { id := r.id }

/-- The name of the field of a schedule that holds such a target. -/
def edge : Target → String
  | .host _ => "target_host"
  | .site _ => "target_site"
  | .region _ => "target_region"

end Target

structure Schedule where
  id : String := ""
  status : Status := .unspecified
  name : String := ""
  target : Option Target := none
  start : UInt64 := 0
  finish : UInt64 := 0
  tenant : String := ""
  createdAt : String := ""
  updatedAt : String := ""
  deriving DecidableEq

inductive Resource where
  | schedule (schedule : Schedule)
  | host (host : Host)
  | site (site : Site)
  | region (region : Region)
  deriving DecidableEq

namespace Resource

def kind : Resource → Kind
  | .schedule _ => .schedule
  | .host _ => .host
  | .site _ => .site
  | .region _ => .region

def id : Resource → String
  | .schedule s => s.id
  | .host h => h.id
  | .site s => s.id
  | .region r => r.id

def tenant : Resource → String
  | .schedule s => s.tenant
  | .host h => h.tenant
  | .site s => s.tenant
  | .region r => r.tenant

/-- The resource as filed: under an ID, for a tenant, created and last changed at one time. -/
def filed (id tenant at_ : String) : Resource → Resource
  | .schedule s => .schedule { s with id, tenant, createdAt := at_, updatedAt := at_ }
  | .host h => .host { h with id, tenant, createdAt := at_, updatedAt := at_ }
  | .site s => .site { s with id, tenant, createdAt := at_, updatedAt := at_ }
  | .region r => .region { r with id, tenant, createdAt := at_, updatedAt := at_ }

/-- Anything but a schedule breaks the contract of the store that answered with it. -/
def expectSchedule : Resource → Answer Schedule
  | .schedule s => .ok s
  | r => .error (.internal ("expected single schedule, store returned " ++ r.kind.label))

end Resource

/-- The resource a target stands for. -/
def Target.resource : Target → Resource
  | .host h => .host h
  | .site s => .site s
  | .region r => .region r

/-- The target that a resource can be; a schedule can be none. -/
def Resource.target? : Resource → Option Target
  | .schedule _ => none
  | .host h => some (.host h)
  | .site s => some (.site s)
  | .region r => some (.region r)

end Upkeep
