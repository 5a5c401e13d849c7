import Upkeep.Config.Basic
import Upkeep.Config.Fault
import Upkeep.Deployment
import Upkeep.Document.Format
import Upkeep.Inventory.Seed

/-! Starting up: first the inventory with its seed, then the cache. -/
namespace Upkeep

inductive StartupFault where
  | seedUnreadable
  | seeding (cause : Failure)
  | settings (fault : ConfigFault)

/-- What is found outside: files under their paths, and key-value servers under their
addresses. -/
structure Surroundings where
  file? : String → Option Document.File
  server : String → Except String Server

namespace Surroundings

def seed (s : Surroundings) : Option String → Except StartupFault Seed
  | none => .ok {}
  | some path =>
    match ((s.file? path).bind Document.ofFile?).bind Seed.ofDocument? with
    | some seed => .ok seed
    | none => .error .seedUnreadable

def inventory (s : Surroundings) (c : Config) (now : String) (ids : Ids) :
    Except StartupFault (Inventory × Ids) := do
  let seed ← s.seed c.inventory.seedPath
  let (_, planted) ← (Inventory.plant now seed.tenants.entries ({}, ids)).mapError .seeding
  return planted

/-- How many schedules and pages a cache in memory holds, each. -/
def memoryCapacity : Nat := 1024

def cache (s : Surroundings) (c : Config) : Except ConfigFault Cache :=
  match c.cache.kind with
  | .memory => .ok (.memory { ttl := c.cache.ttl * 1000, capacity := memoryCapacity } {})
  | .redis =>
    match c.redis.url with
    | none => .error (.missing "redis.url" "the Redis schedule cache (cache.backend = redis)"
        "REDIS_URL or INFRA__REDIS__URL")
    | some url =>
      match s.server url with
      | .ok server => .ok (.shared { stem := c.cache.stem, ttl := c.cache.ttl } server)
      | .error e => .error (.connectionFailed "Redis" url e
          "Ensure Redis is running and reachable, or set INFRA__CACHE__BACKEND=memory")

end Surroundings

def Deployment.start (s : Surroundings) (c : Config) (ids : Ids) (now : Nat) :
    Except StartupFault Deployment := do
  let (inventory, ids) ← s.inventory c (Calendar.stamp (.ofMillis now)) ids
  let cache ← (s.cache c).mapError .settings
  return { inventory, ids, now, cache }

end Upkeep
