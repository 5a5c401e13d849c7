/-! The settings of a server, in sections, each with its default. -/
namespace Upkeep.Config

structure ServerSection where
  host : String := "0.0.0.0"
  port : Nat := 8080
  /-- How many seconds a request may take. -/
  timeout : Nat := 30
  deriving DecidableEq

structure GatewaySection where
  /-- The secret of the tokens of callers. Without it the tenant's header is trusted. -/
  jwtSecret : Option String := none
  tenantHeader : String := "ActiveProjectID"
  deriving DecidableEq

structure ApiSection where
  pageSize : Nat := 20
  maxPageSize : Nat := 100
  strictMask : Bool := false
  deriving DecidableEq

/-- Where cached schedules are kept. -/
inductive CacheKind where
  | memory
  | redis
  deriving DecidableEq

namespace CacheKind

def all : List CacheKind := [.memory, .redis]

def tag : CacheKind → String
  | .memory => "memory"
  | .redis => "redis"

end CacheKind

structure CacheSection where
  kind : CacheKind := .memory
  /-- How many seconds an entry is good for. -/
  ttl : Nat := 3600
  stem : String := "infra:sched"
  deriving DecidableEq

structure RedisSection where
  url : Option String := none
  deriving DecidableEq

structure InventorySection where
  /-- The file whose resources are in the inventory from the start. -/
  seedPath : Option String := none
  deriving DecidableEq

structure LoggingSection where
  level : String := "info"
  asJson : Bool := false
  deriving DecidableEq

end Upkeep.Config

namespace Upkeep

/-- All settings. -/
structure Config where
  server : Config.ServerSection := {}
  gateway : Config.GatewaySection := {}
  api : Config.ApiSection := {}
  cache : Config.CacheSection := {}
  redis : Config.RedisSection := {}
  inventory : Config.InventorySection := {}
  logging : Config.LoggingSection := {}
  deriving DecidableEq

end Upkeep
