import Upkeep.Config.Basic
import Upkeep.Json.Record

/-! The form of settings in JSON and other trees. All are written; those left out have their
defaults. A section whose first setting has no default but null cannot be an empty array. -/
namespace Upkeep.Config
open Reader (fieldOr)

def textOrNull (s : Option String) : Json := Json.ofOption Json.str s

variable {τ : Type}

namespace ServerSection

def json (s : ServerSection) : Json :=
  .obj [("host", .str s.host), ("port", .ofNat s.port), ("timeout_secs", .ofNat s.timeout)]

def read (R : Reader τ) (t : τ) : Option ServerSection := do
  let fs ← R.fields 0 ["host", "port", "timeout_secs"] t
  return {
    host := ← fieldOr R.text "0.0.0.0" fs "host"
    port := ← fieldOr (R.nat 16) 8080 fs "port"
    timeout := ← fieldOr (R.nat 64) 30 fs "timeout_secs" }

end ServerSection

namespace GatewaySection

def json (s : GatewaySection) : Json :=
  .obj [("jwt_secret", textOrNull s.jwtSecret), ("tenant_header", .str s.tenantHeader)]

def read (R : Reader τ) (t : τ) : Option GatewaySection := do
  let fs ← R.fields 1 ["jwt_secret", "tenant_header"] t
  return {
    jwtSecret := ← fieldOr (R.optional R.text) none fs "jwt_secret"
    tenantHeader := ← fieldOr R.text "ActiveProjectID" fs "tenant_header" }

end GatewaySection

namespace ApiSection

def json (s : ApiSection) : Json :=
  .obj [("default_page_size", .ofNat s.pageSize), ("max_page_size", .ofNat s.maxPageSize),
    ("strict_field_mask", .bool s.strictMask)]

def read (R : Reader τ) (t : τ) : Option ApiSection := do
  let fs ← R.fields 0 ["default_page_size", "max_page_size", "strict_field_mask"] t
  return {
    pageSize := ← fieldOr (R.nat 32) 20 fs "default_page_size"
    maxPageSize := ← fieldOr (R.nat 32) 100 fs "max_page_size"
    strictMask := ← fieldOr R.bool false fs "strict_field_mask" }

end ApiSection

namespace CacheSection

def json (s : CacheSection) : Json :=
  .obj [("backend", .str s.kind.tag), ("ttl_secs", .ofNat s.ttl), ("key_prefix", .str s.stem)]

def read (R : Reader τ) (t : τ) : Option CacheSection := do
  let fs ← R.fields 0 ["backend", "ttl_secs", "key_prefix"] t
  return {
    kind := ← fieldOr (R.choice CacheKind.all CacheKind.tag) .memory fs "backend"
    ttl := ← fieldOr (R.nat 64) 3600 fs "ttl_secs"
    stem := ← fieldOr R.text "infra:sched" fs "key_prefix" }

end CacheSection

namespace RedisSection

def json (s : RedisSection) : Json := .obj [("url", textOrNull s.url)]

def read (R : Reader τ) (t : τ) : Option RedisSection := do
  let fs ← R.fields 1 ["url"] t
  return { url := ← fieldOr (R.optional R.text) none fs "url" }

end RedisSection

namespace InventorySection

def json (s : InventorySection) : Json := .obj [("seed_path", textOrNull s.seedPath)]

def read (R : Reader τ) (t : τ) : Option InventorySection := do
  let fs ← R.fields 1 ["seed_path"] t
  return { seedPath := ← fieldOr (R.optional R.text) none fs "seed_path" }

end InventorySection

namespace LoggingSection

def json (s : LoggingSection) : Json := .obj [("level", .str s.level), ("json", .bool s.asJson)]

def read (R : Reader τ) (t : τ) : Option LoggingSection := do
  let fs ← R.fields 0 ["level", "json"] t
  return { level := ← fieldOr R.text "info" fs "level", asJson := ← fieldOr R.bool false fs "json" }

end LoggingSection

def sectionNames : List String :=
  ["server", "gateway", "api", "cache", "redis", "inventory", "logging"]

def json (c : Config) : Json :=
  .obj [("server", c.server.json), ("gateway", c.gateway.json), ("api", c.api.json),
    ("cache", c.cache.json), ("redis", c.redis.json), ("inventory", c.inventory.json),
    ("logging", c.logging.json)]

def read (R : Reader τ) (t : τ) : Option Config := do
  let fs ← R.fields 0 sectionNames t
  return {
    server := ← fieldOr (ServerSection.read R) {} fs "server"
    gateway := ← fieldOr (GatewaySection.read R) {} fs "gateway"
    api := ← fieldOr (ApiSection.read R) {} fs "api"
    cache := ← fieldOr (CacheSection.read R) {} fs "cache"
    redis := ← fieldOr (RedisSection.read R) {} fs "redis"
    inventory := ← fieldOr (InventorySection.read R) {} fs "inventory"
    logging := ← fieldOr (LoggingSection.read R) {} fs "logging" }

def ofJson? : Json → Option Config := read Json.reader

end Upkeep.Config
