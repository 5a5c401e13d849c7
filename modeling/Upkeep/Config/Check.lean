import Upkeep.Config.Basic
import Upkeep.Config.Fault

/-! What settings must satisfy. Every section tells its faults, and all are told together. -/
namespace Upkeep.Config

def checkCache (c : Config) : Option ConfigFault :=
  if c.cache.kind = .redis ∧ c.redis.url.getD "" = "" then
    some (.missing "redis.url" "the Redis schedule cache (cache.backend = redis)"
      "REDIS_URL or INFRA__REDIS__URL")
  else if c.cache.stem = "" then
    some (.invalid "cache.key_prefix is empty" "Set INFRA__CACHE__KEY_PREFIX, e.g. infra:sched")
  else none

def checkPages (c : Config) : Option ConfigFault :=
  ConfigFault.collect
    ((if c.api.pageSize = 0 then
      [.invalid "api.default_page_size is 0" "Set INFRA__API__DEFAULT_PAGE_SIZE to at least 1"]
    else []) ++
    (if c.api.maxPageSize < c.api.pageSize then
      [.incompatible ("api.default_page_size=" ++ Decimal.text c.api.pageSize)
        ("api.max_page_size=" ++ Decimal.text c.api.maxPageSize)
        "The default page size must not exceed the maximum page size."]
    else []))

def checkServer (c : Config) : Option ConfigFault :=
  if c.server.port = 0 then
    some (.invalid "server.port is 0" "Set INFRA__SERVER__PORT or pass --port")
  else none

def check (c : Config) : Option ConfigFault :=
  ConfigFault.collect
    ([c.checkCache, c.checkPages, c.checkServer].flatMap fun f => (f.map ConfigFault.parts).getD [])

end Upkeep.Config
