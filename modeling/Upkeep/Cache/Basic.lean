import Upkeep.Action
import Upkeep.Cache.Memory
import Upkeep.Cache.Shared

/-! The two caches behind one face. To read, a cache is consulted first; if it knows nothing
it gives a ticket, with which the value is handed in once it has been loaded. -/
namespace Upkeep

inductive Cache where
  | memory (limits : CacheLimits) (memory : Memory)
  | shared (settings : SharedSettings) (server : Server)

/-- The generation that was seen, or the key to file under, where there is one. -/
inductive Ticket where
  | generation (g : UInt64)
  | key (key : Option String)

namespace Cache

/-- The server's answer as the cache's. -/
def consulted {α : Type} (settings : SharedSettings) :
    Option α × Option String × Server → Consulted α Ticket × Cache
  | (some a, _, server) => (.hit a, .shared settings server)
  | (none, key, server) => (.miss (.key key), .shared settings server)

def consultSchedule (now : Nat) (tenant id : String) : Cache → Consulted Schedule Ticket × Cache
  | .memory limits m =>
    match m.schedule? limits now tenant id with
    | some s => (.hit s, .memory limits m)
    | none => (.miss (.generation (m.generation tenant)), .memory limits m)
  | .shared set server =>
    consulted set (Shared.consult set Schedule.ofJson? now tenant
      (fun g => Shared.scheduleKey set.stem tenant g id) server)

def takeSchedule (now : Nat) (tenant id : String) (s : Schedule) : Ticket → Cache → Cache
  | .generation g, .memory limits m => .memory limits (m.fileSchedule limits now tenant g id s)
  | .key (some key), .shared set server => .shared set (Shared.keep set now key s.json server)
  | _, cache => cache

def consultPage (now : Nat) (tenant : String) (key : PageKey) :
    Cache → Consulted (Page Schedule) Ticket × Cache
  | .memory limits m =>
    match m.page? limits now tenant key with
    | some p => (.hit p, .memory limits m)
    | none => (.miss (.generation (m.generation tenant)), .memory limits m)
  | .shared set server =>
    consulted set (Shared.consult set Shared.pageOfJson? now tenant
      (fun g => Shared.pageKey set.stem tenant g key.offset key.limit key.criteria) server)

def takePage (now : Nat) (tenant : String) (key : PageKey) (p : Page Schedule) :
    Ticket → Cache → Cache
  | .generation g, .memory limits m => .memory limits (m.filePage limits now tenant g key p)
  | .key (some k), .shared set server =>
    .shared set (Shared.keep set now k (Shared.pageJson p) server)
  | _, cache => cache

def invalidate (now : Nat) (tenant id : String) (c : Change) : Cache → Cache
  | .memory limits m => .memory limits (m.invalidate tenant id c)
  | .shared set server => .shared set (Shared.invalidate set now tenant id c server)

/-- Only a cache in memory can be cleared; entries on a server are left to expire. -/
def clear : Cache → Cache
  | .memory limits _ => .memory limits Memory.clear
  | cache => cache

end Cache

end Upkeep
