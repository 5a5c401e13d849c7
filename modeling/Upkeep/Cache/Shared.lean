import Upkeep.Cache.Change
import Upkeep.Cache.Criteria
import Upkeep.Cache.Server
import Upkeep.Inventory.Record
import Upkeep.Json.Reader
import Upkeep.Json.Writer

/-! A cache on a key-value server that several services share. Every tenant has a generation
on the server, and the keys of its entries contain it: raising the generation leaves all
entries behind, and they expire in time. No trouble with the server is ever told to a caller. -/
namespace Upkeep

structure SharedSettings where
  /-- What the keys begin with. -/
  stem : String
  /-- How many seconds an entry is good for. -/
  ttl : Nat

namespace Shared

def generationKey (stem tenant : String) : String := stem ++ ":" ++ tenant ++ ":gen"

def scheduleKey (stem tenant : String) (generation : UInt64) (id : String) : String :=
  generationKey stem tenant ++ ":" ++ Decimal.text generation.toNat ++ ":id:" ++ id

def pageKey (stem tenant : String) (generation : UInt64) (offset limit : Nat) (c : Criteria) :
    String :=
  generationKey stem tenant ++ ":" ++ Decimal.text generation.toNat ++ ":list:" ++
    Decimal.text offset ++ ":" ++ Decimal.text limit ++ ":" ++ c.key

def pageJson : Page Schedule → Json := Page.json "schedules" Schedule.json

def pageOfJson? : Json → Option (Page Schedule) := Page.ofJson? "schedules" Schedule.ofJson?

/-- The tenant's generation, zero before the first change; nothing if the server cannot tell. -/
def generation (set : SharedSettings) (now : Nat) (tenant : String) (s : Server) :
    Option UInt64 × Server :=
  match s.get now (generationKey set.stem tenant) with
  | (.ok none, s) => (some 0, s)
  | (.ok (some text), s) => ((Decimal.readWord 64 text).toOption.map UInt64.ofNat, s)
  | (.error _, s) => (none, s)

/-- The entry of a key; nothing if it is not there or cannot be read. -/
def entry {α : Type} (read : Json → Option α) (now : Nat) (key : String) (s : Server) :
    Option α × Server :=
  match s.get now key with
  | (.ok text, s) => ((text.bind Json.read).bind read, s)
  | (.error _, s) => (none, s)

/-- Keeps an entry, if the server lets us. -/
def keep (set : SharedSettings) (now : Nat) (key : String) (value : Json) (s : Server) : Server :=
  (s.setFor now key set.ttl value.write).2

/-- Looks for an entry whose key depends on the generation. -/
def consult {α : Type} (set : SharedSettings) (read : Json → Option α) (now : Nat)
    (tenant : String) (keyOf : UInt64 → String) (s : Server) : Option α × Option String × Server :=
  match generation set now tenant s with
  | (none, s) => (none, none, s)
  | (some g, s) =>
    let (found, s) := entry read now (keyOf g) s
    (found, some (keyOf g), s)

/-- Raises the tenant's generation. The entry of the schedule before the change, if there can
be one, cannot be reached any more and is dropped at once. -/
def invalidate (set : SharedSettings) (now : Nat) (tenant id : String) (c : Change) (s : Server) :
    Server :=
  match s.increment now (generationKey set.stem tenant) with
  | (.error _, s) => s
  | (.ok n, s) =>
    if c.dropsEntry then
      let before : UInt64 := UInt64.ofNat ((n % twoTo 64).toNat - 1)
      (s.delete (scheduleKey set.stem tenant before id)).2
    else s

end Shared

end Upkeep
