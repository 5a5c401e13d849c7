import Upkeep.Filter.Token
import Upkeep.Inventory.Valid

/-! What a caller lists schedules by: the IDs of targets, of which a schedule needs to have
one, and a time that its window must cover. Criteria are rendered as a filter expression
for the inventory and as a key for the cache. -/
namespace Upkeep

structure Criteria where
  hostId : Option String := none
  siteId : Option String := none
  regionId : Option String := none
  epoch : Option UInt64 := none
  deriving DecidableEq

namespace Criteria

/-- An empty text is no criterion. -/
def given (s : Option String) : Option String := s.filter (· ≠ "")

def readEpoch (s : Option String) : Answer (Option UInt64) :=
  match given s with
  | none => .ok none
  | some raw =>
    match Decimal.readWord 64 (Text.trim raw) with
    | .ok n => .ok (some (UInt64.ofNat n))
    | .error why =>
      .error (.invalidArgument ("invalid unix_epoch " ++ Text.quoted raw ++ ": " ++ why.message))

def readId (k : Kind) (s : Option String) : Answer (Option String) := do
  if let some id := given s then k.checkId id
  return given s

def read (hostId siteId regionId epoch : Option String) : Answer Criteria := do
  let epoch ← readEpoch epoch
  let hostId ← readId .host hostId
  let siteId ← readId .site siteId
  let regionId ← readId .region regionId
  return { hostId, siteId, regionId, epoch }

def isEmpty (c : Criteria) : Bool := c = {}

def targetClause (edge : String) (id : Option String) : List String :=
  (id.map fun id => edge ++ ".resource_id = " ++ Filter.quote id).toList

def targetClauses (c : Criteria) : List String :=
  targetClause "target_host" c.hostId ++ targetClause "target_site" c.siteId ++
    targetClause "target_region" c.regionId

def epochClause (epoch : UInt64) : String :=
  let e := Decimal.text epoch.toNat
  "start_seconds <= " ++ e ++ " AND (end_seconds = 0 OR end_seconds > " ++ e ++ ")"

/-- Alternatives, in parentheses where there is more than one. -/
def anyOf : List String → List String
  | [] => []
  | [clause] => [clause]
  | clauses => ["(" ++ " OR ".intercalate clauses ++ ")"]

/-- The criteria as a filter expression; no criteria are the empty one. -/
def expression (c : Criteria) : String :=
  " AND ".intercalate (anyOf c.targetClauses ++ (c.epoch.map epochClause).toList)

/-- The text that stands for the criteria in the keys of a cache. -/
def key (c : Criteria) : String :=
  "h=" ++ c.hostId.getD "" ++ ";s=" ++ c.siteId.getD "" ++ ";r=" ++ c.regionId.getD "" ++
    ";e=" ++ ((c.epoch.map fun e => Decimal.text e.toNat).getD "")

end Criteria

end Upkeep
