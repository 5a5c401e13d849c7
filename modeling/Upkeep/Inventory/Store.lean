import Upkeep.Context
import Upkeep.Filter.Parser
import Upkeep.Inventory.Fields
import Upkeep.Inventory.Ids
import Upkeep.Inventory.Valid
import Upkeep.Schedule.Assign
import Upkeep.Table

/-! The inventory: for every tenant a table of resources under their IDs. Schedules are kept
with stubs for targets and are shown with the full resources in their places. A target must
exist when a schedule takes it, and cannot be deleted while a schedule has it. -/
namespace Upkeep

abbrev Partition := Table Resource

def notFound (id : String) : Failure :=
  .notFound (((Kind.ofId? id).map Kind.label).getD "resource" ++ " " ++ id ++ " not found")

namespace Partition

/-- The resource that a target refers to, as a target, if there is one of its kind. -/
def resolve (p : Partition) (t : Target) : Option Target :=
  ((p.find? t.id).bind Resource.target?).filter (·.kind = t.kind)

/-- The schedule with its target in full; a stub that leads nowhere stays. -/
def hydrate (p : Partition) (s : Schedule) : Schedule :=
  { s with target := s.target.map fun t => (p.resolve t).getD t }

def view (p : Partition) : Resource → Resource
  | .schedule s => .schedule (p.hydrate s)
  | r => r

/-- The first schedule, in order of IDs, whose target has the ID. -/
def targeting? (p : Partition) (id : String) : Option String :=
  p.values.findSome? fun
    | .schedule s => if s.target.any (·.id = id) then some s.id else none
    | _ => none

def requireTarget (p : Partition) : Option Target → Answer Unit
  | some t => if (p.resolve t).isSome then .ok () else .error (notFound t.id)
  | none => .ok ()

/-- A new ID of the kind. -/
def drawId (p : Partition) (ids : Ids) (k : Kind) : Answer String × Ids :=
  match ids.draw (fun w => p.contains (k.idOf w)) (p.size + 1) with
  | some (w, ids) => (.ok (k.idOf w), ids)
  | none => (.error (.internal ("no free " ++ k.label ++ " resource_id")), ids)

/-- The ID that a caller chose for a host, site or region. -/
def chosenId (p : Partition) (r : Resource) : Answer String := do
  r.kind.checkId r.id
  if p.contains r.id then
    throw (.invalidArgument (r.kind.label ++ " " ++ r.id ++ " already exists"))
  return r.id

/-- Schedules always get a new ID; other resources only where the caller chose none. -/
def newId (p : Partition) (ids : Ids) (r : Resource) : Answer String × Ids :=
  if r.kind = .schedule ∨ r.id = "" then p.drawId ids r.kind else (p.chosenId r, ids)

/-- The resource as it is filed under a new ID. -/
def prepare (p : Partition) (tenant now id : String) : Resource → Answer Resource
  | .schedule s => do
    let s := { s with target := s.target.map Target.stub }
    p.requireTarget s.target
    let s := { s with id, tenant, createdAt := now, updatedAt := now }
    s.check
    return .schedule s
  | r => .ok (r.filed id tenant now)

/-- The stored schedule after an update. -/
def revise (p : Partition) (now : String) (mask : List String) (current incoming : Schedule) :
    Answer Schedule := do
  let updated ← current.applyMask incoming mask
  if updated.target ≠ current.target then p.requireTarget updated.target
  updated.check
  return { updated with updatedAt := now }

end Partition

structure Query where
  kind : Kind := .schedule
  offset : Nat := 0
  /-- Zero stands for no limit. -/
  limit : Nat := 0
  orderBy : String := ""
  filter : String := ""

structure Page (α : Type) where
  items : List α := []
  hasNext : Bool := false
  total : Nat := 0
  deriving DecidableEq

namespace Page

/-- The items from `offset` on, `limit` of them at most. -/
def cut {α : Type} (offset limit : Nat) (all : List α) : Page α :=
  let limit := if limit = 0 then all.length else limit
  let items := (all.drop offset).take limit
  { items, hasNext := offset + items.length < all.length, total := all.length }

def mapM {α β : Type} (f : α → Answer β) (p : Page α) : Answer (Page β) := do
  let items ← p.items.mapM f
  return { items, hasNext := p.hasNext, total := p.total }

end Page

structure Inventory where
  tenants : Table Partition := {}

namespace Inventory

/-- A tenant of whom nothing is kept has an empty partition. -/
def partition (inv : Inventory) (tenant : String) : Partition :=
  (inv.tenants.find? tenant).getD {}

def size (inv : Inventory) (tenant : String) : Nat := (inv.partition tenant).size

def setPartition (inv : Inventory) (tenant : String) (p : Partition) : Inventory :=
  ⟨inv.tenants.insert tenant p⟩

def create (inv : Inventory) (ids : Ids) (now tenant : String) (r : Resource) :
    Answer Resource × Inventory × Ids :=
  let p := inv.partition tenant
  let (id, ids) := p.newId ids r
  match id.bind fun id => p.prepare tenant now id r with
  | .error e => (.error e, inv, ids)
  | .ok filed =>
    let p : Partition := p.insert filed.id filed
    (.ok (p.view filed), inv.setPartition tenant p, ids)

def get (inv : Inventory) (tenant id : String) : Answer Resource :=
  let p := inv.partition tenant
  match p.find? id with
  | some r => .ok (p.view r)
  | none => .error (notFound id)

def list (inv : Inventory) (tenant : String) (q : Query) : Answer (Page Resource) := do
  if q.orderBy ≠ "" ∧ q.orderBy ≠ "resource_id" then
    throw (.invalidArgument ("unsupported order_by " ++ Text.quoted q.orderBy))
  let expr ← (Filter.parse q.filter).mapError (·.failure)
  let p := inv.partition tenant
  let matched ← ((p.values.filter (·.kind = q.kind)).filterM fun r => expr.eval r.field).mapError
    (·.failure)
  let page := Page.cut q.offset q.limit matched
  return { page with items := page.items.map p.view }

def update (inv : Inventory) (now tenant id : String) (mask : List String) (r : Resource) :
    Answer Resource × Inventory :=
  let p := inv.partition tenant
  match p.find? id, r with
  | none, _ => (.error (notFound id), inv)
  | some (.schedule current), .schedule incoming =>
    match p.revise now mask current incoming with
    | .error e => (.error e, inv)
    | .ok s =>
      let p : Partition := p.insert id (.schedule s)
      (.ok (.schedule (p.hydrate s)), inv.setPartition tenant p)
  | some _, r =>
    (.error (.invalidArgument ("update of " ++ ((Kind.ofId? id).map Kind.label).getD "resource" ++
      " " ++ id ++ " with a " ++ r.kind.label ++ " is not supported")), inv)

def delete (inv : Inventory) (tenant id : String) : Answer Unit × Inventory :=
  let p := inv.partition tenant
  if p.contains id then
    match p.targeting? id with
    | some s => (.error (.failedPrecondition
        (id ++ " is still targeted by single schedule " ++ s)), inv)
    | none => (.ok (), inv.setPartition tenant (p.erase id))
  else (.error (notFound id), inv)

end Inventory

end Upkeep
