import Upkeep.Cache.Change
import Upkeep.Cache.Criteria
import Upkeep.Inventory.Store

/-! A cache in memory. Every tenant has a drawer with two shelves, one of single schedules
and one of pages. A change in a tenant raises the drawer's generation, and what was loaded
under an older generation is not filed any more. -/
namespace Upkeep

structure Entry (α : Type) where
  value : α
  /-- The millisecond at which it was filed. -/
  filedAt : Nat
  deriving DecidableEq

structure CacheLimits where
  /-- How many milliseconds an entry is good for. -/
  ttl : Nat
  /-- How many entries a shelf holds. -/
  capacity : Nat

/-- Limits for a number of entries that is asked for. There is room for one in any case. -/
def CacheLimits.clamped (ttl entries : Nat) : CacheLimits := ⟨ttl, max 1 entries⟩

def Entry.expired {α : Type} (limits : CacheLimits) (now : Nat) (e : Entry α) : Bool :=
  limits.ttl < now - e.filedAt

structure Shelf (κ α : Type) where
  entries : List (κ × Entry α) := []

namespace Shelf
variable {κ α : Type} [DecidableEq κ]

def find? (shelf : Shelf κ α) (k : κ) : Option (Entry α) :=
  (shelf.entries.find? (·.1 = k)).map (·.2)

/-- The value of an entry that is still good. -/
def fresh? (shelf : Shelf κ α) (limits : CacheLimits) (now : Nat) (k : κ) : Option α :=
  ((shelf.find? k).filter fun e => !e.expired limits now).map (·.value)

def erase (shelf : Shelf κ α) (k : κ) : Shelf κ α := ⟨shelf.entries.filter (·.1 ≠ k)⟩

/-- The key that was filed first, the last of several in the list if they are of one time. -/
def oldest : List (κ × Entry α) → Option (κ × Nat)
  | [] => none
  | (k, e) :: rest =>
    match oldest rest with
    | none => some (k, e.filedAt)
    | some (l, t) => if e.filedAt < t then some (k, e.filedAt) else some (l, t)

/-- Without the entry that was filed first. -/
def evict (shelf : Shelf κ α) : Shelf κ α :=
  match oldest shelf.entries with
  | none => shelf
  | some (k, _) => shelf.erase k

/-- Files a value. Expired entries are thrown out first, and then, if the shelf is full and
the key is not on it, the oldest entry. -/
def file (shelf : Shelf κ α) (limits : CacheLimits) (now : Nat) (k : κ) (a : α) : Shelf κ α :=
  let live : Shelf κ α := ⟨shelf.entries.filter fun (_, e) => !e.expired limits now⟩
  let kept :=
    if limits.capacity ≤ live.entries.length ∧ live.find? k = none then live.evict else live
  ⟨(k, ⟨a, now⟩) :: (kept.erase k).entries⟩

end Shelf

structure PageKey where
  offset : Nat
  limit : Nat
  criteria : Criteria
  deriving DecidableEq

structure Drawer where
  generation : UInt64 := 0
  schedules : Shelf String Schedule := {}
  pages : Shelf PageKey (Page Schedule) := {}

structure CacheStats where
  schedules : Nat := 0
  pages : Nat := 0
  deriving DecidableEq

structure Memory where
  drawers : Table Drawer := {}

namespace Memory

def drawer (m : Memory) (tenant : String) : Drawer := (m.drawers.find? tenant).getD {}

def setDrawer (m : Memory) (tenant : String) (d : Drawer) : Memory := ⟨m.drawers.insert tenant d⟩

def generation (m : Memory) (tenant : String) : UInt64 := (m.drawer tenant).generation

def schedule? (m : Memory) (limits : CacheLimits) (now : Nat) (tenant id : String) :
    Option Schedule :=
  (m.drawer tenant).schedules.fresh? limits now id

def page? (m : Memory) (limits : CacheLimits) (now : Nat) (tenant : String) (key : PageKey) :
    Option (Page Schedule) :=
  (m.drawer tenant).pages.fresh? limits now key

/-- Files a schedule that was loaded when the tenant had the generation. -/
def fileSchedule (m : Memory) (limits : CacheLimits) (now : Nat) (tenant : String)
    (generation : UInt64) (id : String) (s : Schedule) : Memory :=
  let d := m.drawer tenant
  if d.generation = generation then
    m.setDrawer tenant { d with schedules := d.schedules.file limits now id s }
  else m

/-- Files a page that was loaded when the tenant had the generation. -/
def filePage (m : Memory) (limits : CacheLimits) (now : Nat) (tenant : String)
    (generation : UInt64) (key : PageKey) (p : Page Schedule) : Memory :=
  let d := m.drawer tenant
  if d.generation = generation then
    m.setDrawer tenant { d with pages := d.pages.file limits now key p }
  else m

/-- Any change can move schedules from page to page, so all pages go. -/
def invalidate (m : Memory) (tenant id : String) (c : Change) : Memory :=
  let d := m.drawer tenant
  m.setDrawer tenant
    { generation := d.generation + 1,
      schedules := if c.dropsEntry then d.schedules.erase id else d.schedules }

def clear : Memory := {}

def stats (m : Memory) (tenant : String) : CacheStats where
  schedules := (m.drawer tenant).schedules.entries.length
  pages := (m.drawer tenant).pages.entries.length

end Memory

end Upkeep
