/-! Finite maps from texts, kept as lists in ascending order of the keys. -/
namespace Upkeep

structure Table (α : Type) where
  entries : List (String × α) := []

namespace Table
variable {α : Type}

def look (k : String) : List (String × α) → Option α
  | [] => none
  | (l, a) :: rest => if k = l then some a else look k rest

def find? (t : Table α) (k : String) : Option α := look k t.entries

def contains (t : Table α) (k : String) : Bool := (t.find? k).isSome

def keys (t : Table α) : List String := t.entries.map (·.1)

def values (t : Table α) : List α := t.entries.map (·.2)

def size (t : Table α) : Nat := t.entries.length

def place (k : String) (a : α) : List (String × α) → List (String × α)
  | [] => [(k, a)]
  | (l, b) :: rest =>
    if k = l then (k, a) :: rest
    else if k < l then (k, a) :: (l, b) :: rest
    else (l, b) :: place k a rest

/-- The table with `k` holding `a`, whatever it held before. -/
def insert (t : Table α) (k : String) (a : α) : Table α := ⟨place k a t.entries⟩

def erase (t : Table α) (k : String) : Table α := ⟨t.entries.filter (·.1 ≠ k)⟩

def filter (t : Table α) (p : String → α → Bool) : Table α :=
  ⟨t.entries.filter fun (k, a) => p k a⟩

/-- Every key stands before the keys after it, so no key stands twice. -/
def Ordered (t : Table α) : Prop := t.entries.Pairwise fun a b => a.1 < b.1

theorem look_place (k l : String) (a : α) (es : List (String × α)) :
    look l (place k a es) = if l = k then some a else look l es := by
  induction es with
  | nil => simp [place, look]
  | cons e es ih => grind [place, look]

theorem find?_insert (t : Table α) (k l : String) (a : α) :
    (t.insert k a).find? l = if l = k then some a else t.find? l :=
  look_place k l a t.entries

theorem find?_erase (t : Table α) (k l : String) :
    (t.erase k).find? l = if l = k then none else t.find? l := by
  simp only [find?, erase]
  induction t.entries with
  | nil => simp [look]
  | cons e es ih => grind [look]

end Table
end Upkeep
