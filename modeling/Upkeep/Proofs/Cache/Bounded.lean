import Mathlib.Data.List.Nodup
import Upkeep.Proofs.Cache.Traffic

/-! How much a cache in memory holds. No shelf ever has more entries than it has room for, and each has at most
one for a key. To file an item throws out the expired entries and, only where that leaves no room, the one entry
that was filed first; it touches no other entry, no other shelf and no other tenant. -/
namespace Upkeep

namespace Shelf
variable {κ α : Type} {shelf : Shelf κ α} {limits : CacheLimits} {now : Nat} {k l : κ} {e : Entry α}

section Oldest
variable {es : List (κ × Entry α)}

theorem oldest_none (none : oldest es = none) : es = [] := by
  cases es with
  | nil => rfl
  | cons x es =>
      unfold oldest at none
      split at none
      · cases none
      · split at none <;> cases none

theorem oldest_some {t : Nat} (some : oldest es = some (k, t)) :
    (∃ e, (k, e) ∈ es ∧ e.filedAt = t) ∧ ∀ x ∈ es, t ≤ x.2.filedAt := by
  induction es generalizing k t with
  | nil => cases some
  | cons x es ih =>
      unfold oldest at some
      rw [List.forall_mem_cons]
      cases rest : oldest es with
      | none =>
          rw [rest] at some
          cases some
          rw [oldest_none rest]
          exact ⟨⟨x.2, List.mem_cons_self, rfl⟩, Nat.le_refl _, nofun⟩
      | some y =>
          obtain ⟨m, u⟩ := y
          obtain ⟨⟨e, member, at_⟩, first⟩ := ih rest
          rw [rest] at some
          dsimp only at some
          split at some
          · next earlier =>
            cases some
            exact ⟨⟨x.2, List.mem_cons_self, rfl⟩, Nat.le_refl _,
              fun y other => Nat.le_trans (Nat.le_of_lt earlier) (first y other)⟩
          · next later =>
            cases some
            exact ⟨⟨e, List.mem_cons_of_mem x member, at_⟩, Nat.le_of_not_lt later, first⟩

end Oldest

/-- The entries that are still good. -/
def live (shelf : Shelf κ α) (limits : CacheLimits) (now : Nat) : Shelf κ α :=
  ⟨shelf.entries.filter fun (_, e) => !e.expired limits now⟩

theorem mem_live :
    (l, e) ∈ (shelf.live limits now).entries ↔ (l, e) ∈ shelf.entries ∧ e.expired limits now = false := by
  simp [live]

/-- A shelf with one entry for a key at most, and no more entries than it has room for. -/
structure Tidy (capacity : Nat) (shelf : Shelf κ α) : Prop where
  distinct : (shelf.entries.map (·.1)).Nodup
  bounded : shelf.entries.length ≤ capacity

theorem tidy_empty (capacity : Nat) : Tidy capacity ({} : Shelf κ α) := ⟨.nil, Nat.zero_le _⟩

theorem Tidy.sublist {capacity : Nat} {kept : Shelf κ α} (tidy : shelf.Tidy capacity)
    (part : kept.entries.Sublist shelf.entries) : kept.Tidy capacity where
  distinct := tidy.distinct.sublist (part.map _)
  bounded := Nat.le_trans part.length_le tidy.bounded

theorem Tidy.live {capacity : Nat} (tidy : shelf.Tidy capacity) : (shelf.live limits now).Tidy capacity :=
  tidy.sublist List.filter_sublist

variable [DecidableEq κ] {capacity : Nat} {a : α}

theorem Tidy.find?_iff (tidy : shelf.Tidy capacity) : shelf.find? k = some e ↔ (k, e) ∈ shelf.entries := by
  refine ⟨mem_of_find?, fun member => ?_⟩
  cases found : shelf.find? k with
  | none =>
      have absent := List.find?_eq_none.1 (Option.map_eq_none_iff.1 found) (k, e) member
      simp at absent
  | some f =>
      cases List.inj_on_of_nodup_map tidy.distinct member (mem_of_find? found) rfl
      rfl

theorem Tidy.erase (tidy : shelf.Tidy capacity) (k : κ) : (shelf.erase k).Tidy capacity :=
  tidy.sublist List.filter_sublist

theorem Tidy.find?_erase (tidy : shelf.Tidy capacity) (apart : l ≠ k) : (shelf.erase k).find? l = shelf.find? l := by
  ext e
  rw [(tidy.erase k).find?_iff, tidy.find?_iff, mem_erase, and_iff_left apart]

theorem find?_erase_self (shelf : Shelf κ α) (k : κ) : (shelf.erase k).find? k = none := by
  cases found : (shelf.erase k).find? k with
  | none => rfl
  | some e => exact absurd rfl (mem_erase.1 (mem_of_find? found)).2

theorem length_erase_lt (member : (k, e) ∈ shelf.entries) : (shelf.erase k).entries.length < shelf.entries.length :=
  List.length_filter_lt_length_iff_exists.2 ⟨(k, e), member, by simp⟩

/-- Unless a shelf is empty, the entry that was filed first goes. -/
theorem evict_cases (some : shelf.entries ≠ []) : ∃ first e, (first, e) ∈ shelf.entries ∧
    (∀ x ∈ shelf.entries, e.filedAt ≤ x.2.filedAt) ∧ shelf.evict = shelf.erase first := by
  unfold evict
  cases found : oldest shelf.entries with
  | none => exact absurd (oldest_none found) some
  | some y =>
      obtain ⟨first, t⟩ := y
      obtain ⟨⟨e, member, rfl⟩, least⟩ := oldest_some found
      exact ⟨first, e, member, least, rfl⟩

/-- The entry of a key, if it is still good. -/
def good? (shelf : Shelf κ α) (limits : CacheLimits) (now : Nat) (k : κ) : Option (Entry α) :=
  (shelf.find? k).filter fun e => !e.expired limits now

theorem Tidy.good?_iff (tidy : shelf.Tidy capacity) :
    shelf.good? limits now k = some e ↔ (k, e) ∈ (shelf.live limits now).entries := by
  rw [good?, Option.filter_eq_some_iff, tidy.find?_iff, mem_live, Bool.not_eq_true']

theorem Tidy.find?_live (tidy : shelf.Tidy capacity) :
    (shelf.live limits now).find? k = shelf.good? limits now k := by
  ext e
  rw [tidy.live.find?_iff, tidy.good?_iff]

/-- The entries that are still good take all the room, and none of them is of the key. -/
structure Full (shelf : Shelf κ α) (limits : CacheLimits) (now : Nat) (k : κ) : Prop where
  room : (shelf.live limits now).entries.length = limits.capacity
  missing : shelf.good? limits now k = none

/-- What the entries of a shelf are after a value was filed. -/
structure Filing (shelf : Shelf κ α) (limits : CacheLimits) (now : Nat) (k : κ) (a : α) (filed : Shelf κ α) : Prop where
  own : filed.find? k = some ⟨a, now⟩
  roomy : ¬ shelf.Full limits now k → ∀ l ≠ k, filed.find? l = shelf.good? limits now l
  full : shelf.Full limits now k → ∃ first e, shelf.good? limits now first = some e ∧
    (∀ l f, shelf.good? limits now l = some f → e.filedAt ≤ f.filedAt) ∧ filed.find? first = none ∧
    ∀ l ≠ k, l ≠ first → filed.find? l = shelf.good? limits now l

/-- A shelf to which a value is added. -/
def added (kept : Shelf κ α) (now : Nat) (k : κ) (a : α) : Shelf κ α := ⟨(k, ⟨a, now⟩) :: (kept.erase k).entries⟩

section Added
variable {kept : Shelf κ α}

theorem find?_added_self : (kept.added now k a).find? k = some ⟨a, now⟩ := by simp [added, find?]

theorem Tidy.find?_added (tidy : kept.Tidy capacity) (apart : l ≠ k) :
    (kept.added now k a).find? l = kept.find? l := by
  have skipped : (kept.added now k a).find? l = (kept.erase k).find? l := by
    unfold find? added
    rw [List.find?_cons_of_neg (by simpa using apart.symm)]
  rw [skipped, tidy.find?_erase apart]

theorem Tidy.added (tidy : kept.Tidy capacity) (room : (kept.erase k).entries.length < capacity) :
    (kept.added now k a).Tidy capacity where
  distinct := by
    refine List.nodup_cons.2 ⟨?_, (tidy.erase k).distinct⟩
    intro member
    obtain ⟨⟨l, e⟩, old, rfl⟩ := List.mem_map.1 member
    exact (mem_erase.1 old).2 rfl
  bounded := room

end Added

theorem Tidy.full_iff (tidy : shelf.Tidy limits.capacity) : shelf.Full limits now k ↔
    limits.capacity ≤ (shelf.live limits now).entries.length ∧ (shelf.live limits now).find? k = none := by
  rw [tidy.find?_live]
  constructor
  · exact fun full => ⟨Nat.le_of_eq full.room.symm, full.missing⟩
  · exact fun ⟨room, missing⟩ => ⟨Nat.le_antisymm tidy.live.bounded room, missing⟩

/-- Where there is room, or the key is on the shelf, a value is added to what is still good. -/
theorem Tidy.file_roomy (tidy : shelf.Tidy limits.capacity) (roomy : ¬ shelf.Full limits now k) (a : α) :
    shelf.file limits now k a = (shelf.live limits now).added now k a ∧
      ((shelf.live limits now).erase k).entries.length < limits.capacity := by
  rw [tidy.full_iff] at roomy
  refine ⟨congrArg (fun kept : Shelf κ α => kept.added now k a) (if_neg roomy), ?_⟩
  have within : (shelf.live limits now).entries.length ≤ limits.capacity := tidy.live.bounded
  cases found : (shelf.live limits now).find? k with
  | none =>
      have fewer := List.length_filter_le (fun x => decide (x.1 ≠ k)) (shelf.live limits now).entries
      have room := Nat.lt_of_not_le fun room => roomy ⟨room, found⟩
      exact Nat.lt_of_le_of_lt fewer room
  | some e => exact Nat.lt_of_lt_of_le (length_erase_lt (mem_of_find? found)) within

/-- Where there is none, the entry that was filed first makes way. -/
theorem Tidy.file_full (tidy : shelf.Tidy limits.capacity) (positive : 0 < limits.capacity)
    (full : shelf.Full limits now k) (a : α) : ∃ first e, (first, e) ∈ (shelf.live limits now).entries ∧
      (∀ x ∈ (shelf.live limits now).entries, e.filedAt ≤ x.2.filedAt) ∧
      shelf.file limits now k a = ((shelf.live limits now).erase first).added now k a ∧
      (((shelf.live limits now).erase first).erase k).entries.length < limits.capacity := by
  have some : (shelf.live limits now).entries ≠ [] := by
    intro none
    have room := full.room
    rw [none] at room
    exact absurd room (Nat.ne_of_lt positive)
  obtain ⟨first, e, member, least, evicted⟩ := evict_cases some
  refine ⟨first, e, member, least, ?_, ?_⟩
  · rw [← evicted]
    exact congrArg (fun kept : Shelf κ α => kept.added now k a) (if_pos (tidy.full_iff.1 full))
  · have fewer := List.length_filter_le (fun x => decide (x.1 ≠ k)) ((shelf.live limits now).erase first).entries
    have without := length_erase_lt member
    rw [full.room] at without
    exact Nat.lt_of_le_of_lt fewer without

theorem Tidy.file (tidy : shelf.Tidy limits.capacity) (positive : 0 < limits.capacity) (now : Nat) (k : κ) (a : α) :
    (shelf.file limits now k a).Tidy limits.capacity := by
  by_cases full : shelf.Full limits now k
  · obtain ⟨first, e, -, -, filed, room⟩ := tidy.file_full positive full a
    rw [filed]
    exact (tidy.live.erase first).added room
  · obtain ⟨filed, room⟩ := tidy.file_roomy full a
    rw [filed]
    exact tidy.live.added room

theorem Tidy.filing (tidy : shelf.Tidy limits.capacity) (positive : 0 < limits.capacity) (now : Nat) (k : κ) (a : α) :
    shelf.Filing limits now k a (shelf.file limits now k a) := by
  refine ⟨find?_added_self, ?_, ?_⟩
  · intro roomy l apart
    rw [(tidy.file_roomy roomy a).1, tidy.live.find?_added apart, tidy.find?_live]
  · intro full
    obtain ⟨first, e, member, least, filed, -⟩ := tidy.file_full positive full a
    have good := tidy.good?_iff.2 member
    rw [filed]
    refine ⟨first, e, good, fun l f other => least _ (tidy.good?_iff.1 other), ?_, ?_⟩
    · have apart : first ≠ k := by
        rintro rfl
        cases full.missing.symm.trans good
      rw [(tidy.live.erase first).find?_added apart, find?_erase_self]
    · intro l apart other
      rw [(tidy.live.erase first).find?_added apart, tidy.live.find?_erase other, tidy.find?_live]

end Shelf

namespace Drawer
variable {d : Drawer} {limits : CacheLimits}

structure Tidy (capacity : Nat) (d : Drawer) : Prop where
  schedules : d.schedules.Tidy capacity
  pages : d.pages.Tidy capacity

/-- What a drawer is after an item was filed: one shelf of it has changed. -/
def Filing (d : Drawer) (limits : CacheLimits) (now : Nat) (filed : Drawer) : (q : Inquiry) → q.Item → Prop
  | .one id, s => d.schedules.Filing limits now id s filed.schedules ∧ filed.pages = d.pages
  | .page key, p => d.pages.Filing limits now key p filed.pages ∧ filed.schedules = d.schedules

def file (d : Drawer) (limits : CacheLimits) (now : Nat) : (q : Inquiry) → q.Item → Drawer
  | .one id, s => { d with schedules := d.schedules.file limits now id s }
  | .page key, p => { d with pages := d.pages.file limits now key p }

theorem Tidy.file (tidy : d.Tidy limits.capacity) (positive : 0 < limits.capacity) (now : Nat) (q : Inquiry)
    (a : q.Item) : (d.file limits now q a).Tidy limits.capacity := by
  cases q with
  | one id => exact ⟨tidy.schedules.file positive now id a, tidy.pages⟩
  | page key => exact ⟨tidy.schedules, tidy.pages.file positive now key a⟩

theorem Tidy.filing (tidy : d.Tidy limits.capacity) (positive : 0 < limits.capacity) (now : Nat) (q : Inquiry)
    (a : q.Item) : d.Filing limits now (d.file limits now q a) q a := by
  cases q with
  | one id => exact ⟨tidy.schedules.filing positive now id a, rfl⟩
  | page key => exact ⟨tidy.pages.filing positive now key a, rfl⟩

end Drawer

namespace Memory
variable {m : Memory} {limits : CacheLimits} {capacity : Nat} {tenant : String}

def Tidy (capacity : Nat) (m : Memory) : Prop := ∀ tenant, (m.drawer tenant).Tidy capacity

/-- What a cache is after an item was filed for a tenant. -/
structure Filing (m : Memory) (limits : CacheLimits) (now : Nat) (tenant : String) (q : Inquiry) (a : q.Item)
    (filed : Memory) : Prop where
  own : (m.drawer tenant).Filing limits now (filed.drawer tenant) q a
  others : ∀ other ≠ tenant, filed.drawer other = m.drawer other

theorem tidy_empty (capacity : Nat) : ({} : Memory).Tidy capacity :=
  fun _ => ⟨Shelf.tidy_empty capacity, Shelf.tidy_empty capacity⟩

theorem Tidy.setDrawer {d : Drawer} (tidy : m.Tidy capacity) (own : d.Tidy capacity) (tenant : String) :
    (m.setDrawer tenant d).Tidy capacity := by
  intro other
  rw [drawer_setDrawer]
  split
  · exact own
  · exact tidy other

theorem Tidy.invalidate (tidy : m.Tidy capacity) (tenant id : String) (c : Change) :
    (m.invalidate tenant id c).Tidy capacity := by
  refine tidy.setDrawer ⟨?_, Shelf.tidy_empty capacity⟩ tenant
  dsimp only
  split
  · exact (tidy tenant).schedules.erase id
  · exact (tidy tenant).schedules

theorem file_current {now : Nat} {g : UInt64} {q : Inquiry} {a : q.Item} (current : m.generation tenant = g) :
    m.file limits now tenant g q a = m.setDrawer tenant ((m.drawer tenant).file limits now q a) := by
  cases q with
  | one id => exact if_pos current
  | page key => exact if_pos current

theorem Tidy.file (tidy : m.Tidy limits.capacity) (positive : 0 < limits.capacity) (now : Nat) (tenant : String)
    (g : UInt64) (q : Inquiry) (a : q.Item) : (m.file limits now tenant g q a).Tidy limits.capacity := by
  by_cases current : m.generation tenant = g
  · rw [file_current current]
    exact tidy.setDrawer ((tidy tenant).file positive now q a) tenant
  · rwa [file_stale current]

theorem Tidy.filing (tidy : m.Tidy limits.capacity) (positive : 0 < limits.capacity) (now : Nat) {g : UInt64}
    (current : m.generation tenant = g) (q : Inquiry) (a : q.Item) :
    m.Filing limits now tenant q a (m.file limits now tenant g q a) where
  own := by
    rw [file_current current, drawer_setDrawer, if_pos rfl]
    exact (tidy tenant).filing positive now q a
  others other apart := drawer_file_ne apart

end Memory

namespace Traffic
variable {s t : Traffic} {limits : CacheLimits}

theorem Stepped.tidy (h : Stepped limits s t) (positive : 0 < limits.capacity) (tidy : s.memory.Tidy limits.capacity) :
    t.memory.Tidy limits.capacity := by
  cases h with
  | looked h => exact h.memory ▸ tidy
  | proceeded h =>
      cases h with
      | idle | observed | loaded | failed => exact tidy
      | handed there => exact tidy.file positive _ _ _ _ _
  | told tenant id c => exact tidy.invalidate tenant id c
  | cleared => exact Memory.tidy_empty _

theorem tidy_run (positive : 0 < limits.capacity) (tidy : s.memory.Tidy limits.capacity) (moves : List Move) :
    (s.run limits moves).memory.Tidy limits.capacity := by
  induction moves generalizing s with
  | nil => exact tidy
  | cons move moves ih => exact ih ((stepped limits s move).tidy positive tidy)

/-- Whatever has been asked of a cache, it holds no more than it has room for, of any tenant and of either kind.
What a visit has loaded under the present generation is filed. The only other entry that can have to make way,
though it is still good, is the one that was filed first, where such entries take all the room. -/
theorem bounded_run (ttl entries : Nat) (moves : List Move) :
    let limits := CacheLimits.clamped ttl entries
    let s := run limits {} moves
    (∀ tenant, (s.memory.drawer tenant).Tidy (max 1 entries) ∧
      (s.memory.stats tenant).schedules ≤ max 1 entries ∧ (s.memory.stats tenant).pages ≤ max 1 entries) ∧
    ∀ (i now began mark : Nat) (answers : String → (q : Inquiry) → Answer q.Item) (tenant : String) (q : Inquiry)
      (g : UInt64) (a : q.Item), s.visits[i]? = some ⟨tenant, q, began, .loaded g mark a⟩ →
      let filed := (s.step limits (.proceed now i answers)).memory
      (s.memory.generation tenant = g → s.memory.Filing limits now tenant q a filed) ∧
        (s.memory.generation tenant ≠ g → filed = s.memory) := by
  intro limits s
  have positive : 0 < limits.capacity := Nat.lt_of_lt_of_le Nat.zero_lt_one (Nat.le_max_left 1 entries)
  have tidy : s.memory.Tidy limits.capacity := tidy_run positive (Memory.tidy_empty _) moves
  refine ⟨fun tenant => ⟨tidy tenant, (tidy tenant).schedules.bounded, (tidy tenant).pages.bounded⟩, ?_⟩
  intro i now began mark answers tenant q g a there filed
  have handed : filed = s.memory.file limits now tenant g q a := by
    simp only [filed, step, proceed, there]
    rfl
  rw [handed]
  exact ⟨fun current => tidy.filing positive now current q a, Memory.file_stale⟩

section Runs

/-- Every schedule is stored under its name. -/
def named : String → (q : Inquiry) → Answer q.Item
  | _, .one id => .ok { name := id }
  | _, .page _ => .ok {}

/-- A visit comes on until it has loaded a schedule. -/
def load (now i : Nat) (id : String) : List Move :=
  [.look now "a" (.one id), .proceed now i named, .proceed now i named]

def single : CacheLimits := .clamped 1000 0

/-- The schedule `x` is on the only place there is, and `y` has been loaded. -/
def crowded : Traffic := run single {} (load 0 0 "x" ++ .proceed 0 0 named :: load 5 1 "y")

/-- What was filed first makes way. -/
theorem bounded_run_crowded :
    crowded.memory.stats "a" = ⟨1, 0⟩ ∧ (crowded.memory.drawer "a").schedules.Full single 5 "y" ∧
      crowded.memory.Filing single 5 "a" (.one "y") { name := "y" } (crowded.step single (.proceed 5 1 named)).memory := by
  have there : crowded.visits[1]? = some ⟨"a", .one "y", 5, .loaded 0 1 { name := "y" }⟩ := rfl
  have current : crowded.memory.generation "a" = 0 := rfl
  have one : crowded.memory.stats "a" = ⟨1, 0⟩ := rfl
  have full : (crowded.memory.drawer "a").schedules.Full single 5 "y" := ⟨rfl, rfl⟩
  exact ⟨one, full, ((bounded_run 1000 0 _).2 1 5 5 1 named "a" (.one "y") 0 { name := "y" } there).1 current⟩

end Runs

end Traffic
end Upkeep
