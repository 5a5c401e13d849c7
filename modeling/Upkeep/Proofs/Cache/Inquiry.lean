import Upkeep.Cache.Basic

/-! What a cache is asked for, one schedule or one page, and what the inventory would answer
to it. A cache in memory holds an item where an entry of it is filed, be it expired or not. -/
namespace Upkeep

inductive Inquiry where
  | one (id : String)
  | page (key : PageKey)
  deriving DecidableEq

abbrev Inquiry.Item : Inquiry → Type
  | .one _ => Schedule
  | .page _ => Page Schedule

namespace Inventory

def schedule (inv : Inventory) (tenant id : String) : Answer Schedule := do
  (← inv.get tenant id).expectSchedule

def page (inv : Inventory) (tenant : String) (key : PageKey) : Answer (Page Schedule) := do
  let page ← inv.list tenant
    { kind := .schedule, offset := key.offset, limit := key.limit, orderBy := "resource_id",
      filter := key.criteria.expression }
  page.mapM Resource.expectSchedule

def answer (inv : Inventory) (tenant : String) : (q : Inquiry) → Answer q.Item
  | .one id => inv.schedule tenant id
  | .page key => inv.page tenant key

end Inventory

namespace Shelf
variable {κ α : Type} [DecidableEq κ] {shelf : Shelf κ α} {limits : CacheLimits} {now : Nat}
  {k l : κ} {e : Entry α}

theorem mem_of_find? (h : shelf.find? k = some e) : (k, e) ∈ shelf.entries := by
  obtain ⟨⟨l, e'⟩, found, rfl⟩ := Option.map_eq_some_iff.1 h
  have same : l = k := by simpa using List.find?_some found
  subst same
  exact List.mem_of_find?_eq_some found

theorem mem_of_fresh? {a : α} (h : shelf.fresh? limits now k = some a) :
    ∃ e, (k, e) ∈ shelf.entries ∧ e.expired limits now = false ∧ e.value = a := by
  obtain ⟨e, found, rfl⟩ := Option.map_eq_some_iff.1 h
  obtain ⟨found, good⟩ := Option.filter_eq_some_iff.1 found
  exact ⟨e, mem_of_find? found, by simpa using good, rfl⟩

theorem mem_erase : (l, e) ∈ (shelf.erase k).entries ↔ (l, e) ∈ shelf.entries ∧ l ≠ k := by
  simp [erase]

theorem mem_of_evict (h : (l, e) ∈ shelf.evict.entries) : (l, e) ∈ shelf.entries := by
  unfold evict at h
  split at h
  · exact h
  · exact (mem_erase.1 h).1

/-- To file a value adds its own entry and nothing else. -/
theorem mem_of_file {a : α} (h : (l, e) ∈ (shelf.file limits now k a).entries) :
    (l = k ∧ e = ⟨a, now⟩) ∨ (l ≠ k ∧ (l, e) ∈ shelf.entries) := by
  unfold file at h
  rcases List.mem_cons.1 h with new | old
  · cases new
    exact Or.inl ⟨rfl, rfl⟩
  · obtain ⟨kept, apart⟩ := mem_erase.1 old
    refine Or.inr ⟨apart, ?_⟩
    split at kept
    · exact (List.mem_filter.1 (mem_of_evict kept)).1
    · exact (List.mem_filter.1 kept).1

end Shelf

/-- An entry that is filed, with the time of filing. -/
def Drawer.Files (d : Drawer) : (q : Inquiry) → Entry q.Item → Prop
  | .one id, e => (id, e) ∈ d.schedules.entries
  | .page key, e => (key, e) ∈ d.pages.entries

def Drawer.Holds (d : Drawer) : (q : Inquiry) → q.Item → Prop
  | .one id, s => ∃ t, (id, ⟨s, t⟩) ∈ d.schedules.entries
  | .page key, p => ∃ t, (key, ⟨p, t⟩) ∈ d.pages.entries

namespace Memory
variable {m : Memory} {limits : CacheLimits} {now : Nat} {tenant other id : String}
  {g : UInt64} {q r : Inquiry} {a : q.Item} {b : r.Item} {e : Entry r.Item}

@[simp] theorem drawer_setDrawer (m : Memory) (tenant other : String) (d : Drawer) :
    (m.setDrawer tenant d).drawer other = if other = tenant then d else m.drawer other := by
  unfold drawer setDrawer
  rw [Table.find?_insert]
  split <;> rfl

def known? (m : Memory) (limits : CacheLimits) (now : Nat) (tenant : String) :
    (q : Inquiry) → Option q.Item
  | .one id => m.schedule? limits now tenant id
  | .page key => m.page? limits now tenant key

/-- Files an item that was loaded when the tenant had the generation. -/
def file (m : Memory) (limits : CacheLimits) (now : Nat) (tenant : String) (generation : UInt64) :
    (q : Inquiry) → q.Item → Memory
  | .one id, s => m.fileSchedule limits now tenant generation id s
  | .page key, p => m.filePage limits now tenant generation key p

def Files (m : Memory) (tenant : String) (q : Inquiry) (e : Entry q.Item) : Prop := (m.drawer tenant).Files q e

def Holds (m : Memory) (tenant : String) (q : Inquiry) (a : q.Item) : Prop :=
  (m.drawer tenant).Holds q a

/-- An item is held where it is filed at some time. -/
theorem holds_iff : m.Holds tenant q a ↔ ∃ t, m.Files tenant q ⟨a, t⟩ := by
  cases q with
  | one id => exact Iff.rfl
  | page key => exact Iff.rfl

theorem not_files_empty (e : Entry r.Item) : ¬ ({} : Memory).Files tenant r e := by
  cases r with
  | one id => exact List.not_mem_nil
  | page key => exact List.not_mem_nil

theorem not_holds_empty (q : Inquiry) (a : q.Item) : ¬ ({} : Memory).Holds tenant q a := by
  rw [holds_iff]
  exact fun ⟨_, filed⟩ => not_files_empty _ filed

/-- What is known is filed, and still good. -/
theorem files_of_known? (known : m.known? limits now tenant q = some a) :
    ∃ e, m.Files tenant q e ∧ e.expired limits now = false ∧ e.value = a := by
  cases q with
  | one id => exact Shelf.mem_of_fresh? known
  | page key => exact Shelf.mem_of_fresh? known

theorem holds_of_known? (known : m.known? limits now tenant q = some a) : m.Holds tenant q a := by
  obtain ⟨⟨b, t⟩, filed, -, rfl⟩ := files_of_known? known
  exact holds_iff.2 ⟨t, filed⟩

theorem file_stale (stale : m.generation tenant ≠ g) : m.file limits now tenant g q a = m := by
  unfold generation at stale
  cases q with
  | one id => simp only [file, fileSchedule, if_neg stale]
  | page key => simp only [file, filePage, if_neg stale]

theorem drawer_file_ne (apart : other ≠ tenant) :
    (m.file limits now tenant g q a).drawer other = m.drawer other := by
  by_cases current : (m.drawer tenant).generation = g
  · cases q with
    | one id => simp only [file, fileSchedule, if_pos current, drawer_setDrawer, if_neg apart]
    | page key => simp only [file, filePage, if_pos current, drawer_setDrawer, if_neg apart]
  · rw [file_stale current]

@[simp] theorem generation_file :
    (m.file limits now tenant g q a).generation other = m.generation other := by
  unfold generation
  by_cases same : other = tenant
  · subst same
    by_cases current : (m.drawer other).generation = g
    · cases q with
      | one id => simp only [file, fileSchedule, if_pos current, drawer_setDrawer, if_true]
      | page key => simp only [file, filePage, if_pos current, drawer_setDrawer, if_true]
    · rw [file_stale current]
  · rw [drawer_file_ne same]

/-- What a drawer has on file after filing is what was filed, or what it had of other items. -/
theorem files_of_file (current : m.generation tenant = g) (filed : (m.file limits now tenant g q a).Files tenant r e) :
    (⟨r, e⟩ : Σ q : Inquiry, Entry q.Item) = ⟨q, ⟨a, now⟩⟩ ∨ (r ≠ q ∧ m.Files tenant r e) := by
  unfold generation at current
  cases q with
  | one id =>
      simp only [Files, file, fileSchedule, if_pos current, drawer_setDrawer, if_true] at filed
      cases r with
      | one other =>
          rcases Shelf.mem_of_file filed with ⟨rfl, new⟩ | ⟨apart, old⟩
          · cases new
            exact Or.inl rfl
          · exact Or.inr ⟨fun same => apart (Inquiry.one.inj same), old⟩
      | page key => exact Or.inr ⟨Inquiry.noConfusion, filed⟩
  | page key =>
      simp only [Files, file, filePage, if_pos current, drawer_setDrawer, if_true] at filed
      cases r with
      | one other => exact Or.inr ⟨Inquiry.noConfusion, filed⟩
      | page other =>
          rcases Shelf.mem_of_file filed with ⟨rfl, new⟩ | ⟨apart, old⟩
          · cases new
            exact Or.inl rfl
          · exact Or.inr ⟨fun same => apart (Inquiry.page.inj same), old⟩

/-- What is on file after filing, of whichever tenant. -/
theorem filed_file (filed : (m.file limits now tenant g q a).Files other r e) :
    (m.generation tenant = g ∧ other = tenant ∧ (⟨r, e⟩ : Σ q : Inquiry, Entry q.Item) = ⟨q, ⟨a, now⟩⟩) ∨
      (¬ (m.generation tenant = g ∧ other = tenant ∧ r = q) ∧ m.Files other r e) := by
  by_cases current : m.generation tenant = g
  · by_cases same : other = tenant
    · subst same
      rcases files_of_file current filed with new | ⟨apart, old⟩
      · exact .inl ⟨current, rfl, new⟩
      · exact .inr ⟨fun filed => apart filed.2.2, old⟩
    · unfold Files at filed
      rw [drawer_file_ne same] at filed
      exact .inr ⟨fun filed => same filed.2.1, filed⟩
  · rw [file_stale current] at filed
    exact .inr ⟨fun filed => current filed.1, filed⟩

theorem held_file (h : (m.file limits now tenant g q a).Holds other r b) :
    (m.generation tenant = g ∧ other = tenant ∧ (⟨r, b⟩ : Σ q : Inquiry, q.Item) = ⟨q, a⟩) ∨
      (¬ (m.generation tenant = g ∧ other = tenant ∧ r = q) ∧ m.Holds other r b) := by
  obtain ⟨t, filed⟩ := holds_iff.1 h
  rcases filed_file filed with ⟨current, same, new⟩ | ⟨apart, old⟩
  · cases new
    exact .inl ⟨current, same, rfl⟩
  · exact .inr ⟨apart, holds_iff.2 ⟨t, old⟩⟩

theorem drawer_invalidate_ne {c : Change} (apart : other ≠ tenant) :
    (m.invalidate tenant id c).drawer other = m.drawer other := by
  simp only [invalidate, drawer_setDrawer, if_neg apart]

theorem generation_invalidate {c : Change} :
    (m.invalidate tenant id c).generation other =
      if other = tenant then m.generation tenant + 1 else m.generation other := by
  unfold generation
  by_cases same : other = tenant
  · simp only [invalidate, drawer_setDrawer, if_pos same]
  · rw [drawer_invalidate_ne same, if_neg same]

end Memory

/-- Whether a change of a schedule can touch what answers an inquiry. A new schedule is in no
answer to an inquiry for one. -/
def Inquiry.Touched (id : String) (c : Change) : Inquiry → Prop
  | .one other => other = id ∧ c.dropsEntry = true
  | .page _ => True

namespace Memory
variable {m : Memory} {tenant other id : String} {c : Change} {q : Inquiry} {a : q.Item} {e : Entry q.Item}

/-- A drawer that was told of a change has nothing on file that the change can touch. -/
theorem files_of_invalidate (filed : (m.invalidate tenant id c).Files tenant q e) :
    m.Files tenant q e ∧ ¬ q.Touched id c := by
  simp only [Files, invalidate, drawer_setDrawer, if_true] at filed
  cases q with
  | one other =>
      by_cases drops : c.dropsEntry = true
      · simp only [Drawer.Files, if_pos drops] at filed
        obtain ⟨old, apart⟩ := Shelf.mem_erase.1 filed
        exact ⟨old, fun touched => apart touched.1⟩
      · simp only [Drawer.Files, if_neg drops] at filed
        exact ⟨filed, fun touched => drops touched.2⟩
  | page key => cases filed

/-- What is on file after a change, of whichever tenant. -/
theorem filed_invalidate (filed : (m.invalidate tenant id c).Files other q e) :
    m.Files other q e ∧ (other = tenant → ¬ q.Touched id c) := by
  by_cases same : other = tenant
  · subst same
    obtain ⟨old, untouched⟩ := files_of_invalidate filed
    exact ⟨old, fun _ => untouched⟩
  · unfold Files at filed
    rw [drawer_invalidate_ne same] at filed
    exact ⟨filed, fun again => absurd again same⟩

theorem held_invalidate (h : (m.invalidate tenant id c).Holds other q a) :
    m.Holds other q a ∧ (other = tenant → ¬ q.Touched id c) := by
  obtain ⟨t, filed⟩ := holds_iff.1 h
  obtain ⟨old, untouched⟩ := filed_invalidate filed
  exact ⟨holds_iff.2 ⟨t, old⟩, untouched⟩

end Memory
end Upkeep
