import Upkeep.Table

/-! Tables in order. Where every key stands before the keys after it, the entries of a table
are what is found in it, and to change one entry leaves the others as they stand. -/
namespace Upkeep.Table
variable {α : Type}

theorem mem_of_look {k : String} {a : α} {es : List (String × α)} (h : look k es = some a) :
    (k, a) ∈ es := by
  induction es with
  | nil => cases h
  | cons e es ih =>
      simp only [look] at h
      split at h
      · next same =>
        cases h
        subst same
        exact List.mem_cons_self
      · exact List.mem_cons_of_mem _ (ih h)

theorem look_of_mem {es : List (String × α)} (ordered : es.Pairwise fun a b => a.1 < b.1)
    {k : String} {a : α} (member : (k, a) ∈ es) : look k es = some a := by
  induction es with
  | nil => cases member
  | cons e es ih =>
      obtain ⟨first, rest⟩ := List.pairwise_cons.1 ordered
      simp only [look]
      rcases List.mem_cons.1 member with rfl | later
      · rw [if_pos rfl]
      · have before : e.1 < k := first _ later
        have other : k ≠ e.1 := fun same => String.lt_irrefl k (same ▸ before)
        rw [if_neg other]
        exact ih rest later

theorem Ordered.mem_entries {t : Table α} (ordered : t.Ordered) {k : String} {a : α} :
    (k, a) ∈ t.entries ↔ t.find? k = some a :=
  ⟨look_of_mem ordered, mem_of_look⟩

theorem Ordered.mem_values {t : Table α} (ordered : t.Ordered) {a : α} :
    a ∈ t.values ↔ ∃ k, t.find? k = some a := by
  simp only [values, List.mem_map, Prod.exists, exists_eq_right, ordered.mem_entries]

theorem ordered_empty : (({} : Table α)).Ordered := List.Pairwise.nil

theorem mem_place {k : String} {a : α} {es : List (String × α)} {e : String × α}
    (h : e ∈ place k a es) : e = (k, a) ∨ e ∈ es := by
  induction es with
  | nil => exact Or.inl (List.mem_singleton.1 h)
  | cons f es ih =>
      simp only [place] at h
      split at h
      · exact (List.mem_cons.1 h).imp id (List.mem_cons_of_mem _)
      · split at h
        · exact List.mem_cons.1 h
        · rcases List.mem_cons.1 h with rfl | later
          · exact Or.inr List.mem_cons_self
          · exact (ih later).imp id (List.mem_cons_of_mem _)

theorem Ordered.insert {t : Table α} (ordered : t.Ordered) (k : String) (a : α) :
    (t.insert k a).Ordered := by
  unfold Ordered Table.insert at *
  induction hes : t.entries generalizing t with
  | nil => exact List.pairwise_singleton _ _
  | cons e es ih =>
      rw [hes] at ordered
      obtain ⟨first, rest⟩ := List.pairwise_cons.1 ordered
      simp only [place]
      split
      · next same =>
        subst same
        exact List.pairwise_cons.2 ⟨first, rest⟩
      · next other =>
        split
        · next before =>
          refine List.pairwise_cons.2 ⟨fun f hf => ?_, ordered⟩
          rcases List.mem_cons.1 hf with rfl | later
          · exact before
          · exact String.lt_trans before (first f later)
        · next after =>
          refine List.pairwise_cons.2 ⟨fun f hf => ?_, @ih ⟨es⟩ rest rfl⟩
          rcases mem_place hf with rfl | later
          · rcases Decidable.em (e.1 < k) with h | h
            · exact h
            · exact absurd (String.le_antisymm h after) other
          · exact first f later

theorem Ordered.erase {t : Table α} (ordered : t.Ordered) (k : String) : (t.erase k).Ordered :=
  List.Pairwise.filter _ ordered

/-- Entries under different keys may be written in either order. -/
theorem insert_comm {k l : String} (apart : k ≠ l) (a b : α) (t : Table α) :
    (t.insert l b).insert k a = (t.insert k a).insert l b := by
  obtain ⟨es⟩ := t
  simp only [Table.insert, mk.injEq]
  have irrefl := @String.lt_irrefl
  have trans := @String.lt_trans
  have asymm := @String.lt_asymm
  have antisymm := @String.le_antisymm
  have not_lt := @String.not_lt
  induction es with
  | nil => grind [place]
  | cons e es ih => grind [place]

/-- What is written last under a key is there. -/
theorem insert_insert (t : Table α) (k : String) (a b : α) : (t.insert k b).insert k a = t.insert k a := by
  obtain ⟨es⟩ := t
  simp only [Table.insert, mk.injEq]
  induction es with
  | nil => simp [place]
  | cons e es ih => grind [place]

/-- What passes a test stands as before when an entry is written that does not pass it, in
place of none or of another that does not. -/
theorem filter_values_insert {p : α → Bool} {t : Table α} {k : String} {a : α}
    (new : p a = false) (old : ∀ b, t.find? k = some b → p b = false) :
    (t.insert k a).values.filter p = t.values.filter p := by
  obtain ⟨es⟩ := t
  simp only [values, Table.insert, find?] at old ⊢
  induction es with
  | nil => simp [place, new]
  | cons e es ih =>
      simp only [look] at old
      simp only [place]
      split
      · next same =>
        rw [if_pos same] at old
        simp only [List.map_cons, List.filter_cons, new, old e.2 rfl, Bool.false_eq_true, if_false]
      · next other =>
        rw [if_neg other] at old
        split
        · simp only [List.map_cons, List.filter_cons, new, Bool.false_eq_true, if_false]
        · simp only [List.map_cons, List.filter_cons, ih old]

/-- What passes a test stands as before when an entry is taken out that does not pass it. -/
theorem Ordered.filter_values_erase {p : α → Bool} {t : Table α} (ordered : t.Ordered)
    {k : String} (old : ∀ b, t.find? k = some b → p b = false) :
    (t.erase k).values.filter p = t.values.filter p := by
  simp only [values, Table.erase, List.filter_map, List.filter_filter]
  congr 1
  apply List.filter_congr
  intro e member
  by_cases same : e.1 = k
  · have found : t.find? k = some e.2 := ordered.mem_entries.1 (same ▸ member)
    simp [old e.2 found]
  · simp [same]

theorem contains_iff {t : Table α} {k : String} : t.contains k = true ↔ ∃ a, t.find? k = some a :=
  Option.isSome_iff_exists

theorem not_contains_iff {t : Table α} {k : String} :
    t.contains k = false ↔ t.find? k = none := by
  simp [contains]

end Upkeep.Table
