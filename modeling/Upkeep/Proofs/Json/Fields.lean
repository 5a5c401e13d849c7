import Upkeep.Json.Record
import Upkeep.Proofs.Json.Legible
import Upkeep.Proofs.Table

/-! Records whose fields need not all be written. A record is a list of cells, one under each of its
names, and what is written of it is the cells that hold something. A reader finds each cell again,
and an empty one for what is left out. -/
namespace Upkeep.Json
open Reader (fieldOr)

theorem nat_ofNat {bits n : Nat} (small : n < twoTo bits) : nat? bits (.int n) = some n := by
  unfold nat? intWithin?
  dsimp only
  rw [if_pos (by omega)]
  rfl

theorem word32_ofNat (w : UInt32) : word32? (.ofNat w.toNat) = some w := by
  unfold word32? ofNat
  rw [nat_ofNat w.toNat_lt, Option.map_some, UInt32.ofNat_toNat]

theorem word64_ofNat (w : UInt64) : word64? (.ofNat w.toNat) = some w := by
  unfold word64? ofNat
  rw [nat_ofNat w.toNat_lt, Option.map_some, UInt64.ofNat_toNat]

/-- The cells that hold something. -/
def present (cells : List (String × Option Json)) : List (String × Json) :=
  cells.filterMap fun c => c.2.map (c.1, ·)

/-- A text, which is left out if it is empty. -/
def textCell (s : String) : Option Json := if s = "" then none else some (.str s)

variable {cells more : List (String × Option Json)} {name : String}

theorem present_append : present (cells ++ more) = present cells ++ present more := List.filterMap_append

theorem cons_present (name : String) (j : Json) :
    (name, j) :: present cells = present ((name, some j) :: cells) := rfl

theorem unlessEmpty_eq (name s : String) : unlessEmpty name s = present [(name, textCell s)] := by
  unfold unlessEmpty textCell
  split <;> rfl

theorem ifSome_eq {α : Type} (name : String) (write : α → Json) (o : Option α) :
    ifSome name write o = present [(name, o.map write)] := by
  cases o <;> rfl

theorem names_present (cells : List (String × Option Json)) :
    ((present cells).map (·.1)).Sublist (cells.map (·.1)) := by
  induction cells with
  | nil => exact .slnil
  | cons c cells ih =>
      obtain ⟨name, held⟩ := c
      cases held with
      | none => exact ih.cons name
      | some j => exact ih.cons_cons name

theorem fields_present (distinct : (cells.map (·.1)).Nodup) :
    fields (cells.map (·.1)) (.obj (present cells)) = some (present cells) := by
  have names := names_present cells
  have known : (present cells).filter (fun f => f.1 ∈ cells.map (·.1)) = present cells := by
    rw [List.filter_eq_self]
    intro f member
    exact decide_eq_true (names.subset (List.mem_map_of_mem member))
  unfold fields fieldsFrom
  dsimp only
  rw [known, if_pos (distinct.sublist names)]

theorem look_absent (absent : name ∉ cells.map (·.1)) : Table.look name (present cells) = none := by
  cases found : Table.look name (present cells) with
  | none => rfl
  | some j =>
      have member := List.mem_map_of_mem (f := Prod.fst) (Table.mem_of_look found)
      exact absurd ((names_present cells).subset member) absent

theorem look_present (distinct : (cells.map (·.1)).Nodup) {held : Option Json}
    (member : (name, held) ∈ cells) : Table.look name (present cells) = held := by
  induction cells with
  | nil => cases member
  | cons c cells ih =>
      obtain ⟨other, first⟩ := c
      rw [List.map_cons, List.nodup_cons] at distinct
      rcases List.mem_cons.1 member with same | later
      · cases same
        cases held with
        | none =>
            have absent : Table.look name (present cells) = none := look_absent distinct.1
            exact absent
        | some j => exact if_pos rfl
      · have apart : name ≠ other := by
          rintro rfl
          exact distinct.1 (List.mem_map.2 ⟨_, later, rfl⟩)
        cases first with
        | none => exact ih distinct.2 later
        | some j => exact (if_neg apart).trans (ih distinct.2 later)

section Reading
variable {α : Type} {read : Json → Option α} {default : α}

theorem fieldOr_held (distinct : (cells.map (·.1)).Nodup) {j : Json}
    (member : (name, some j) ∈ cells) : fieldOr read default (present cells) name = read j := by
  unfold fieldOr
  rw [look_present distinct member]

theorem fieldOr_left_out (distinct : (cells.map (·.1)).Nodup) (member : (name, none) ∈ cells) :
    fieldOr read default (present cells) name = some default := by
  unfold fieldOr
  rw [look_present distinct member]

theorem fieldOr_text (distinct : (cells.map (·.1)).Nodup) {s : String}
    (member : (name, some (.str s)) ∈ cells) : fieldOr text? "" (present cells) name = some s :=
  fieldOr_held distinct member

/-- A text is read as it was, also where it was left out. -/
theorem fieldOr_textCell (distinct : (cells.map (·.1)).Nodup) {s : String}
    (member : (name, textCell s) ∈ cells) : fieldOr text? "" (present cells) name = some s := by
  by_cases empty : s = ""
  · have none : textCell s = none := if_pos empty
    rw [none] at member
    rw [fieldOr_left_out distinct member, empty]
  · have held : textCell s = some (.str s) := if_neg empty
    rw [held] at member
    exact fieldOr_held distinct member

/-- What need not be there is read if it is there, and as nothing otherwise. -/
theorem fieldOr_optional {β : Type} (distinct : (cells.map (·.1)).Nodup) {write : β → Json} {f : β → α}
    (o : Option β) (reads : ∀ b, read (write b) = some (f b)) (given : ∀ b, isNull (write b) = false)
    (member : (name, o.map write) ∈ cells) :
    fieldOr (optional? read) none (present cells) name = some (o.map f) := by
  cases o with
  | none => exact fieldOr_left_out distinct member
  | some b =>
      refine (fieldOr_held distinct member).trans ?_
      have written : reader.isNull (write b) = false := given b
      unfold optional? Reader.optional
      rw [written, reads]
      rfl

end Reading

/-- What a cell holds, if it does, is clean. -/
def CleanCell (held : Option Json) : Prop := ∀ j, held = some j → Clean j

theorem clean_present (each : ∀ c ∈ cells, CleanCell c.2) : Clean (.obj (present cells)) := by
  apply Clean.obj
  intro f member
  obtain ⟨c, there, written⟩ := List.mem_filterMap.1 member
  obtain ⟨j, held, rfl⟩ := Option.map_eq_some_iff.1 written
  exact each c there j held

theorem cleanCell_some {j : Json} (clean : Clean j) : CleanCell (some j) := by
  rintro _ ⟨⟩
  exact clean

theorem cleanCell_textCell (s : String) : CleanCell (textCell s) := by
  intro j held
  unfold textCell at held
  split at held
  · cases held
  · cases held
    exact .str s

theorem cleanCell_map {β : Type} {write : β → Json} (each : ∀ b, Clean (write b)) (o : Option β) :
    CleanCell (o.map write) := by
  intro j held
  obtain ⟨b, -, rfl⟩ := Option.map_eq_some_iff.1 held
  exact each b

end Upkeep.Json
