import Upkeep.Cache.Shared
import Upkeep.Proofs.Json.Fields

/-! Records there and back: what is written of a schedule is read as the schedule, and what can
be read of a page that was written is the page. -/
namespace Upkeep

theorem Status.ofJson_json (s : Status) : Status.ofJson? s.json = some s := by
  cases s <;> rfl

theorem Target.ofJson_json (t : Target) : Target.ofJson? t.json = some t := by
  cases t <;> rfl

theorem Target.ofJson_optional (o : Option Target) :
    Json.optional? Target.ofJson? (Json.ofOption Target.json o) = some o := by
  cases o with
  | none => rfl
  | some t =>
      have given : Json.reader.isNull t.json = false := by cases t <;> rfl
      unfold Json.optional? Reader.optional Json.ofOption
      dsimp only
      rw [given, t.ofJson_json]
      rfl

namespace Schedule

theorem ofJson_json (s : Schedule) : Schedule.ofJson? s.json = some s := by
  have status := Status.ofJson_json s.status
  have target := Target.ofJson_optional s.target
  have start := Json.word64_ofNat s.start
  have finish := Json.word64_ofNat s.finish
  have fields : Json.fields fieldNames s.json = some
      [("resource_id", .str s.id), ("schedule_status", s.status.json), ("name", .str s.name),
        ("relation", Json.ofOption Target.json s.target), ("start_seconds", .ofNat s.start.toNat),
        ("end_seconds", .ofNat s.finish.toNat), ("tenant_id", .str s.tenant),
        ("created_at", .str s.createdAt), ("updated_at", .str s.updatedAt)] := rfl
  exact Text.read_next fields <| Text.read_next rfl <| Text.read_next status <| Text.read_next rfl <|
    Text.read_next target <| Text.read_next start <| Text.read_next finish <| Text.read_next rfl <|
    Text.read_next rfl <| Text.read_next rfl rfl

theorem clean_target (t : Target) : Json.Clean t.json := by
  have texts (fields : List (String × String)) :
      Json.Clean (.obj (fields.map fun f => (f.1, .str f.2))) :=
    .obj fun f member => by
      obtain ⟨g, -, rfl⟩ := List.mem_map.1 member
      exact .str g.2
  have record : ∀ {name : String} {j : Json}, j.Clean → Json.Clean (.obj [(name, j)]) :=
    fun clean => .obj fun f member => by
      cases List.mem_singleton.1 member
      exact clean
  cases t with
  | host h =>
      exact record (texts [("resource_id", h.id), ("name", h.name), ("uuid", h.uuid),
        ("site_id", h.siteId), ("tenant_id", h.tenant), ("created_at", h.createdAt),
        ("updated_at", h.updatedAt)])
  | site s =>
      exact record (texts [("resource_id", s.id), ("name", s.name), ("region_id", s.regionId),
        ("address", s.address), ("tenant_id", s.tenant), ("created_at", s.createdAt),
        ("updated_at", s.updatedAt)])
  | region r =>
      exact record (texts [("resource_id", r.id), ("name", r.name), ("parent_id", r.parentId),
        ("tenant_id", r.tenant), ("created_at", r.createdAt), ("updated_at", r.updatedAt)])

theorem clean_json (s : Schedule) : s.json.Clean := by
  have target : Json.Clean (Json.ofOption Target.json s.target) := by
    cases s.target with
    | none => exact .null
    | some t => exact clean_target t
  apply Json.Clean.obj
  simp only [List.forall_mem_cons]
  exact ⟨.str _, .str _, .str _, target, .nat s.start.toNat_lt, .nat s.finish.toNat_lt, .str _, .str _,
    .str _, nofun⟩

end Schedule

theorem Json.lt_of_fits {n : Nat} (h : Json.fits n = true) : n < twoTo 64 :=
  Int.ofNat_lt.1 (of_decide_eq_true (Bool.and_eq_true_iff.1 h).2)

/-- A number that can be read back as a word is the number that was written. -/
theorem Json.nat_numeral {n m : Nat}
    (h : Json.nat? 64 (Json.numeral false (Decimal.digits n) [] none) = some m) : m = n := by
  by_cases small : n < twoTo 64
  · rw [Json.numeral_digits small, Json.nat_ofNat small] at h
    exact (Option.some.inj h).symm
  · unfold Json.numeral at h
    dsimp only at h
    rw [Decimal.number_digits, if_neg Bool.false_ne_true] at h
    split at h
    · next whole => exact absurd (Json.lt_of_fits whole.2.2.2) small
    · split at h <;> cases h

namespace Shared

theorem mapM_ofJson (items : List Schedule) :
    (items.map Schedule.json).mapM Schedule.ofJson? = some items := by
  induction items with
  | nil => rfl
  | cons s rest ih =>
      simp only [List.map_cons, List.mapM_cons, Schedule.ofJson_json, ih, Option.bind_eq_bind,
        Option.bind_some, Option.pure_def]

/-- The count of a page can be too large for a word; all else comes back as it was. -/
theorem read_pageJson (p : Page Schedule) : Json.read (pageJson p).write = some (.obj
    [("schedules", .arr (p.items.map Schedule.json)), ("has_next", .bool p.hasNext),
      ("total_elements", Json.numeral false (Decimal.digits p.total) [] none)]) := by
  apply Json.read_write
  have items : Json.Clean (.arr (p.items.map Schedule.json)) := .arr fun j member => by
    obtain ⟨s, -, rfl⟩ := List.mem_map.1 member
    exact s.clean_json
  have count := Json.legible_digits p.total
  generalize Json.numeral false (Decimal.digits p.total) [] none = total at count ⊢
  have legible := Json.legible_obj
    [("schedules", Json.chars (.arr (p.items.map Schedule.json)), .arr (p.items.map Schedule.json)),
      ("has_next", Json.chars (.bool p.hasNext), .bool p.hasNext),
      ("total_elements", Decimal.digits p.total, total)]
    fun f member => by
      simp only [List.mem_cons, List.not_mem_nil, or_false] at member
      obtain rfl | rfl | rfl := member
      · exact items.legible
      · exact (Json.Clean.bool p.hasNext).legible
      · exact count
  unfold pageJson Page.json
  rw [Json.chars_obj]
  simpa only [List.map_cons, List.map_nil, Json.fieldText, Json.ofNat, Json.chars_nat] using legible

theorem pageOfJson_fields {items : List Schedule} {hasNext : Bool} {total : Json} {q : Page Schedule}
    (h : pageOfJson? (.obj [("schedules", .arr (items.map Schedule.json)), ("has_next", .bool hasNext),
      ("total_elements", total)]) = some q) :
    ∃ n, Json.nat? 64 total = some n ∧ q = ⟨items, hasNext, n⟩ := by
  have listed : Json.list? Schedule.ofJson? (.arr (items.map Schedule.json)) = some items :=
    mapM_ofJson items
  obtain ⟨read, itemsRead, h⟩ := Option.bind_eq_some_iff.1 h
  cases listed.symm.trans itemsRead
  obtain ⟨yes, isBool, h⟩ := Option.bind_eq_some_iff.1 h
  obtain ⟨n, counted, h⟩ := Option.bind_eq_some_iff.1 h
  cases isBool
  exact ⟨n, counted, (Option.some.inj h).symm⟩

/-- A page that can be read is the page that was written. -/
theorem pageOfJson_read {p q : Page Schedule}
    (h : (Json.read (pageJson p).write).bind pageOfJson? = some q) : q = p := by
  rw [read_pageJson, Option.bind_some] at h
  obtain ⟨n, counted, rfl⟩ := pageOfJson_fields h
  rw [Json.nat_numeral counted]

end Shared
end Upkeep
