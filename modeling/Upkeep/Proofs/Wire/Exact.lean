import Upkeep.Proofs.Wire.Record

/-! What callers see is read from its JSON exactly. An instant is in its normal form where it has less than a second
of nanoseconds, whatever year it is in; what is left out of the JSON is what a reader takes for granted. -/
namespace Upkeep

namespace Calendar.Instant

def Exact (t : Instant) : Prop := t.nanos < 1000000000

instance (t : Instant) : Decidable t.Exact := inferInstanceAs (Decidable (_ < _))

theorem Exact.normal {t : Instant} (exact : t.Exact) : t.normal = t := by
  have whole : t.nanos / 1000000000 = 0 := Nat.div_eq_of_lt exact
  have rest : t.nanos % 1000000000 = t.nanos := Nat.mod_eq_of_lt exact
  simp only [Instant.normal, whole, rest, Int.natCast_zero, Int.add_zero]

end Calendar.Instant

namespace Json

/-- An object with a value under each name that has one, and nothing under the others. -/
def Lists (j : Json) (cells : List (String × Option Json)) : Prop :=
  ∃ fs, j = .obj fs ∧ ∀ name held, (name, held) ∈ cells → Table.look name fs = held

theorem lists_present {cells : List (String × Option Json)} (distinct : (cells.map (·.1)).Nodup) :
    (Json.obj (present cells)).Lists cells :=
  ⟨_, rfl, fun _ _ member => look_present distinct member⟩

end Json

namespace Wire
open Calendar (Instant)

/-- A record stays as it is where it has no times, or times that stay. -/
theorem map_normal {α : Type} {normal : α → α} {o : Option α} (each : ∀ a, o = some a → normal a = a) :
    o.map normal = o := by
  cases o with
  | none => rfl
  | some a => exact congrArg some (each a rfl)

namespace Times

def instants (t : Times) : List Instant := t.createdAt.toList ++ t.updatedAt.toList

theorem normal_exact {t : Times} (exact : ∀ i ∈ t.instants, i.Exact) : t.normal = t := by
  have created : t.createdAt.map Instant.normal = t.createdAt := map_normal fun i here =>
    (exact i (List.mem_append_left _ (Option.mem_toList.2 here))).normal
  have updated : t.updatedAt.map Instant.normal = t.updatedAt := map_normal fun i here =>
    (exact i (List.mem_append_right _ (Option.mem_toList.2 here))).normal
  rw [normal, created, updated]

/-- The times of a record that has them. -/
theorem map_normal_exact {o : Option Times} (exact : ∀ i ∈ o.toList.flatMap instants, i.Exact) :
    o.map normal = o := by
  apply map_normal
  rintro t rfl
  exact normal_exact fun i here => exact i (List.mem_flatMap.2 ⟨t, List.mem_singleton.2 rfl, here⟩)

end Times

namespace Schedule

/-- All times that a schedule shows, its own and those of its target. -/
def shownTimes (s : Schedule) : List Times :=
  s.times.toList ++ (s.site.bind Site.times).toList ++ (s.host.bind Host.times).toList ++
    (s.region.bind Region.times).toList

def instants (s : Schedule) : List Instant := s.shownTimes.flatMap Times.instants

theorem normal_exact {s : Schedule} (exact : ∀ t ∈ s.instants, t.Exact) : s.normal = s := by
  have within {o : Option Times} (shown : ∀ t ∈ o, t ∈ s.shownTimes) : o.map Times.normal = o := by
    apply Times.map_normal_exact
    intro i member
    obtain ⟨t, here, member⟩ := List.mem_flatMap.1 member
    exact exact i (List.mem_flatMap.2 ⟨t, shown t (Option.mem_toList.1 here), member⟩)
  have times : s.times.map Times.normal = s.times := within (by simp +contextual [shownTimes])
  have site : s.site.map Site.normal = s.site := map_normal fun a here => by
    rw [Site.normal, within (o := a.times) (by simp +contextual [shownTimes, here])]
  have host : s.host.map Host.normal = s.host := map_normal fun a here => by
    rw [Host.normal, within (o := a.times) (by simp +contextual [shownTimes, here])]
  have region : s.region.map Region.normal = s.region := map_normal fun a here => by
    rw [Region.normal, within (o := a.times) (by simp +contextual [shownTimes, here])]
  rw [normal, site, host, region, times]

/-- A schedule is read from its JSON, and from the text of it, exactly as it was, although an empty text and an
absent record have no place there. -/
theorem read_exact (s : Schedule) (exact : ∀ t ∈ s.instants, t.Exact) :
    (Json.read s.json.write).bind ofJson? = some s ∧ ofJson? s.json = some s ∧ s.json.Lists s.cells ∧
      (∀ host, s.host = some host → host.json.Lists host.cells) ∧
      (∀ site, s.site = some site → site.json.Lists site.cells) ∧
      (∀ region, s.region = some region → region.json.Lists region.cells) ∧
      ∀ times ∈ s.shownTimes, times.json.Lists times.cells := by
  have same := normal_exact exact
  refine ⟨s.read_write.trans (congrArg some same), s.ofJson_json.trans (congrArg some same), ?_, ?_, ?_, ?_, ?_⟩
  · exact s.json_cells ▸ Json.lists_present s.distinct
  · exact fun host _ => host.json_cells ▸ Json.lists_present host.distinct
  · exact fun site _ => site.json_cells ▸ Json.lists_present site.distinct
  · exact fun region _ => region.json_cells ▸ Json.lists_present region.distinct
  · exact fun times _ => times.json_cells ▸ Json.lists_present times.distinct

/-- A schedule with all three targets, and instants that need no, three, six and nine digits of fraction, in the
first year and in the last of four digits. -/
def crammed : Schedule where
  id := "singlesche-00000003"
  name := "caf\u00e9 \"9\" \\ \n"
  finish := 4294967295
  scheduleId := "singlesche-00000003"
  hostId := "host-00000001"
  host := some
    { id := "host-00000001", siteId := "site-00000002", times := some { createdAt := some ⟨-62135596800, 0⟩ } }
  site := some { siteId := "site-00000002", times := some ⟨some ⟨253402300799, 999999999⟩, some ⟨1, 250000⟩⟩ }
  region := some { times := some {} }
  times := some { updatedAt := some ⟨1704067200, 5000000⟩ }

theorem read_exact_crammed :
    (∀ t ∈ crammed.instants, t.Exact) ∧ (Json.read crammed.json.write).bind ofJson? = some crammed ∧
      ofJson? crammed.json = some crammed ∧ crammed.json.Lists crammed.cells := by
  have exact : ∀ t ∈ crammed.instants, t.Exact := by decide
  obtain ⟨read, decoded, lists, -⟩ := read_exact crammed exact
  exact ⟨exact, read, decoded, lists⟩

end Schedule
end Wire
end Upkeep
