import Upkeep.Deployment
import Upkeep.Proofs.Calendar.Stored
import Upkeep.Proofs.Wire.Exact
import Upkeep.Schedule.Convert

/-! Times from end to end. What the inventory stamps at some millisecond is shown to callers as that millisecond and
is read by them as such; and a filter that compares stamps compares the milliseconds. -/
namespace Upkeep
open Calendar (Instant stamp readStamp endOfStamps)
open Upkeep.Filter (Value Comparison Expr)

namespace Filter
variable {field : String → Field} {path : String} {actual value : Value} {o : Ordering}

/-- Texts that are in order as numbers are compare as the numbers. -/
theorem order_texts {s t : String} {a b : Nat} (before : a < b → s < t) (same : a = b → s = t) (after : b < a → t < s) :
    (Value.text s).order? (.text t) = some (compare a b) := by
  change some (if s = t then Ordering.eq else if s < t then .lt else .gt) = _
  rcases Nat.lt_trichotomy a b with first | equal | last
  · have apart : s ≠ t := fun same => String.lt_irrefl t (same ▸ before first)
    rw [if_neg apart, if_pos (before first), Nat.compare_eq_lt.2 first]
  · rw [if_pos (same equal), Nat.compare_eq_eq.2 equal]
  · have apart : s ≠ t := fun same => String.lt_irrefl t (same ▸ after last)
    rw [if_neg apart, if_neg (String.lt_asymm (after last)), Nat.compare_eq_gt.2 last]

/-- A comparison holds as the field and the value are in order. -/
theorem eval_compare (op : Comparison) (known : field path = .value actual) (ordered : actual.order? value = some o) :
    (Expr.compare path op value).eval field = .ok (op.holds o) := by
  simp only [Expr.eval, known, ordered]

end Filter

namespace Calendar
variable {a b : Nat}

theorem exact_ofMillis (ms : Nat) : (Instant.ofMillis ms).Exact := by
  unfold Instant.Exact Instant.ofMillis
  dsimp only
  omega

theorem order_stamps (earlyA : a < endOfStamps) (earlyB : b < endOfStamps) :
    (Value.text (stamp (.ofMillis a))).order? (.text (stamp (.ofMillis b))) = some (compare a b) :=
  Filter.order_texts (stamp_lt earlyA earlyB) (congrArg fun ms => stamp (.ofMillis ms)) (stamp_lt earlyB earlyA)

end Calendar

namespace Wire.Times

theorem ofStamps_ofMillis {a b : Nat} (earlyA : a < endOfStamps) (earlyB : b < endOfStamps) :
    ofStamps (stamp (.ofMillis a)) (stamp (.ofMillis b)) = ⟨some (.ofMillis a), some (.ofMillis b)⟩ := by
  rw [ofStamps, Calendar.readStamp_ofMillis earlyA, Calendar.readStamp_ofMillis earlyB, Option.getD_some,
    Option.getD_some]

/-- Times are read from the text of their JSON exactly. -/
theorem read_back {t : Times} (exact : ∀ i ∈ t.instants, i.Exact) :
    (Json.read t.json.write).bind ofJson? = some t := by
  rw [Json.read_write t.clean_json.legible, Option.bind_some, t.ofJson_json, normal_exact exact]

end Wire.Times

namespace Deployment

/-- Until the end of the year 9999 what is stamped is read as it was, shown as it was, and in order. -/
theorem stamps_kept (d e : Deployment) (early : d.now < endOfStamps) (late : e.now < endOfStamps) :
    let shown : Wire.Times :=
      ⟨some ⟨(d.now / 1000 : Nat), d.now % 1000 * 1000000⟩, some ⟨(e.now / 1000 : Nat), e.now % 1000 * 1000000⟩⟩
    readStamp d.time = shown.createdAt ∧ Wire.Times.ofStamps d.time e.time = shown ∧
      (Json.read shown.json.write).bind Wire.Times.ofJson? = some shown ∧
      (Value.text d.time).order? (.text e.time) = some (compare d.now e.now) ∧
      ∀ (s : Schedule) (op : Comparison),
        (s.createdAt = d.time → (Expr.compare "created_at" op (.text e.time)).eval s.field =
          .ok (op.holds (compare d.now e.now))) ∧
        (s.updatedAt = d.time → (Expr.compare "updated_at" op (.text e.time)).eval s.field =
          .ok (op.holds (compare d.now e.now))) := by
  intro shown
  have ordered := Calendar.order_stamps early late
  have exact : ∀ i ∈ shown.instants, i.Exact := by
    intro i member
    rcases List.mem_append.1 member with created | updated
    · cases Option.mem_toList.1 created
      exact Calendar.exact_ofMillis d.now
    · cases Option.mem_toList.1 updated
      exact Calendar.exact_ofMillis e.now
  refine ⟨Calendar.readStamp_ofMillis early, Wire.Times.ofStamps_ofMillis early late, Wire.Times.read_back exact,
    ordered, ?_⟩
  intro s op
  constructor
  · intro created
    exact Filter.eval_compare op (congrArg Field.ofText created) ordered
  · intro updated
    exact Filter.eval_compare op (congrArg Field.ofText updated) ordered

/-- The last millisecond of a leap day. -/
def leapDay : Deployment := { now := 951868799999, cache := .memory ⟨0, 0⟩ {} }

/-- The last millisecond before stamps get longer. -/
def lastDay : Deployment := { now := 253402300799999, cache := .memory ⟨0, 0⟩ {} }

theorem stamps_kept_leapDay :
    leapDay.time = "2000-02-29T23:59:59.999Z" ∧ lastDay.time = "9999-12-31T23:59:59.999Z" ∧
      readStamp leapDay.time = some ⟨951868799, 999000000⟩ ∧
      Wire.Times.ofStamps leapDay.time lastDay.time =
        ⟨some ⟨951868799, 999000000⟩, some ⟨253402300799, 999000000⟩⟩ ∧
      (Value.text leapDay.time).order? (.text lastDay.time) = some .lt := by
  have leap : leapDay.time = "2000-02-29T23:59:59.999Z" := rfl
  have last : lastDay.time = "9999-12-31T23:59:59.999Z" := rfl
  obtain ⟨read, shown, -, ordered, -⟩ := stamps_kept leapDay lastDay (by decide) (by decide)
  exact ⟨leap, last, read, shown, ordered⟩

end Deployment
end Upkeep
