import Upkeep.Inventory.Fields
import Upkeep.Proofs.Filter.Meaning

/-! Types in the filter language. Every kind of resource has a table of fields, each with its type, and
looking a path up in a resource keeps to the table. Judged from left to right, an expression comes to its
truth value, unless it meets a path that is not in the table or a literal that has another type than its
field. An expression that is well typed meets neither. -/
namespace Upkeep
open Upkeep.Filter (Value)

inductive FieldType where
  | text
  | number
  deriving DecidableEq

def Filter.Value.type : Value → FieldType
  | .text _ => .text
  | .number _ => .number

/-- The fields that a filter can name. An edge is of the type of the ID that it holds. -/
def Kind.fields : Kind → List (String × FieldType)
  | .schedule =>
      [("resource_id", .text), ("name", .text), ("tenant_id", .text), ("schedule_status", .number),
        ("start_seconds", .number), ("end_seconds", .number), ("created_at", .text), ("updated_at", .text)] ++
      edges.flatMap fun edge => [(edge, .text), (edge ++ ".resource_id", .text)]
  | .host => [("resource_id", .text), ("name", .text), ("uuid", .text), ("site_id", .text), ("tenant_id", .text)]
  | .site =>
      [("resource_id", .text), ("name", .text), ("region_id", .text), ("address", .text), ("tenant_id", .text)]
  | .region => [("resource_id", .text), ("name", .text), ("parent_id", .text), ("tenant_id", .text)]

def Kind.paths (k : Kind) : List String := k.fields.map (·.1)

/-- What a resource has for a field of a type. -/
def Filter.Field.Fits (type : FieldType) : Filter.Field → Prop
  | .unknown => False
  | .unset => True
  | .value v => v.type = type

theorem Schedule.edgeField_fits (s : Schedule) (edge : String) : (s.edgeField edge).Fits .text := by
  unfold edgeField
  cases s.target with
  | none => trivial
  | some t =>
      dsimp only
      split
      · rfl
      · trivial

theorem edgeOfPath_some {path edge : String} (means : edgeOfPath path = some edge) :
    edge ∈ edges ∧ (path = edge ∨ path = edge ++ ".resource_id") := by
  unfold edgeOfPath at means
  cases split : Text.splitOnce '.' path.toList with
  | none =>
      simp only [split, true_and, Option.ite_none_right_eq_some, Option.some.injEq] at means
      obtain ⟨known, rfl⟩ := means
      exact ⟨known, .inl rfl⟩
  | some parts =>
      obtain ⟨front, back⟩ := parts
      simp only [split, Option.ite_none_right_eq_some, Option.some.injEq] at means
      obtain ⟨⟨field, known⟩, rfl⟩ := means
      have whole := Text.splitOnce_join split
      refine ⟨known, .inr (String.toList_injective ?_)⟩
      rw [whole, String.toList_append, String.toList_ofList, ← String.toList_ofList (l := back), field]
      rfl

namespace Resource
variable {r : Resource}

/-- The fields of the table are fields of every resource of the kind. -/
theorem field_fits : ∀ f ∈ r.kind.fields, (r.field f.1).Fits f.2 := by
  cases r with
  | schedule s =>
      refine List.forall_mem_append.2 ⟨?_, ?_⟩
      · simp only [List.forall_mem_cons]
        exact ⟨rfl, rfl, rfl, rfl, rfl, rfl, rfl, rfl, nofun⟩
      · have edge := s.edgeField_fits
        simp only [edges, List.flatMap_cons, List.flatMap_nil, List.forall_mem_append, List.forall_mem_cons]
        exact ⟨⟨edge _, edge _, nofun⟩, ⟨edge _, edge _, nofun⟩, ⟨edge _, edge _, nofun⟩, nofun⟩
  | host h | site s =>
      simp only [kind, Kind.fields, List.forall_mem_cons]
      exact ⟨rfl, rfl, rfl, rfl, rfl, nofun⟩
  | region r =>
      simp only [kind, Kind.fields, List.forall_mem_cons]
      exact ⟨rfl, rfl, rfl, rfl, nofun⟩

theorem field_of_path {path : String} (listed : path ∈ r.kind.paths) :
    ∃ type, (path, type) ∈ r.kind.fields ∧ (r.field path).Fits type := by
  obtain ⟨⟨path, type⟩, member, rfl⟩ := List.mem_map.1 listed
  exact ⟨type, member, field_fits _ member⟩

/-- No other path is a field. -/
theorem field_unknown {path : String} (unlisted : path ∉ r.kind.paths) : r.field path = .unknown := by
  cases r with
  | schedule s =>
      -- The paths that stand for edges are all in the table.
      have edge : edgeOfPath path = none := by
        cases means : edgeOfPath path with
        | none => rfl
        | some edge =>
            obtain ⟨known, named⟩ := edgeOfPath_some means
            have listed : path ∈ Kind.schedule.paths := by
              simp only [edges, List.mem_cons, List.not_mem_nil, or_false] at known
              rcases known with rfl | rfl | rfl <;> rcases named with rfl | rfl <;> decide
            exact absurd listed unlisted
      dsimp only [kind, field, Schedule.field] at unlisted ⊢
      split
      case h_9 => rw [edge]
      all_goals exact absurd (by decide) unlisted
  | host h | site s | region r =>
      dsimp only [kind, field, Host.field, Site.field, Region.field] at unlisted ⊢
      split
      all_goals first
        | rfl
        | exact absurd (by decide) unlisted

end Resource

namespace Filter

/-- Values of two types are in no order. -/
instance : LT Value where
  lt
    | .text a, .text b => a < b
    | .number a, .number b => a < b
    | _, _ => False

instance : DecidableLT Value
  | .text a, .text b => inferInstanceAs (Decidable (a < b))
  | .number a, .number b => inferInstanceAs (Decidable (a < b))
  | .text _, .number _ => isFalse id
  | .number _, .text _ => isFalse id

@[simp] theorem Value.text_lt {a b : String} : Value.text a < .text b ↔ a < b := .rfl

@[simp] theorem Value.number_lt {a b : UInt64} : Value.number a < .number b ↔ a < b := .rfl

namespace Comparison

/-- What a comparison says of two values. -/
def Relates {α : Type} [LT α] : Comparison → α → α → Prop
  | .eq, a, b => a = b
  | .ne, a, b => a ≠ b
  | .lt, a, b => a < b
  | .le, a, b => a = b ∨ a < b
  | .gt, a, b => b < a
  | .ge, a, b => a = b ∨ b < a

instance {α : Type} [LT α] [DecidableEq α] [DecidableLT α] (a b : α) :
    (op : Comparison) → Decidable (op.Relates a b)
  | .eq => inferInstanceAs (Decidable (a = b))
  | .ne => inferInstanceAs (Decidable (a ≠ b))
  | .lt => inferInstanceAs (Decidable (a < b))
  | .le => inferInstanceAs (Decidable (a = b ∨ a < b))
  | .gt => inferInstanceAs (Decidable (b < a))
  | .ge => inferInstanceAs (Decidable (a = b ∨ b < a))

theorem holds_iff {α : Type} [LT α] [DecidableEq α] [DecidableLT α]
    [Std.Trichotomous fun a b : α => a < b] [Std.Asymm fun a b : α => a < b] (op : Comparison) (a b : α) :
    op.holds (if a = b then .eq else if a < b then .lt else .gt) = true ↔ op.Relates a b := by
  have asymm {a b : α} : a < b → ¬ b < a := Std.Asymm.asymm (r := (· < ·)) a b
  rcases Std.lt_trichotomy a b with less | rfl | greater
  · have other : a ≠ b := by
      rintro rfl
      exact asymm less less
    rw [if_neg other, if_pos less]
    cases op <;> simp [holds, Relates, less, other, asymm less]
  · have irrefl : ¬ a < a := fun less => asymm less less
    rw [if_pos rfl]
    cases op <;> simp [holds, Relates, irrefl]
  · have other : a ≠ b := by
      rintro rfl
      exact asymm greater greater
    rw [if_neg other, if_neg (asymm greater)]
    cases op <;> simp [holds, Relates, greater, other, asymm greater]

/-- What a comparison with a value says of a field. An unset field differs from every value and is nothing else. -/
def Passes (op : Comparison) (v : Value) : Field → Prop
  | .unknown => False
  | .unset => op = .ne
  | .value actual => op.Relates actual v

instance (op : Comparison) (v : Value) : DecidablePred (op.Passes v)
  | .unknown => isFalse id
  | .unset => inferInstanceAs (Decidable (op = .ne))
  | .value actual => inferInstanceAs (Decidable (op.Relates actual v))

end Comparison

def Field.Present : Field → Prop
  | .value _ => True
  | _ => False

instance : DecidablePred Field.Present
  | .unknown | .unset => isFalse id
  | .value _ => isTrue trivial

theorem Value.order?_of_type {a b : Value} (same : a.type = b.type) :
    ∃ o, a.order? b = some o ∧ ∀ op : Comparison, op.holds o = true ↔ op.Relates a b := by
  cases a with
  | text s =>
      cases b with
      | number m => cases same
      | text t =>
          refine ⟨_, rfl, fun op => (op.holds_iff s t).trans ?_⟩
          cases op <;> simp [Comparison.Relates]
  | number n =>
      cases b with
      | text t => cases same
      | number m =>
          refine ⟨_, rfl, fun op => (op.holds_iff n m).trans ?_⟩
          cases op <;> simp [Comparison.Relates]

theorem Value.order?_none {a b : Value} (other : a.type ≠ b.type) : a.order? b = none := by
  cases a <;> cases b <;> first
    | rfl
    | exact absurd rfl other

namespace Expr

/-- The truth of an expression about a resource. -/
def Holds (r : Resource) : Expr → Prop
  | .all => True
  | .or a b => a.Holds r ∨ b.Holds r
  | .and a b => a.Holds r ∧ b.Holds r
  | .not a => ¬ a.Holds r
  | .has path => (r.field path).Present
  | .compare path op v => op.Passes v (r.field path)

instance decidableHolds (r : Resource) : DecidablePred (Holds r)
  | .all => isTrue trivial
  | .or a b =>
      have := decidableHolds r a
      have := decidableHolds r b
      inferInstanceAs (Decidable (a.Holds r ∨ b.Holds r))
  | .and a b =>
      have := decidableHolds r a
      have := decidableHolds r b
      inferInstanceAs (Decidable (a.Holds r ∧ b.Holds r))
  | .not a =>
      have := decidableHolds r a
      inferInstanceAs (Decidable (¬ a.Holds r))
  | .has path => inferInstanceAs (Decidable (r.field path).Present)
  | .compare path op v => inferInstanceAs (Decidable (op.Passes v (r.field path)))

/-- The faults that are met where an expression is judged from left to right: the right operand of OR is
looked at only where the left one is false, that of AND only where it is true, and a literal only where the
field is set. -/
def Meets (r : Resource) : Expr → EvalFault → Prop
  | .all, _ => False
  | .or a b, f => a.Meets r f ∨ (∀ g, ¬ a.Meets r g) ∧ ¬ a.Holds r ∧ b.Meets r f
  | .and a b, f => a.Meets r f ∨ (∀ g, ¬ a.Meets r g) ∧ a.Holds r ∧ b.Meets r f
  | .not a, f => a.Meets r f
  | .has path, f => path ∉ r.kind.paths ∧ f = .unknownField path
  | .compare path _ v, f =>
      path ∉ r.kind.paths ∧ f = .unknownField path ∨
        path ∈ r.kind.paths ∧ (path, v.type) ∉ r.kind.fields ∧ r.field path ≠ .unset ∧ f = .typeMismatch path

/-- An expression all of whose paths are fields of the kind, compared with literals of their types. -/
def WellTyped (k : Kind) : Expr → Prop
  | .all => True
  | .or a b | .and a b => a.WellTyped k ∧ b.WellTyped k
  | .not a => a.WellTyped k
  | .has path => path ∈ k.paths
  | .compare path _ v => (path, v.type) ∈ k.fields

instance decidableWellTyped (k : Kind) : DecidablePred (WellTyped k)
  | .all => isTrue trivial
  | .or a b | .and a b =>
      have := decidableWellTyped k a
      have := decidableWellTyped k b
      inferInstanceAs (Decidable (a.WellTyped k ∧ b.WellTyped k))
  | .not a => decidableWellTyped k a
  | .has path => inferInstanceAs (Decidable (path ∈ k.paths))
  | .compare path _ v => inferInstanceAs (Decidable ((path, v.type) ∈ k.fields))

/-- What the outcome of judging an expression tells: its truth, or the one fault that is met. -/
def Settles (r : Resource) (e : Expr) : Except EvalFault Bool → Prop
  | .ok b => (b = true ↔ e.Holds r) ∧ ∀ f, ¬ e.Meets r f
  | .error f => ∀ g, e.Meets r g ↔ g = f

variable {r : Resource} {a b e : Expr} {x y : Except EvalFault Bool}

namespace Settles

theorem congr (holds : a.Holds r ↔ b.Holds r) (meets : ∀ f, a.Meets r f ↔ b.Meets r f) (settled : b.Settles r x) :
    a.Settles r x := by
  cases x with
  | ok c => exact ⟨settled.1.trans holds.symm, fun f met => settled.2 f ((meets f).1 met)⟩
  | error f => exact fun g => (meets g).trans (settled g)

/-- Nothing is met after the first fault. -/
theorem fault_iff {f : EvalFault} (left : a.Settles r (.error f)) {later : EvalFault → Prop} (g : EvalFault) :
    (a.Meets r g ∨ (∀ h, ¬ a.Meets r h) ∧ later g) ↔ g = f := by
  have faulty : ¬ ∀ h, ¬ a.Meets r h := fun clear => clear f ((left f).2 rfl)
  rw [or_iff_left fun late => faulty late.1]
  exact left g

theorem or (left : a.Settles r x) (right : b.Settles r y) :
    (Expr.or a b).Settles r (do if ← x then return true else y) := by
  cases x with
  | error f => exact left.fault_iff
  | ok c =>
      obtain ⟨known, clear⟩ := left
      cases c with
      | true =>
          have holds := known.1 rfl
          refine ⟨iff_of_true rfl (.inl holds), fun f met => ?_⟩
          rcases met with early | ⟨-, fails, -⟩
          · exact clear f early
          · exact fails holds
      | false =>
          have fails : ¬ a.Holds r := fun holds => Bool.false_ne_true (known.2 holds)
          refine right.congr (or_iff_right fails) fun f => ?_
          rw [Meets, or_iff_right (clear f), and_iff_right clear, and_iff_right fails]

theorem and (left : a.Settles r x) (right : b.Settles r y) :
    (Expr.and a b).Settles r (do if ← x then y else return false) := by
  cases x with
  | error f => exact left.fault_iff
  | ok c =>
      obtain ⟨known, clear⟩ := left
      cases c with
      | true =>
          have holds := known.1 rfl
          refine right.congr (and_iff_right holds) fun f => ?_
          rw [Meets, or_iff_right (clear f), and_iff_right clear, and_iff_right holds]
      | false =>
          have fails : ¬ a.Holds r := fun holds => Bool.false_ne_true (known.2 holds)
          refine ⟨iff_of_false Bool.false_ne_true fun both => fails both.1, fun f met => ?_⟩
          rcases met with early | ⟨-, holds, -⟩
          · exact clear f early
          · exact fails holds

theorem not (inner : e.Settles r x) : (Expr.not e).Settles r (do return !(← x)) := by
  cases x with
  | error f => exact inner
  | ok c =>
      refine ⟨?_, inner.2⟩
      rw [Holds, ← inner.1]
      cases c <;> simp

theorem has (r : Resource) (path : String) : (Expr.has path).Settles r ((Expr.has path).eval r.field) := by
  unfold eval
  by_cases listed : path ∈ r.kind.paths
  · have clear : ∀ f, ¬ (Expr.has path).Meets r f := fun f met => met.1 listed
    obtain ⟨type, -, fits⟩ := Resource.field_of_path listed
    cases found : r.field path with
    | unknown =>
        rw [found] at fits
        exact fits.elim
    | unset => exact ⟨iff_of_false Bool.false_ne_true (by rw [Holds, found]; exact id), clear⟩
    | value v => exact ⟨iff_of_true rfl (by rw [Holds, found]; trivial), clear⟩
  · rw [Resource.field_unknown listed]
    exact fun g => and_iff_right listed

theorem compare (r : Resource) (path : String) (op : Comparison) (v : Value) :
    (Expr.compare path op v).Settles r ((Expr.compare path op v).eval r.field) := by
  unfold eval
  by_cases listed : path ∈ r.kind.paths
  · have only : ∀ f, (Expr.compare path op v).Meets r f ↔
        (path, v.type) ∉ r.kind.fields ∧ r.field path ≠ .unset ∧ f = .typeMismatch path := by
      intro f
      rw [Meets, or_iff_right fun met => met.1 listed, and_iff_right listed]
    obtain ⟨type, member, fits⟩ := Resource.field_of_path listed
    cases found : r.field path with
    | unknown =>
        rw [found] at fits
        exact fits.elim
    | unset =>
        refine ⟨?_, fun f met => ((only f).1 met).2.1 found⟩
        rw [Holds, found]
        exact beq_iff_eq
    | value actual =>
        rw [found] at fits
        by_cases same : actual.type = v.type
        · obtain ⟨o, ordered, relates⟩ := Value.order?_of_type same
          have typed : (path, v.type) ∈ r.kind.fields := by rwa [← same, show actual.type = type from fits]
          dsimp only
          rw [ordered]
          refine ⟨?_, fun f met => ((only f).1 met).1 typed⟩
          rw [Holds, found]
          exact relates op
        · have mistyped : (path, v.type) ∉ r.kind.fields := by
            intro typed
            have again := Resource.field_fits _ typed
            rw [found] at again
            exact same again
          dsimp only
          rw [Value.order?_none same]
          have held : r.field path ≠ .unset := by simp [found]
          intro g
          rw [only, and_iff_right mistyped, and_iff_right held]
  · rw [Resource.field_unknown listed]
    intro g
    rw [Meets, and_iff_right listed, or_iff_left fun met => listed met.1]

end Settles

theorem eval_settles (r : Resource) (e : Expr) : e.Settles r (e.eval r.field) := by
  induction e with
  | all => exact ⟨iff_of_true rfl trivial, fun _ => id⟩
  | or a b iha ihb => exact iha.or ihb
  | and a b iha ihb => exact iha.and ihb
  | not a ih => exact ih.not
  | has path => exact .has r path
  | compare path op v => exact .compare r path op v

theorem eval_error {f : EvalFault} : e.eval r.field = .error f ↔ e.Meets r f := by
  have settled := eval_settles r e
  cases judged : e.eval r.field with
  | ok b =>
      rw [judged] at settled
      exact iff_of_false nofun (settled.2 f)
  | error g =>
      rw [judged] at settled
      rw [settled f, Except.error.injEq, eq_comm]

/-- Where no fault is met, an expression comes to its truth value. -/
theorem eval_of_clear (clear : ∀ f, ¬ e.Meets r f) : e.eval r.field = .ok (decide (e.Holds r)) := by
  have settled := eval_settles r e
  cases judged : e.eval r.field with
  | ok b =>
      rw [judged] at settled
      rw [Except.ok.injEq, Bool.eq_iff_iff, settled.1, decide_eq_true_iff]
  | error f => exact absurd (eval_error.1 judged) (clear f)

theorem eval_ok_iff : (∃ b, e.eval r.field = .ok b) ↔ ∀ f, ¬ e.Meets r f := by
  constructor
  · rintro ⟨b, judged⟩ f met
    cases judged.symm.trans (eval_error.2 met)
  · exact fun clear => ⟨_, eval_of_clear clear⟩

theorem WellTyped.clear (typed : e.WellTyped r.kind) : ∀ f, ¬ e.Meets r f := by
  induction e with
  | all => exact fun _ => id
  | or a b iha ihb | and a b iha ihb =>
      rintro f (early | ⟨-, -, late⟩)
      · exact iha typed.1 f early
      · exact ihb typed.2 f late
  | not a ih => exact ih typed
  | has path => exact fun f met => met.1 typed
  | compare path op v =>
      rintro f (⟨unlisted, -⟩ | ⟨-, mistyped, -⟩)
      · exact unlisted (List.mem_map_of_mem typed)
      · exact mistyped typed

/-- The path that is looked up first. -/
def firstPath? : Expr → Option String
  | .all => none
  | .or a _ | .and a _ | .not a => a.firstPath?
  | .has path | .compare path _ _ => some path

theorem meets_of_firstPath {path : String} (first : e.firstPath? = some path) (unlisted : path ∉ r.kind.paths) :
    e.Meets r (.unknownField path) := by
  induction e with
  | all => cases first
  | or a b iha | and a b iha => exact .inl (iha first)
  | not a ih => exact ih first
  | has name =>
      cases first
      exact ⟨unlisted, rfl⟩
  | compare name op v =>
      cases first
      exact .inl ⟨unlisted, rfl⟩

end Expr

end Filter
end Upkeep
