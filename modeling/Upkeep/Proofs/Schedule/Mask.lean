import Upkeep.Proofs.Schedule.Named

/-! Masks, from the fields that a caller names to the ones that change. A mask that names something
lets nothing change that it does not name; the mask of all fields, and the empty one in its place,
let all of them change. -/
namespace Upkeep

namespace Schedule

/-- What an update keeps of a schedule, where it names only some of the fields. -/
structure Kept (named : Patchable → Prop) (before after : Schedule) : Prop where
  name : ¬ named .name → after.name = before.name
  status : ¬ named .status → after.status = before.status
  start : ¬ named .start → after.start = before.start
  finish : ¬ named .finish → after.finish = before.finish
  target : ¬ named .host → ¬ named .site → ¬ named .region → after.target = before.target

/-- What an update leaves of a schedule that takes all it can from another. -/
structure Replaced (incoming after : Schedule) : Prop where
  name : after.name = incoming.name
  status : after.status = incoming.status
  start : after.start = incoming.start
  finish : after.finish = incoming.finish
  target : after.target = incoming.target.map Target.stub

namespace Kept
variable {named wider : Patchable → Prop} {before current next incoming : Schedule}

theorem refl (named : Patchable → Prop) (s : Schedule) : Kept named s s :=
  ⟨fun _ => rfl, fun _ => rfl, fun _ => rfl, fun _ => rfl, fun _ _ _ => rfl⟩

theorem widen (kept : Kept named before next) (each : ∀ p, named p → wider p) : Kept wider before next where
  name other := kept.name fun h => other (each _ h)
  status other := kept.status fun h => other (each _ h)
  start other := kept.start fun h => other (each _ h)
  finish other := kept.finish fun h => other (each _ h)
  target noHost noSite noRegion :=
    kept.target (fun h => noHost (each _ h)) (fun h => noSite (each _ h)) fun h => noRegion (each _ h)

theorem assignEdge (kept : Kept named before current) (edge : String)
    (listed : named .host ∨ named .site ∨ named .region) :
    Kept named before (assignEdge incoming current edge) := by
  obtain ⟨target, eq, -⟩ := assignEdge_cases incoming current edge
  rw [eq]
  refine ⟨kept.name, kept.status, kept.start, kept.finish, fun noHost noSite noRegion => ?_⟩
  exact (listed.elim noHost fun rest => rest.elim noSite noRegion).elim

/-- One more path of a mask changes its own field. -/
theorem assign {path : String} (kept : Kept named before current)
    (listed : ∀ p : Patchable, p.path = path → named p)
    (done : Schedule.assign incoming current path = .ok next) : Kept named before next := by
  unfold Schedule.assign at done
  split at done <;> cases done
  · exact ⟨fun other => absurd (listed .name rfl) other, kept.status, kept.start, kept.finish, kept.target⟩
  · exact ⟨kept.name, fun other => absurd (listed .status rfl) other, kept.start, kept.finish, kept.target⟩
  · exact ⟨kept.name, kept.status, fun other => absurd (listed .start rfl) other, kept.finish, kept.target⟩
  · exact ⟨kept.name, kept.status, kept.start, fun other => absurd (listed .finish rfl) other, kept.target⟩
  · exact kept.assignEdge _ (.inl (listed .host rfl))
  · exact kept.assignEdge _ (.inr (.inl (listed .site rfl)))
  · exact kept.assignEdge _ (.inr (.inr (listed .region rfl)))

end Kept

variable {current incoming updated : Schedule} {mask : List String}

theorem applyMask_kept (given : mask ≠ []) (done : current.applyMask incoming mask = .ok updated) :
    Kept (fun p => p.path ∈ mask) current updated := by
  refine applyMask_keeps (Kept.refl _ current) ?_ done
  intro path within s next kept first
  have listed := within.resolve_left given
  exact kept.assign (fun p same => same ▸ listed) first

/-- The mask of all fields, and the empty one in its place, take over all that can change. -/
theorem applyMask_all {mask : List String} (all : mask = [] ∨ mask = Mask.full) (current incoming : Schedule) :
    current.applyMask incoming mask = .ok
      { current with
        name := incoming.name, status := incoming.status, start := incoming.start
        finish := incoming.finish, target := incoming.target.map Target.stub } := by
  rcases all with rfl | rfl
  · rw [applyMask_empty, taken_all fun _ member => member]
  · rw [applyMask_taken (by decide) (by decide), taken_all (by decide)]

end Schedule

namespace Mask
variable {fields other before paths : List String} {field : String} {strict : Bool}

theorem ofField_eq_some {p : Patchable} : Patchable.ofField? field = some p ↔ p.field = field := by
  constructor
  · intro known
    have found := List.find?_some known
    exact of_decide_eq_true found
  · rintro rfl
    cases p <;> rfl

theorem mem_add {path q : String} : q ∈ add paths path ↔ q ∈ paths ∨ q = path := by
  unfold add
  split
  · next there =>
    refine ⟨.inl, fun member => member.elim id ?_⟩
    rintro rfl
    exact there
  · simp

theorem path_inj {p q : Patchable} (same : p.path = q.path) : p = q := by
  cases p <;> cases q <;> first | rfl | exact absurd same (by decide)

theorem field_inj {p q : Patchable} (same : p.field = q.field) : p = q := by
  cases p <;> cases q <;> first | rfl | exact absurd same (by decide)

theorem path_mutable (p : Patchable) : p.path ∈ mutableFields := by
  cases p <;> decide

theorem exists_path {q : String} (mutable : q ∈ mutableFields) : ∃ p : Patchable, p.path = q := by
  have listed : ∀ q ∈ mutableFields, q ∈ full := by decide
  obtain ⟨p, -, path⟩ := List.mem_map.1 (listed q mutable)
  exact ⟨p, path⟩

/-- The paths of the fields that are named. -/
def named (fields : List String) : List String := (Patchable.all.filter (·.field ∈ fields)).map (·.path)

theorem mem_named {q : String} : q ∈ named fields ↔ ∃ p : Patchable, p.path = q ∧ p.field ∈ fields := by
  have each (p : Patchable) : p ∈ Patchable.all := by cases p <;> decide
  simp only [named, List.mem_map, List.mem_filter, each, true_and, decide_eq_true_eq]
  exact ⟨fun ⟨p, listed, path⟩ => ⟨p, path, listed⟩, fun ⟨p, path, listed⟩ => ⟨p, listed, path⟩⟩

theorem path_mem_named {p : Patchable} : p.path ∈ named fields ↔ p.field ∈ fields := by
  rw [mem_named]
  exact ⟨fun ⟨q, path, listed⟩ => path_inj path ▸ listed, fun listed => ⟨p, rfl, listed⟩⟩

theorem mem_named_cons {q : String} :
    q ∈ named (field :: fields) ↔ (∃ p : Patchable, p.path = q ∧ p.field = field) ∨ q ∈ named fields := by
  simp only [mem_named, List.mem_cons, and_or_left, exists_or]

theorem named_congr (same : ∀ p : Patchable, p.field ∈ fields ↔ p.field ∈ other) : named fields = named other := by
  simp only [named, same]

theorem named_mutable : ∀ q ∈ named fields, q ∈ mutableFields := by
  intro q member
  obtain ⟨p, rfl, -⟩ := mem_named.1 member
  exact path_mutable p

/-- A mask that is not refused: it names a field that can change, and no other where that is not allowed. -/
structure Allowed (strict : Bool) (fields : List String) : Prop where
  some : ∃ p : Patchable, p.field ∈ fields
  known : strict = true → ∀ field ∈ fields, ∃ p : Patchable, p.field = field

/-- A mask that is refused, for it names nothing that can change, or what it must not name. -/
inductive Refused (strict : Bool) (fields : List String) : Prop
  | nothing : (∀ p : Patchable, p.field ∉ fields) → Refused strict fields
  | unknown (name : String) : strict = true → name ∈ fields → (∀ p : Patchable, p.field ≠ name) →
    Refused strict fields

theorem allowed_or_refused (strict : Bool) (fields : List String) :
    Allowed strict fields ∨ Refused strict fields := by
  by_cases some : ∃ p : Patchable, p.field ∈ fields
  · by_cases unknown : strict = true ∧ ∃ field ∈ fields, ∀ p : Patchable, p.field ≠ field
    · obtain ⟨tight, field, member, foreign⟩ := unknown
      exact .inr (.unknown field tight member foreign)
    · refine .inl ⟨some, fun tight field member => Classical.byContradiction fun foreign => ?_⟩
      exact unknown ⟨tight, field, member, fun p same => foreign ⟨p, same⟩⟩
  · exact .inr (.nothing fun p member => some ⟨p, member⟩)

theorem translateField_known (p : Patchable) : translateField strict paths p.field = .ok (add paths p.path) := by
  unfold translateField
  rw [ofField_eq_some.2 rfl]

theorem translateField_unknown (strict : Bool) (paths : List String) (unknown : ∀ p : Patchable, p.field ≠ field) :
    (strict = false → translateField strict paths field = .ok paths) ∧
      (strict = true → ∃ e, translateField strict paths field = .error e ∧ e.code = .invalidArgument) := by
  have none : Patchable.ofField? field = none :=
    Option.eq_none_iff_forall_not_mem.2 fun p known => unknown p (ofField_eq_some.1 known)
  unfold translateField
  rw [none]
  constructor
  · rintro rfl
    rfl
  · rintro rfl
    exact ⟨_, rfl, rfl⟩

/-- The paths that are found are those of the fields that are named. -/
theorem translateFields_ok (before : List String)
    (known : strict = true → ∀ field ∈ fields, ∃ p : Patchable, p.field = field) :
    ∃ paths, fields.foldlM (translateField strict) before = .ok paths ∧
      ∀ q, q ∈ paths ↔ q ∈ before ∨ q ∈ named fields := by
  induction fields generalizing before with
  | nil => exact ⟨before, rfl, fun q => by simp [named]⟩
  | cons field rest ih =>
      have later : strict = true → ∀ field ∈ rest, ∃ p : Patchable, p.field = field :=
        fun tight f member => known tight f (List.mem_cons_of_mem _ member)
      rw [List.foldlM_cons]
      by_cases one : ∃ p : Patchable, p.field = field
      · obtain ⟨p, rfl⟩ := one
        obtain ⟨paths, done, each⟩ := ih (add before p.path) later
        have own {q : String} : (∃ r : Patchable, r.path = q ∧ r.field = p.field) ↔ q = p.path :=
          ⟨fun ⟨_, path, same⟩ => field_inj same ▸ path.symm, fun same => ⟨p, same.symm, rfl⟩⟩
        rw [translateField_known]
        refine ⟨paths, done, fun q => ?_⟩
        rw [each, mem_add, mem_named_cons, own, or_assoc]
      · have lenient : strict = false := Bool.eq_false_iff.2 fun tight => one (known tight _ List.mem_cons_self)
        obtain ⟨paths, done, each⟩ := ih before later
        rw [(translateField_unknown strict before fun p same => one ⟨p, same⟩).1 lenient]
        refine ⟨paths, done, fun q => ?_⟩
        rw [each, mem_named_cons]
        exact or_congr_right ⟨.inr, fun member => member.resolve_left fun ⟨p, _, same⟩ => one ⟨p, same⟩⟩

/-- Where only known fields may be named, an unknown one is refused wherever it stands. -/
theorem translateFields_refused (before : List String)
    (unknown : ∃ field ∈ fields, ∀ p : Patchable, p.field ≠ field) :
    ∃ e, fields.foldlM (translateField true) before = .error e ∧ e.code = .invalidArgument := by
  induction fields generalizing before with
  | nil =>
      obtain ⟨field, member, -⟩ := unknown
      cases member
  | cons field rest ih =>
      rw [List.foldlM_cons]
      by_cases one : ∃ p : Patchable, p.field = field
      · obtain ⟨p, rfl⟩ := one
        obtain ⟨other, member, foreign⟩ := unknown
        have later := (List.mem_cons.1 member).resolve_left fun same => foreign p same.symm
        rw [translateField_known]
        exact ih _ ⟨other, later, foreign⟩
      · obtain ⟨e, failed, code⟩ :=
          (translateField_unknown true before fun p same => one ⟨p, same⟩).2 rfl
        rw [failed]
        exact ⟨e, rfl, code⟩

theorem translate_fields (given : fields ≠ []) : translate (some fields) strict = (do
    let paths ← fields.foldlM (translateField strict) []
    if paths.isEmpty then
      throw (.invalidArgument "field mask does not name any patchable single schedule field")
    return paths) := by
  obtain ⟨field, rest, rfl⟩ := List.exists_cons_of_ne_nil given
  rfl

/-- A mask that is not refused is translated to the paths of the fields that it names. -/
theorem translate_allowed (allowed : Allowed strict fields) :
    ∃ paths, translate (some fields) strict = .ok paths ∧ paths ≠ [] ∧ ∀ q, q ∈ paths ↔ q ∈ named fields := by
  obtain ⟨p, listed⟩ := allowed.some
  obtain ⟨paths, done, each⟩ := translateFields_ok [] allowed.known
  have given : paths ≠ [] := List.ne_nil_of_mem ((each _).2 (.inr (path_mem_named.2 listed)))
  refine ⟨paths, ?_, given, fun q => by simpa using each q⟩
  rw [translate_fields (List.ne_nil_of_mem listed), done]
  refine Answer.bind_ok.2 ⟨paths, rfl, ?_⟩
  rw [if_neg (by simpa using given)]
  rfl

theorem translate_refused (given : fields ≠ []) (refused : Refused strict fields) :
    ∃ e, translate (some fields) strict = .error e ∧ e.code = .invalidArgument := by
  rw [translate_fields given]
  cases refused with
  | nothing none =>
      cases strict with
      | true =>
          obtain ⟨field, member⟩ := List.exists_mem_of_ne_nil fields given
          obtain ⟨e, failed, code⟩ :=
            translateFields_refused [] ⟨field, member, fun p same => none p (same ▸ member)⟩
          rw [failed]
          exact ⟨e, rfl, code⟩
      | false =>
          obtain ⟨paths, done, each⟩ := @translateFields_ok fields false [] nofun
          have empty : paths = [] := List.eq_nil_iff_forall_not_mem.2 fun q member => by
            obtain ⟨p, -, listed⟩ := mem_named.1 (((each q).1 member).resolve_left List.not_mem_nil)
            exact none p listed
          rw [done, empty]
          exact ⟨_, rfl, rfl⟩
  | unknown field tight member foreign =>
      subst tight
      obtain ⟨e, failed, code⟩ := translateFields_refused [] ⟨_, member, foreign⟩
      rw [failed]
      exact ⟨e, rfl, code⟩

/-- A mask of fields is translated only if it is not refused. -/
theorem translate_ok (given : fields ≠ []) (done : translate (some fields) strict = .ok paths) :
    paths ≠ [] ∧ ∀ q, q ∈ paths ↔ q ∈ named fields := by
  rcases allowed_or_refused strict fields with allowed | refused
  · obtain ⟨found, translated, each⟩ := translate_allowed allowed
    cases translated.symm.trans done
    exact each
  · obtain ⟨e, failed, -⟩ := translate_refused given refused
    cases failed.symm.trans done

end Mask

/-- What a caller's mask is translated to takes over what the mask names. -/
theorem Schedule.applyMask_translated {fields paths : List String} (given : paths ≠ [])
    (each : ∀ q, q ∈ paths ↔ q ∈ Mask.named fields) (current incoming : Schedule) :
    current.applyMask incoming paths = .ok (current.taken incoming (Mask.named fields)) := by
  rw [applyMask_taken given fun q member => Mask.named_mutable q ((each q).1 member), taken_congr each]

namespace Partition
variable {p : Partition} {now : String} {mask : List String} {current incoming updated : Schedule}

theorem revise_kept (given : mask ≠ []) (done : p.revise now mask current incoming = .ok updated) :
    Schedule.Kept (fun f => f.path ∈ mask) current updated := by
  obtain ⟨masked, applied, -, -, rfl⟩ := revise_steps done
  have kept := Schedule.applyMask_kept given applied
  exact ⟨kept.name, kept.status, kept.start, kept.finish, kept.target⟩

theorem revise_replaced (all : mask = [] ∨ mask = Mask.full)
    (done : p.revise now mask current incoming = .ok updated) : Schedule.Replaced incoming updated := by
  obtain ⟨masked, applied, -, -, rfl⟩ := revise_steps done
  rw [Schedule.applyMask_all all] at applied
  cases applied
  exact ⟨rfl, rfl, rfl, rfl, rfl⟩

end Partition
end Upkeep
