import Upkeep.Proofs.Inventory.Partition
import Upkeep.Schedule.Mask

/-! Masks as sets of names. What a mask takes over depends on which fields it names, and not on their
order or on how often they are named: to apply two masks one after the other is to apply both as one. -/
namespace Upkeep

theorem Target.edge_stub (t : Target) : t.stub.edge = t.edge := by cases t <;> rfl

namespace Schedule

/-- The incoming target, if its edge is named, or else the current one, unless its edge is named. -/
def takenTarget (mask : List String) (incoming current : Option Target) : Option Target :=
  match incoming.filter (·.edge ∈ mask) with
  | some t => some t.stub
  | none => current.filter (·.edge ∉ mask)

/-- The schedule with the fields that a mask names taken from the incoming one. -/
def taken (current incoming : Schedule) (mask : List String) : Schedule :=
  { current with
    name := if "name" ∈ mask then incoming.name else current.name
    status := if "schedule_status" ∈ mask then incoming.status else current.status
    start := if "start_seconds" ∈ mask then incoming.start else current.start
    finish := if "end_seconds" ∈ mask then incoming.finish else current.finish
    target := takenTarget mask incoming.target current.target }

variable {current incoming : Schedule} {mask other : List String}

theorem takenTarget_set {incoming : Option Target} {t : Target} (given : incoming = some t)
    (named : t.edge ∈ mask) (current : Option Target) : takenTarget mask incoming current = some t.stub := by
  subst given
  simp [takenTarget, Option.filter_some, named]

theorem takenTarget_unset {incoming : Option Target} (unnamed : ∀ t, incoming = some t → t.edge ∉ mask)
    (current : Option Target) : takenTarget mask incoming current = current.filter (·.edge ∉ mask) := by
  unfold takenTarget
  rw [Option.filter_eq_none_iff.2 fun t given => by simpa using unnamed t given]

/-- The stub of the incoming target is not given up again. -/
theorem takenTarget_append (first second : List String) (incoming current : Option Target) :
    takenTarget second incoming (takenTarget first incoming current) =
      takenTarget (first ++ second) incoming current := by
  by_cases later : ∃ t, incoming = some t ∧ t.edge ∈ second
  · obtain ⟨t, given, named⟩ := later
    rw [takenTarget_set given named, takenTarget_set given (List.mem_append_right _ named)]
  have unnamed : ∀ t, incoming = some t → t.edge ∉ second := fun t given named => later ⟨t, given, named⟩
  rw [takenTarget_unset unnamed]
  by_cases earlier : ∃ t, incoming = some t ∧ t.edge ∈ first
  · obtain ⟨t, given, named⟩ := earlier
    rw [takenTarget_set given named, takenTarget_set given (List.mem_append_left _ named)]
    simp [Option.filter_some, Target.edge_stub, unnamed t given]
  · have neither : ∀ t, incoming = some t → t.edge ∉ first ++ second := fun t given named =>
      (List.mem_append.1 named).elim (fun h => earlier ⟨t, given, h⟩) (unnamed t given)
    rw [takenTarget_unset neither, takenTarget_unset fun t given named => earlier ⟨t, given, named⟩]
    simp [Option.filter_filter, not_or]

theorem taken_append (current incoming : Schedule) (first second : List String) :
    (current.taken incoming first).taken incoming second = current.taken incoming (first ++ second) := by
  have merge {α : Type} (field : String) (new old : α) :
      (if field ∈ second then new else if field ∈ first then new else old) =
        if field ∈ first ++ second then new else old := by
    by_cases later : field ∈ second <;> by_cases earlier : field ∈ first <;> simp [later, earlier]
  simp only [taken, merge, takenTarget_append]

/-- A mask that names nothing new adds nothing. -/
theorem taken_congr (same : ∀ p, p ∈ mask ↔ p ∈ other) : current.taken incoming mask = current.taken incoming other := by
  simp only [taken, takenTarget, same]

/-- To name one edge is to take the target as a mask of that edge alone does. -/
theorem assignEdge_eq (incoming current : Schedule) (edge : String) :
    assignEdge incoming current edge = { current with target := takenTarget [edge] incoming.target current.target } := by
  have clear : assignEdge.clear current edge = { current with target := current.target.filter (·.edge ∉ [edge]) } := by
    obtain ⟨id, status, name, target, start, finish, tenant, createdAt, updatedAt⟩ := current
    cases target with
    | none => rfl
    | some t => by_cases used : t.edge = edge <;> simp [assignEdge.clear, Option.filter_some, used]
  unfold assignEdge
  split
  · next t given =>
    by_cases own : t.edge = edge
    · rw [if_pos own, given, takenTarget_set rfl (List.mem_singleton.2 own)]
    · rw [if_neg own, clear, takenTarget_unset]
      rintro u held
      cases given.symm.trans held
      exact fun named => own (List.mem_singleton.1 named)
  · next none =>
    rw [clear, takenTarget_unset]
    rintro t held
    cases none.symm.trans held

/-- Where no edge is named, the target stays. -/
theorem takenTarget_other (unnamed : ∀ t : Target, t.edge ∉ mask) (incoming current : Option Target) :
    takenTarget mask incoming current = current := by
  rw [takenTarget_unset fun t _ => unnamed t]
  cases current with
  | none => rfl
  | some t => simp [Option.filter_some, unnamed t]

theorem edge_mem (t : Target) : t.edge ∈ ["target_host", "target_site", "target_region"] := by
  cases t <;> simp [Target.edge]

/-- A field that can change is taken over as a mask of it alone does. -/
theorem assign_eq {path : String} (mutable : path ∈ mutableFields) :
    assign incoming current path = .ok (current.taken incoming [path]) := by
  have stays {field : String} (plain : field ∉ ["target_host", "target_site", "target_region"]) :
      takenTarget [field] incoming.target current.target = current.target := by
    apply takenTarget_other
    intro t named
    have edge := edge_mem t
    rw [List.mem_singleton.1 named] at edge
    exact plain edge
  simp only [mutableFields, List.mem_cons, List.not_mem_nil, or_false] at mutable
  rcases mutable with rfl | rfl | rfl | rfl | rfl | rfl | rfl
  · simp [assign, taken, stays]
  · simp [assign, taken, stays]
  · simp [assign, taken, stays]
  · simp [assign, taken, stays]
  · simp [assign, taken, assignEdge_eq]
  · simp [assign, taken, assignEdge_eq]
  · simp [assign, taken, assignEdge_eq]

theorem assign_refused (current incoming : Schedule) {path : String} (other : path ∉ mutableFields) :
    ∃ e, assign incoming current path = .error e ∧ e.code = .invalidArgument := by
  unfold assign
  split
  case h_8 => exact ⟨_, rfl, rfl⟩
  all_goals exact absurd (by decide) other

theorem taken_nil (current incoming : Schedule) : current.taken incoming [] = current := by
  simp [taken, takenTarget_other]

/-- A mask of all that can change takes it all. -/
theorem taken_all (all : ∀ p ∈ mutableFields, p ∈ mask) :
    current.taken incoming mask =
      { current with
        name := incoming.name, status := incoming.status, start := incoming.start
        finish := incoming.finish, target := incoming.target.map Target.stub } := by
  have edges : ∀ e ∈ ["target_host", "target_site", "target_region"], e ∈ mutableFields := by decide
  have edge (t : Target) : t.edge ∈ mask := all _ (edges _ (edge_mem t))
  have target : takenTarget mask incoming.target current.target = incoming.target.map Target.stub := by
    cases given : incoming.target with
    | none =>
        rw [takenTarget_unset (by simp)]
        exact Option.filter_eq_none_iff.2 fun t _ => by simpa using edge t
    | some t => exact takenTarget_set rfl (edge t) _
  simp [taken, target, all "name" (by decide), all "schedule_status" (by decide),
    all "start_seconds" (by decide), all "end_seconds" (by decide)]

/-- Fields that can change are taken over one by one as they are by one mask. -/
theorem assigned (current : Schedule) (mutable : ∀ p ∈ mask, p ∈ mutableFields) :
    mask.foldlM (assign incoming) current = .ok (current.taken incoming mask) := by
  induction mask generalizing current with
  | nil => rw [taken_nil]; rfl
  | cons path rest ih =>
      rw [List.foldlM_cons, assign_eq (mutable path List.mem_cons_self)]
      refine (ih _ fun p later => mutable p (List.mem_cons_of_mem _ later)).trans ?_
      rw [taken_append]
      rfl

/-- A path that cannot be changed is refused wherever it stands. -/
theorem refused (current incoming : Schedule) (outside : ∃ p ∈ mask, p ∉ mutableFields) :
    ∃ e, mask.foldlM (assign incoming) current = .error e ∧ e.code = .invalidArgument := by
  induction mask generalizing current with
  | nil =>
      obtain ⟨p, member, -⟩ := outside
      cases member
  | cons path rest ih =>
      rw [List.foldlM_cons]
      by_cases mutable : path ∈ mutableFields
      · rw [assign_eq mutable]
        obtain ⟨p, member, other⟩ := outside
        have later := (List.mem_cons.1 member).resolve_left fun same => other (same ▸ mutable)
        exact ih _ ⟨p, later, other⟩
      · obtain ⟨e, failed, code⟩ := assign_refused current incoming mutable
        rw [failed]
        exact ⟨e, rfl, code⟩

theorem applyMask_named (given : mask ≠ []) (current incoming : Schedule) :
    current.applyMask incoming mask = mask.foldlM (assign incoming) current := by
  unfold applyMask
  rw [if_neg (by simpa using given)]

/-- The empty mask names all that can change. -/
theorem applyMask_empty (current incoming : Schedule) :
    current.applyMask incoming [] = .ok (current.taken incoming mutableFields) :=
  assigned current fun _ member => member

theorem applyMask_taken (given : mask ≠ []) (mutable : ∀ p ∈ mask, p ∈ mutableFields) (current incoming : Schedule) :
    current.applyMask incoming mask = .ok (current.taken incoming mask) := by
  rw [applyMask_named given, assigned current mutable]

theorem applyMask_refused (current incoming : Schedule) (outside : ∃ p ∈ mask, p ∉ mutableFields) :
    ∃ e, current.applyMask incoming mask = .error e ∧ e.code = .invalidArgument := by
  have given : mask ≠ [] := by
    obtain ⟨p, member, -⟩ := outside
    exact List.ne_nil_of_mem member
  rw [applyMask_named given]
  exact refused current incoming outside

theorem mutable_or_outside (mask : List String) :
    (∀ p ∈ mask, p ∈ mutableFields) ∨ ∃ p ∈ mask, p ∉ mutableFields := by
  by_cases outside : ∃ p ∈ mask, p ∉ mutableFields
  · exact .inr outside
  · left
    intro p member
    apply Decidable.byContradiction
    intro foreign
    exact outside ⟨p, member, foreign⟩

theorem applyMask_refused_iff (given : mask ≠ []) (current incoming : Schedule) :
    (∃ e, current.applyMask incoming mask = .error e ∧ e.code = .invalidArgument) ↔
      ∃ p ∈ mask, p ∉ mutableFields := by
  constructor
  · rintro ⟨e, failed, -⟩
    rcases mutable_or_outside mask with mutable | outside
    · cases (applyMask_taken given mutable current incoming).symm.trans failed
    · exact outside
  · exact applyMask_refused current incoming

/-- Of masks that name the same, both are refused or neither, and they take over the same. -/
theorem applyMask_congr (given : mask ≠ []) (same : ∀ p, p ∈ other ↔ p ∈ mask) (current incoming : Schedule) :
    (current.applyMask incoming other).toOption = (current.applyMask incoming mask).toOption := by
  rcases mutable_or_outside mask with mutable | ⟨p, member, foreign⟩
  · have alsoGiven : other ≠ [] := by
      obtain ⟨p, member⟩ := List.exists_mem_of_ne_nil mask given
      exact List.ne_nil_of_mem ((same p).2 member)
    have alsoMutable : ∀ p ∈ other, p ∈ mutableFields := fun p member => mutable p ((same p).1 member)
    rw [applyMask_taken given mutable, applyMask_taken alsoGiven alsoMutable, taken_congr same]
  · obtain ⟨e, failed, -⟩ := applyMask_refused current incoming ⟨p, member, foreign⟩
    obtain ⟨f, alsoFailed, -⟩ := applyMask_refused current incoming ⟨p, (same p).2 member, foreign⟩
    rw [failed, alsoFailed]
    rfl

/-- What was taken over once is there already. -/
theorem applyMask_twice (given : mask ≠ []) (current incoming : Schedule) :
    (current.applyMask incoming mask >>= fun once => once.applyMask incoming mask) =
      current.applyMask incoming mask := by
  rcases mutable_or_outside mask with mutable | outside
  · have again : (current.taken incoming mask).taken incoming mask = current.taken incoming mask := by
      rw [taken_append]
      exact taken_congr fun p => by simp
    rw [applyMask_taken given mutable]
    refine (applyMask_taken given mutable _ incoming).trans ?_
    rw [again]
  · obtain ⟨e, failed, -⟩ := applyMask_refused current incoming outside
    rw [failed]
    rfl

theorem applyMask_full {full : List String} (same : ∀ p, p ∈ full ↔ p ∈ mutableFields) (current incoming : Schedule) :
    current.applyMask incoming full = current.applyMask incoming [] := by
  have given : full ≠ [] := List.ne_nil_of_mem ((same "name").2 (by decide))
  rw [applyMask_taken given fun p => (same p).1, applyMask_empty, taken_congr same]

/-- What becomes of a mask that names anything. It is refused exactly if it names what cannot be changed,
and otherwise takes over what it names. Order and repetition of the names are nothing to it, nor is a second
time; and the empty mask stands for the names of all that can change, in any order. -/
theorem mask_as_set (current incoming : Schedule) {mask : List String} (given : mask ≠ []) :
    ((∃ e, current.applyMask incoming mask = .error e ∧ e.code = .invalidArgument) ↔
      ∃ p ∈ mask, p ∉ mutableFields) ∧
    ((∀ p ∈ mask, p ∈ mutableFields) → current.applyMask incoming mask = .ok (current.taken incoming mask)) ∧
    (∀ other : List String, (∀ p, p ∈ other ↔ p ∈ mask) →
      (current.applyMask incoming other).toOption = (current.applyMask incoming mask).toOption) ∧
    (current.applyMask incoming mask >>= fun once => once.applyMask incoming mask) =
      current.applyMask incoming mask ∧
    ∀ full : List String, (∀ p, p ∈ full ↔ p ∈ mutableFields) →
      current.applyMask incoming full = current.applyMask incoming [] := by
  refine ⟨applyMask_refused_iff given current incoming, ?_, ?_, applyMask_twice given current incoming, ?_⟩
  · intro mutable
    exact applyMask_taken given mutable current incoming
  · intro other same
    exact applyMask_congr given same current incoming
  · intro full same
    exact applyMask_full same current incoming

/-- The edge of the old target may be named before that of the new one or after it. -/
theorem mask_as_set_retargeted :
    let current : Schedule := { name := "nightly", target := some (.host { id := "host-00000001" }), start := 5 }
    let incoming : Schedule := { name := "weekly", target := some (.site { id := "site-00000002", name := "sjc" }) }
    let mask := ["target_host", "name", "target_site", "name"]
    mask ≠ [] ∧ current.applyMask incoming mask =
      .ok { current with name := "weekly", target := some (.site { id := "site-00000002" }) } := by
  intro current incoming mask
  have given : mask ≠ [] := List.cons_ne_nil _ _
  exact ⟨given, (mask_as_set current incoming given).2.1 (by decide)⟩

end Schedule
end Upkeep
