import Upkeep.Proofs.Inventory.Naming

/-! What the parts of an inventory's work come to: when a target is found, when a schedule
passes its check, what an update can do to a target, and which schedules have one. -/
namespace Upkeep

@[simp] theorem Target.stub_stub (t : Target) : t.stub.stub = t.stub := by cases t <;> rfl

@[simp] theorem Target.kind_resource (t : Target) : t.resource.kind = t.kind := by cases t <;> rfl

@[simp] theorem Target.id_resource (t : Target) : t.resource.id = t.id := by cases t <;> rfl

theorem Target.kind_ne_schedule (t : Target) : t.kind ≠ .schedule := by cases t <;> simp [kind]

/-- Stubs are told apart by kind and ID. -/
theorem Target.stub_eq {t u : Target} (kind : t.kind = u.kind) (id : t.id = u.id) :
    t.stub = u.stub := by
  cases t <;> cases u <;> simp_all [Target.kind, Target.id, Target.stub]

theorem Resource.target?_eq_some {r : Resource} {t : Target} :
    r.target? = some t ↔ r = t.resource := by
  cases r <;> cases t <;> simp [target?, Target.resource]

theorem Resource.eq_resource {r : Resource} {t : Target} (kind : r.kind = t.kind) :
    ∃ u : Target, r = u.resource ∧ u.kind = t.kind := by
  cases r with
  | schedule s => exact absurd kind.symm t.kind_ne_schedule
  | host h => exact ⟨.host h, rfl, kind⟩
  | site s => exact ⟨.site s, rfl, kind⟩
  | region r => exact ⟨.region r, rfl, kind⟩

theorem Resource.eq_schedule {r : Resource} (kind : r.kind = .schedule) : ∃ s, r = .schedule s := by
  cases r with
  | schedule s => exact ⟨s, rfl⟩
  | host h => cases kind
  | site s => cases kind
  | region r => cases kind

theorem checkName_ok {s : String} : checkName s = .ok () ↔ isName s = true := by
  unfold checkName
  split
  · next h => simp only [h]
  · next h => simp only [h, reduceCtorEq]

theorem Window.check_ok {w : Window} : w.check = .ok () ↔ w.valid = true := by
  unfold check
  split
  · next h => simp only [h]
  · next h => simp only [h, reduceCtorEq]

theorem Window.valid_iff {w : Window} : w.valid = true ↔ w.finish = 0 ∨ w.start < w.finish := by
  simp [valid, openEnded]

theorem Answer.bind_ok {α β : Type} {a : Answer α} {f : α → Answer β} {b : β} :
    (a >>= f) = .ok b ↔ ∃ x, a = .ok x ∧ f x = .ok b := by
  cases a with
  | error e => simp [bind, Except.bind]
  | ok x => simp [bind, Except.bind]

theorem Answer.after_ok {α : Type} {a : Answer Unit} {b : Answer α} {x : α} :
    (a >>= fun _ => b) = .ok x ↔ a = .ok () ∧ b = .ok x :=
  Answer.bind_ok.trans ⟨fun ⟨_, h⟩ => h, fun h => ⟨(), h⟩⟩

namespace Schedule

/-- A schedule passes exactly when its ID, if it has one, its name, its target's ID and its
window do. -/
theorem check_ok {s : Schedule} :
    s.check = .ok () ↔ (s.id ≠ "" → Kind.schedule.isId s.id = true) ∧ isName s.name = true ∧
      (∀ t, s.target = some t → t.kind.isId t.id = true) ∧ s.window.valid = true := by
  unfold check
  cases target : s.target with
  | none =>
      by_cases named : s.id = "" <;>
        simp [named, Answer.after_ok, Kind.checkId_ok, checkName_ok, Window.check_ok]
  | some t =>
      by_cases named : s.id = "" <;>
        simp [named, Answer.after_ok, Kind.checkId_ok, checkName_ok, Window.check_ok]

end Schedule

namespace Partition
variable {p : Partition}

theorem resolve_eq_some {t u : Target} :
    p.resolve t = some u ↔ p.find? t.id = some u.resource ∧ u.kind = t.kind := by
  simp only [resolve, Option.filter_eq_some_iff, Option.bind_eq_some_iff,
    Resource.target?_eq_some, decide_eq_true_eq]
  constructor
  · rintro ⟨⟨r, found, rfl⟩, kind⟩
    exact ⟨found, kind⟩
  · rintro ⟨found, kind⟩
    exact ⟨⟨_, found, rfl⟩, kind⟩

/-- Resolving looks at one entry only. -/
theorem resolve_congr {q : Partition} {t : Target} (same : p.find? t.id = q.find? t.id) :
    p.resolve t = q.resolve t := by
  unfold resolve
  rw [same]

theorem hydrate_congr {q : Partition} {s : Schedule}
    (same : ∀ t, s.target = some t → p.find? t.id = q.find? t.id) : p.hydrate s = q.hydrate s := by
  unfold hydrate
  cases target : s.target with
  | none => rfl
  | some t => simp only [Option.map_some, resolve_congr (same t target)]

theorem requireTarget_ok {o : Option Target} :
    p.requireTarget o = .ok () ↔ ∀ t, o = some t → ∃ u, p.resolve t = some u := by
  cases o with
  | none => simp [requireTarget]
  | some t =>
      simp only [requireTarget, Option.some.injEq, forall_eq']
      split
      · next found => simpa using Option.isSome_iff_exists.1 found
      · next missing => simpa [Option.isSome_iff_exists] using missing

/-- No schedule is found to have the ID for its target just when none has. -/
theorem targeting?_eq_none {id : String} : p.targeting? id = none ↔
    ∀ s, .schedule s ∈ p.values → ∀ t, s.target = some t → t.id ≠ id := by
  simp only [targeting?, List.findSome?_eq_none_iff]
  constructor
  · intro h s member t target same
    have := h _ member
    simp [target, same] at this
  · rintro h (s | h' | s | r) member
    · have clear : s.target.any (·.id = id) = false := by
        cases target : s.target with
        | none => rfl
        | some t => simpa using h s member t target
      simp [clear]
    all_goals rfl

end Partition

namespace Schedule

/-- What an update leaves of a schedule, and where its target comes from. -/
structure Revised (current incoming updated : Schedule) : Prop where
  id : updated.id = current.id
  tenant : updated.tenant = current.tenant
  createdAt : updated.createdAt = current.createdAt
  target : ∀ t, updated.target = some t →
    current.target = some t ∨ ∃ u, incoming.target = some u ∧ t = u.stub

theorem Revised.refl (current incoming : Schedule) : Revised current incoming current :=
  ⟨rfl, rfl, rfl, fun _ h => Or.inl h⟩

/-- To name an edge touches the target only, which is then the incoming one, none, or the same as before. -/
theorem assignEdge_cases (incoming current : Schedule) (edge : String) :
    ∃ target, assignEdge incoming current edge = { current with target } ∧
      (target = current.target ∨ target = none ∨ ∃ t, incoming.target = some t ∧ target = some t.stub) := by
  have clear : ∃ target, assignEdge.clear current edge = { current with target } ∧
      (target = current.target ∨ target = none) := by
    unfold assignEdge.clear
    split
    · exact ⟨_, rfl, .inr rfl⟩
    · exact ⟨_, rfl, .inl rfl⟩
  obtain ⟨cleared, eq, how⟩ := clear
  unfold assignEdge
  split
  · next t given =>
    split
    · exact ⟨_, rfl, .inr (.inr ⟨t, given, rfl⟩)⟩
    · exact ⟨cleared, eq, how.imp_right .inl⟩
  · exact ⟨cleared, eq, how.imp_right .inl⟩

theorem assignEdge_revised {current incoming updated : Schedule} (edge : String)
    (h : Revised current incoming updated) :
    Revised current incoming (assignEdge incoming updated edge) := by
  obtain ⟨target, eq, how⟩ := assignEdge_cases incoming updated edge
  rw [eq]
  refine ⟨h.id, h.tenant, h.createdAt, fun t taken => ?_⟩
  obtain rfl | rfl | ⟨u, given, rfl⟩ := how
  · exact h.target t taken
  · cases taken
  · cases taken
    exact .inr ⟨u, given, rfl⟩

theorem assign_revised {current incoming updated next : Schedule} {path : String}
    (h : Revised current incoming updated) (done : assign incoming updated path = .ok next) :
    Revised current incoming next := by
  unfold assign at done
  split at done <;> cases done
  all_goals first
    | exact assignEdge_revised _ h
    | exact ⟨h.id, h.tenant, h.createdAt, h.target⟩

/-- What holds of a schedule and is kept by each path of a mask is kept by the mask. -/
theorem applyMask_keeps {P : Schedule → Prop} {current incoming updated : Schedule} {mask : List String}
    (before : P current)
    (each : ∀ path, mask = [] ∨ path ∈ mask → ∀ s next, P s → assign incoming s path = .ok next → P next)
    (done : current.applyMask incoming mask = .ok updated) : P updated := by
  have within : ∀ path ∈ (if mask.isEmpty then mutableFields else mask), mask = [] ∨ path ∈ mask := by
    intro path member
    split at member
    · next none => exact .inl (List.isEmpty_iff.1 none)
    · exact .inr member
  unfold applyMask at done
  generalize (if mask.isEmpty then mutableFields else mask) = paths at within done
  induction paths generalizing current with
  | nil =>
      cases done
      exact before
  | cons path paths ih =>
      rw [List.foldlM_cons] at done
      obtain ⟨next, first, rest⟩ := Answer.bind_ok.1 done
      have kept := each path (within path List.mem_cons_self) current next before first
      exact ih kept (fun p member => within p (List.mem_cons_of_mem _ member)) rest

theorem applyMask_revised {current incoming updated : Schedule} {mask : List String}
    (done : current.applyMask incoming mask = .ok updated) : Revised current incoming updated :=
  applyMask_keeps (Revised.refl current incoming) (fun _ _ _ _ h first => assign_revised h first) done

end Schedule

/-- An update applies the mask, checks the target where it is another one, checks the schedule, and
stamps it. -/
theorem Partition.revise_steps {p : Partition} {now : String} {mask : List String}
    {current incoming updated : Schedule} (done : p.revise now mask current incoming = .ok updated) :
    ∃ masked, current.applyMask incoming mask = .ok masked ∧
      (masked.target ≠ current.target → p.requireTarget masked.target = .ok ()) ∧
      masked.check = .ok () ∧ updated = { masked with updatedAt := now } := by
  obtain ⟨masked, applied, done⟩ := Answer.bind_ok.1 done
  refine ⟨masked, applied, ?_⟩
  by_cases moved : masked.target ≠ current.target
  · simp only [if_pos moved] at done
    obtain ⟨required, done⟩ := Answer.after_ok.1 done
    obtain ⟨checked, done⟩ := Answer.after_ok.1 done
    cases done
    exact ⟨fun _ => required, checked, rfl⟩
  · simp only [if_neg moved] at done
    obtain ⟨checked, done⟩ := Answer.after_ok.1 done
    cases done
    exact ⟨fun other => absurd other moved, checked, rfl⟩

end Upkeep
