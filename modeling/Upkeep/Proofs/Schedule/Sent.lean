import Upkeep.Proofs.Schedule.Convert

/-! What callers may send. A schedule can be stored exactly if it names one target at most, by an ID of
the target's kind, and has a good name and a window that ends after it starts, if it ends. Whatever else is
sent is refused as an argument. -/
namespace Upkeep

/-- Whatever fails has one code. -/
def Answer.FailsAs {α : Type} (c : Code) (a : Answer α) : Prop := ∀ e, a = .error e → e.code = c

namespace Answer.FailsAs
variable {α β : Type} {c : Code} {a : Answer α} {f : α → Answer β}

theorem ok (x : α) : FailsAs c (.ok x) := fun _ failed => by cases failed

theorem error {e : Failure} (code : e.code = c) : FailsAs c (.error e : Answer α) := by
  rintro _ ⟨⟩
  exact code

theorem bind (first : FailsAs c a) (rest : ∀ x, FailsAs c (f x)) : FailsAs c (a >>= f) := by
  cases a with
  | error e => exact error (first e rfl)
  | ok x => exact rest x

theorem during (operation : String) (fails : FailsAs c a) : FailsAs c (a.during operation) := by
  cases a with
  | error e => exact error (fails e rfl)
  | ok x => exact ok x

theorem ite {p : Prop} [Decidable p] {b : Answer α} (yes : FailsAs c a) (no : FailsAs c b) :
    FailsAs c (if p then a else b) := by
  split
  · exact yes
  · exact no

end Answer.FailsAs

open Answer (FailsAs)

theorem Kind.checkId_fails (k : Kind) (id : String) : FailsAs .invalidArgument (k.checkId id) :=
  .ite (.ok ()) (.error rfl)

theorem checkName_fails (name : String) : FailsAs .invalidArgument (checkName name) :=
  .ite (.ok ()) (.error rfl)

theorem Window.check_fails (w : Window) : FailsAs .invalidArgument w.check :=
  .ite (.ok ()) (.error rfl)

theorem Schedule.check_fails (s : Schedule) : FailsAs .invalidArgument s.check := by
  obtain ⟨id, status, name, target, start, finish, tenant, createdAt, updatedAt⟩ := s
  have named {rest : Answer Unit} (fails : FailsAs .invalidArgument rest) :
      FailsAs .invalidArgument (if id ≠ "" then Kind.schedule.checkId id >>= fun _ => rest else rest) :=
    .ite ((Kind.checkId_fails _ _).bind fun _ => fails) fails
  cases target with
  | none => exact named ((checkName_fails _).bind fun _ => Window.check_fails _)
  | some t =>
      exact named ((checkName_fails _).bind fun _ => (t.kind.checkId_fails _).bind fun _ => Window.check_fails _)

theorem Target.ofIds_fails (hostId siteId regionId : String) :
    FailsAs .invalidArgument (ofIds hostId siteId regionId) :=
  .ite (.error rfl) (.ite (.ok _) (.ite (.ok _) (.ite (.ok _) (.ok _))))

theorem Wire.Status.toStored_fails (s : Status) : FailsAs .invalidArgument s.toStored := by
  obtain ⟨stored, known⟩ := s.exists_toStored
  rw [known]
  exact .ok _

namespace Wire.Schedule
variable {x : Schedule}

theorem toStored_fails (x : Schedule) : FailsAs .invalidArgument x.toStored := by
  apply FailsAs.bind (Target.ofIds_fails _ _ _)
  intro target
  apply FailsAs.bind ((Window.check_fails _).bind fun _ => .ok _)
  intro window
  apply FailsAs.bind x.status.toStored_fails
  intro status
  exact (Schedule.check_fails _).bind fun _ => .ok _

/-- The targets that a schedule names, with the kinds that they have to be of. -/
def targets (x : Schedule) : List (Kind × String) :=
  [(.host, x.hostId), (.site, x.siteId), (.region, x.regionId)].filter (·.2 ≠ "")

/-- What a schedule has to be like that a caller sends. -/
structure WellFormed (x : Schedule) : Prop where
  single : x.targets.length ≤ 1
  named : ∀ t ∈ x.targets, ∃ digits : List Char, t.2.toList = t.1.idStem.toList ++ '-' :: digits ∧
    digits.length = 8 ∧ ∀ c ∈ digits, '0' ≤ c ∧ c ≤ '9' ∨ 'a' ≤ c ∧ c ≤ 'f'
  titled : ∀ c ∈ x.name.toList, c.isAlphanum ∨ c ∈ [' ', '_', '-', '.', '/', ':']
  timed : x.finish = 0 ∨ x.start < x.finish

/-- The one target that is named is the one that is stored. -/
theorem targets_of_named {target : Option Target} (named : Target.Named x.hostId x.siteId x.regionId target) :
    x.targets = target.toList.map fun t => (t.kind, t.id) := by
  unfold targets
  generalize x.hostId = hostId at *
  generalize x.siteId = siteId at *
  generalize x.regionId = regionId at *
  cases named with
  | none => rfl
  | host given => simp [given, Target.kind, Target.id]
  | site given => simp [given, Target.kind, Target.id]
  | region given => simp [given, Target.kind, Target.id]

theorem named_of_single (single : x.targets.length ≤ 1) :
    ∃ target, Target.Named x.hostId x.siteId x.regionId target := by
  unfold targets at single
  by_cases host : x.hostId = "" <;> by_cases site : x.siteId = "" <;> by_cases region : x.regionId = ""
  all_goals simp [host, site, region] at single
  · rw [host, site, region]
    exact ⟨_, .none⟩
  · rw [host, site]
    exact ⟨_, .region region⟩
  · rw [host, region]
    exact ⟨_, .site site⟩
  · rw [site, region]
    exact ⟨_, .host host⟩

theorem isNameChar_iff {c : Char} :
    isNameChar c = true ↔ c.isAlphanum ∨ c ∈ [' ', '_', '-', '.', '/', ':'] := by
  have upper : c.isUpper = ('A' ≤ c && c ≤ 'Z') := Bool.decide_and ('A' ≤ c) (c ≤ 'Z')
  have letters : ('a' ≤ c && c ≤ 'z' || 'A' ≤ c && c ≤ 'Z' || Decimal.isDigit c) = c.isAlphanum := by
    rw [← upper, Bool.or_comm (_ && _)]
    rfl
  have others : "_./: -".toList.contains c = true ↔ c ∈ [' ', '_', '-', '.', '/', ':'] := by
    rw [List.contains_iff_mem, show "_./: -".toList = ['_', '.', '/', ':', ' ', '-'] by decide]
    grind
  rw [isNameChar, letters, Bool.or_eq_true, others]

theorem isName_iff {name : String} : isName name = true ↔
    ∀ c ∈ name.toList, c.isAlphanum ∨ c ∈ [' ', '_', '-', '.', '/', ':'] := by
  unfold isName
  simp only [List.all_eq_true, isNameChar_iff]

theorem isId_spelled {k : Kind} {id : String} : k.isId id = true ↔
    ∃ digits : List Char, id.toList = k.idStem.toList ++ '-' :: digits ∧
      digits.length = 8 ∧ ∀ c ∈ digits, '0' ≤ c ∧ c ≤ '9' ∨ 'a' ≤ c ∧ c ≤ 'f' := by
  rw [Kind.isId_iff]
  simp only [List.all_eq_true, Hex.isLower, Bool.or_eq_true, Bool.and_eq_true, decide_eq_true_eq]

/-- The window of bounds that were widened is good if they are. -/
theorem widen_valid {start finish : UInt32} :
    (Window.widen start finish).valid = true ↔ finish = 0 ∨ start < finish := by
  have zero : finish.toUInt64 = 0 ↔ finish = 0 := UInt32.toUInt64_inj (b := 0)
  rw [Window.valid_iff, Window.widen, zero, UInt32.toUInt64_lt]

/-- What is stored has passed the checks, and all that passes them is stored. -/
theorem toStored_iff : (∃ stored, x.toStored = .ok stored) ↔ x.WellFormed := by
  constructor
  · rintro ⟨stored, done⟩
    have filed := toStored_ok done
    obtain ⟨-, titled, targeted, timed⟩ := Schedule.check_ok.1 filed.checked
    have targets := targets_of_named filed.target
    refine ⟨?_, ?_, isName_iff.1 (filed.name ▸ titled), ?_⟩
    · rw [targets, List.length_map]
      cases stored.target with
      | none => decide
      | some t => exact Nat.le_refl 1
    · intro t member
      rw [targets] at member
      obtain ⟨u, held, rfl⟩ := List.mem_map.1 member
      exact isId_spelled.1 (targeted u (Option.mem_toList.1 held))
    · rw [Schedule.window, filed.start, filed.finish] at timed
      exact widen_valid.1 timed
  · intro good
    obtain ⟨target, named⟩ := named_of_single good.single
    have timed : (Window.widen x.start x.finish).valid = true := widen_valid.2 good.timed
    have targeted (t : Target) (held : target = some t) : t.kind.isId t.id = true := by
      refine isId_spelled.2 (good.named (t.kind, t.id) ?_)
      rw [targets_of_named named, held]
      exact List.mem_singleton_self _
    obtain ⟨status, known⟩ := x.status.exists_toStored
    let stored : Upkeep.Schedule :=
      { status, name := x.name, target, start := x.start.toUInt64, finish := x.finish.toUInt64 }
    have checked : stored.check = .ok () :=
      Schedule.check_ok.2 ⟨fun given => absurd rfl given, isName_iff.2 good.titled, targeted, timed⟩
    have bounded : Window.ofWords x.start x.finish = .ok (.widen x.start x.finish) :=
      Answer.after_ok.2 ⟨Window.check_ok.2 timed, rfl⟩
    exact ⟨stored, Answer.bind_ok.2 ⟨target, Target.ofIds_ok.2 named,
      Answer.bind_ok.2 ⟨_, bounded, Answer.bind_ok.2 ⟨status, known, Answer.after_ok.2 ⟨checked, rfl⟩⟩⟩⟩⟩

end Wire.Schedule
end Upkeep
