import Upkeep.Proofs.Cache.Traffic

/-! Why no generation comes again, and when one does. Every invalidation raises the tenant's generation, and
until the cache is cleared nothing else moves it. So what a visit has loaded under an old generation is never
filed, and nobody else is served with it, unless the cache is cleared while the visit is under way. -/
namespace Upkeep.Traffic
variable {s t : Traffic} {limits : CacheLimits} {tenant : String} {i : Nat} {v : UInt64}

section Visits
variable {x y : Visit} {j : Nat}

theorem visit_appended (here : s.visits[i]? = some x) : (s.visits ++ [y])[i]? = some x := by
  rw [List.getElem?_append_left (List.getElem?_eq_some_iff.1 here).1]
  exact here

theorem visit_of_appended (here : (s.visits ++ [y])[i]? = some x) :
    s.visits[i]? = some x ∨ i = s.visits.length ∧ x = y := by
  rw [List.getElem?_append] at here
  split at here
  · exact .inl here
  · obtain ⟨short, rfl⟩ := List.getElem?_eq_some_iff.1 here
    rw [List.length_singleton] at short
    exact .inr ⟨by omega, List.getElem_singleton ..⟩

theorem visit_put_ne (apart : j ≠ i) : (s.put j y).visits[i]? = s.visits[i]? :=
  List.getElem?_set_ne apart

theorem visit_put (here : s.visits[i]? = some x) : (s.put i y).visits[i]? = some y :=
  List.getElem?_set_self (List.getElem?_eq_some_iff.1 here).1

theorem visit_of_put (here : (s.put j y).visits[i]? = some x) : s.visits[i]? = some x ∨ i = j ∧ x = y := by
  by_cases same : j = i
  · subst same
    have own : j < s.visits.length ∧ y = x := by simpa [put, List.getElem?_set] using here
    exact .inr ⟨rfl, own.2.symm⟩
  · exact .inl ((visit_put_ne same).symm.trans here)

/-- Another visit than the one that went on. -/
theorem visit_other {old : Visit} (there : s.visits[j]? = some old) (here : s.visits[i]? = some x) (differ : old ≠ x) :
    (s.put j y).visits[i]? = some x := by
  rw [visit_put_ne]
  · exact here
  · rintro rfl
    exact differ (Option.some.inj (there.symm.trans here))

end Visits

theorem run_append (first rest : List Move) : s.run limits (first ++ rest) = (s.run limits first).run limits rest :=
  List.foldl_append

/-- The visit has handed in what it loaded, under its own mark. -/
def Handed (s : Traffic) (i : Nat) (tenant : String) (q : Inquiry) (a : q.Item) : Prop :=
  ∃ began, s.visits[i]? = some ⟨tenant, q, began, .done i a⟩

/-- The visit has an answer. -/
def Finished (s : Traffic) (i : Nat) : Prop := ∃ x, s.visits[i]? = some x ∧ x.stage.answer?.isSome

/-- A visit that has an answer stays as it is. -/
theorem Stepped.finished_stays (h : Stepped limits s t) {x : Visit} (here : s.visits[i]? = some x)
    (finished : x.stage.answer?.isSome) : t.visits[i]? = some x := by
  cases h with
  | looked h =>
      cases h with
      | missed => exact visit_appended here
      | hit known => exact visit_appended here
  | proceeded h =>
      cases h with
      | idle => exact here
      | observed there => exact visit_other there here (by rintro rfl; cases finished)
      | loaded there => exact visit_other there here (by rintro rfl; cases finished)
      | failed e there => exact visit_other there here (by rintro rfl; cases finished)
      | handed there => exact visit_other there here (by rintro rfl; cases finished)
  | told => exact here
  | cleared => exact here

theorem Finished.run (finished : s.Finished i) (moves : List Move) : (s.run limits moves).Finished i := by
  induction moves generalizing s with
  | nil => exact finished
  | cons move moves ih =>
      obtain ⟨x, here, answered⟩ := finished
      exact ih ⟨x, (stepped limits s move).finished_stays here answered, answered⟩

theorem Stepped.handed_stays (h : Stepped limits s t) {q : Inquiry} {a : q.Item} (handed : s.Handed i tenant q a) :
    t.Handed i tenant q a := by
  obtain ⟨began, here⟩ := handed
  exact ⟨began, h.finished_stays here rfl⟩

/-- A visit loads under its own mark, and an item with which it was served was handed in by the visit whose
mark the item has. -/
def Marked (s : Traffic) (i : Nat) : Visit → Prop
  | ⟨_, _, _, .loaded _ n _⟩ => n = i
  | ⟨tenant, q, _, .done n a⟩ => s.Handed n tenant q a
  | _ => True

theorem Marked.later {x : Visit} (marked : s.Marked i x)
    (stays : ∀ {i tenant q a}, s.Handed i tenant q a → t.Handed i tenant q a) : t.Marked i x := by
  obtain ⟨tenant, q, began, stage⟩ := x
  cases stage with
  | looked => trivial
  | observed g => trivial
  | loaded g n a => exact marked
  | done n a => exact stays marked
  | failed e => trivial

/-- Of all that was got from the cache, and of all that is in it, the mark tells who handed it in. -/
structure Sound (s : Traffic) : Prop where
  entries : ∀ tenant q a, s.memory.Holds tenant q a → s.Handed (s.origin tenant q) tenant q a
  visits : ∀ i x, s.visits[i]? = some x → s.Marked i x

theorem sound_empty : Sound {} where
  entries tenant q a held := absurd held (Memory.not_holds_empty q a)
  visits i x here := by cases here

/-- After a move that filed nothing: what has come of a visit must have its mark. -/
theorem Sound.visited (sound : s.Sound) (memory : t.memory = s.memory) (origin : t.origin = s.origin)
    (stays : ∀ {i tenant} {q : Inquiry} {a : q.Item}, s.Handed i tenant q a → t.Handed i tenant q a)
    (visits : ∀ j x, t.visits[j]? = some x → s.visits[j]? = some x ∨ t.Marked j x) : t.Sound where
  entries tenant q a held := by
    rw [memory] at held
    rw [origin]
    exact stays (sound.entries tenant q a held)
  visits j x here := (visits j x here).elim (fun before => (sound.visits j x before).later stays) id

theorem Sound.step (sound : s.Sound) (h : Stepped limits s t) : t.Sound := by
  have stays {i tenant} {q : Inquiry} {a : q.Item} (handed : s.Handed i tenant q a) : t.Handed i tenant q a :=
    h.handed_stays handed
  cases h with
  | looked h =>
      cases h with
      | missed =>
          refine sound.visited rfl rfl stays fun j x here => (visit_of_appended here).imp_right ?_
          rintro ⟨-, rfl⟩
          trivial
      | hit known =>
          refine sound.visited rfl rfl stays fun j x here => (visit_of_appended here).imp_right ?_
          rintro ⟨-, rfl⟩
          exact stays (sound.entries _ _ _ (Memory.holds_of_known? known))
  | @proceeded now i answers _ h =>
      cases h with
      | idle => exact sound
      | observed there | loaded there | failed e there =>
          refine sound.visited rfl rfl stays fun j x here => (visit_of_put here).imp_right ?_
          rintro ⟨rfl, rfl⟩
          trivial
      | @handed tenant q began g n a there =>
          obtain rfl : n = i := sound.visits i _ there
          have own : ((s.file limits now tenant g n q a).put n ⟨tenant, q, began, .done n a⟩).Handed n tenant q a :=
            ⟨began, @visit_put (s.file limits now tenant g n q a) n _ _ there⟩
          refine ⟨?_, fun j x here => ?_⟩
          · intro other r b held
            simp only [Traffic.put, Traffic.file]
            rcases Memory.held_file held with ⟨current, rfl, new⟩ | ⟨apart, old⟩
            · cases new
              rw [if_pos ⟨current, rfl, rfl⟩]
              exact own
            · rw [if_neg apart]
              exact stays (sound.entries other r b old)
          · rcases visit_of_put here with before | ⟨-, rfl⟩
            · exact (sound.visits j x before).later stays
            · exact own
  | told tenant id c =>
      refine ⟨fun other q a held => ?_, fun j x here => (sound.visits j x here).later stays⟩
      exact stays (sound.entries other q a (Memory.held_invalidate held).1)
  | cleared =>
      refine ⟨fun other q a held => ?_, fun j x here => (sound.visits j x here).later stays⟩
      exact absurd held (Memory.not_holds_empty q a)

theorem Sound.run (sound : s.Sound) (moves : List Move) : (s.run limits moves).Sound := by
  induction moves generalizing s with
  | nil => exact sound
  | cons move moves ih => exact ih (sound.step (stepped limits s move))

/-- Whether a move raises the tenant's generation. -/
def raises (tenant : String) : Move → Bool
  | .invalidate other _ _ => other = tenant
  | _ => false

/-- Until the cache is cleared, a generation is raised by every invalidation and by nothing else. -/
theorem generation_step {move : Move} (kept : move ≠ .clear) :
    (s.step limits move).memory.generation tenant =
      s.memory.generation tenant + if raises tenant move then 1 else 0 := by
  cases move with
  | look now other q => exact (UInt64.add_zero _).symm
  | proceed now i answers =>
      exact (proceeded limits now i i answers s).generation.trans (UInt64.add_zero _).symm
  | invalidate other id c =>
      refine Memory.generation_invalidate.trans ?_
      by_cases same : tenant = other
      · subst same
        simp [raises]
      · simp [raises, same, Ne.symm same]
  | clear => exact absurd rfl kept

theorem generation_run {moves : List Move} (kept : ∀ move ∈ moves, move ≠ .clear) :
    (s.run limits moves).memory.generation tenant =
      s.memory.generation tenant + UInt64.ofNat (moves.countP (raises tenant)) := by
  induction moves generalizing s with
  | nil => exact (UInt64.add_zero _).symm
  | cons move moves ih =>
      have first := @generation_step s limits tenant move (kept move List.mem_cons_self)
      have rest := @ih (s.step limits move) fun other later => kept other (List.mem_cons_of_mem _ later)
      rw [List.countP_cons, UInt64.ofNat_add]
      refine rest.trans ?_
      rw [first, UInt64.add_assoc]
      congr 1
      rw [UInt64.add_comm]
      by_cases raised : raises tenant move = true
      · simp [raised]
      · simp [raised]

/-- Between one and 2^64 invalidations a generation does not come again. -/
theorem generation_moved {moves : List Move} (kept : ∀ move ∈ moves, move ≠ .clear)
    (raised : 0 < moves.countP (raises tenant)) (few : moves.countP (raises tenant) < twoTo 64) :
    (s.run limits moves).memory.generation tenant ≠ s.memory.generation tenant := by
  rw [generation_run kept]
  intro same
  have zero : UInt64.ofNat (moves.countP (raises tenant)) = 0 := by simpa using same
  have count := congrArg UInt64.toNat zero
  rw [UInt64.toNat_ofNat', Nat.mod_eq_of_lt few] at count
  exact absurd count (Nat.ne_of_gt raised)

/-- A visit that came to observe a generation, or has gone on from there. -/
inductive Late (v : UInt64) {α : Type} : Visit.Stage α → Prop
  | observed : Late v (.observed v)
  | loaded (n : Nat) (a : α) : Late v (.loaded v n a)
  | done (n : Nat) (a : α) : Late v (.done n a)
  | failed (e : Failure) : Late v (.failed e)

/-- A visit of the tenant's that has observed a generation, and of which nobody else has got anything. -/
structure Outdated (v : UInt64) (tenant : String) (i : Nat) (s : Traffic) : Prop where
  late : ∃ q began stage, s.visits[i]? = some ⟨tenant, q, began, stage⟩ ∧ Late v stage
  unfiled : ∀ other q a, s.memory.Holds other q a → s.origin other q ≠ i
  unserved : ∀ j x, s.visits[j]? = some x → x.mark? = some i → j = i

namespace Outdated
variable {x old new : Visit} {j : Nat}

theorem append (outdated : Outdated v tenant i s) (other : x.mark? ≠ some i) :
    Outdated v tenant i { s with visits := s.visits ++ [x] } where
  late := by
    obtain ⟨q, began, stage, here, late⟩ := outdated.late
    exact ⟨q, began, stage, visit_appended here, late⟩
  unfiled := outdated.unfiled
  unserved k y here mark := by
    rcases visit_of_appended here with before | ⟨-, rfl⟩
    · exact outdated.unserved k y before mark
    · exact absurd mark other

theorem put (outdated : Outdated v tenant i s) (there : s.visits[j]? = some old) (other : new.mark? = some i → j = i)
    (own : j = i → ∀ q began stage, old = ⟨tenant, q, began, stage⟩ → Late v stage →
      ∃ next, new = ⟨tenant, q, began, next⟩ ∧ Late v next) : Outdated v tenant i (s.put j new) where
  late := by
    obtain ⟨q, began, stage, here, late⟩ := outdated.late
    by_cases same : j = i
    · subst same
      obtain ⟨next, rfl, later⟩ := own rfl q began stage (Option.some.inj (there.symm.trans here)) late
      exact ⟨q, began, next, visit_put here, later⟩
    · exact ⟨q, began, stage, (visit_put_ne same).trans here, late⟩
  unfiled := outdated.unfiled
  unserved k y here mark := by
    rcases visit_of_put here with before | ⟨rfl, rfl⟩
    · exact outdated.unserved k y before mark
    · exact other mark

/-- What an outdated visit hands in is not filed, and what others hand in is not its own. -/
theorem file (outdated : Outdated v tenant i s) (moved : s.Finished i ∨ s.memory.generation tenant ≠ v) (now : Nat)
    {other : String} {q : Inquiry} {began : Nat} {g : UInt64} {a : q.Item}
    (there : s.visits[j]? = some ⟨other, q, began, .loaded g j a⟩) :
    Outdated v tenant i (s.file limits now other g j q a) where
  late := outdated.late
  unfiled owner r b held := by
    simp only [Traffic.file]
    rcases Memory.held_file held with ⟨current, rfl, new⟩ | ⟨apart, old⟩
    · cases new
      rw [if_pos ⟨current, rfl, rfl⟩]
      rintro rfl
      obtain ⟨_, _, _, here, late⟩ := outdated.late
      cases there.symm.trans here
      cases late
      rcases moved with ⟨x, here, finished⟩ | moved
      · cases there.symm.trans here
        cases finished
      · exact moved current
    · rw [if_neg apart]
      exact outdated.unfiled owner r b old
  unserved := outdated.unserved

theorem told (outdated : Outdated v tenant i s) (other id : String) (c : Change) :
    Outdated v tenant i { s with memory := s.memory.invalidate other id c } where
  late := outdated.late
  unfiled owner q a held := outdated.unfiled owner q a (Memory.held_invalidate held).1
  unserved := outdated.unserved

theorem step (outdated : Outdated v tenant i s) (sound : s.Sound)
    (moved : s.Finished i ∨ s.memory.generation tenant ≠ v) (h : Stepped limits s t) : Outdated v tenant i t := by
  cases h with
  | looked h =>
      cases h with
      | missed => exact outdated.append nofun
      | hit known =>
          apply outdated.append
          intro mark
          exact outdated.unfiled _ _ _ (Memory.holds_of_known? known) (Option.some.inj mark)
  | @proceeded now j answers _ h =>
      cases h with
      | idle => exact outdated
      | observed there =>
          refine outdated.put there nofun ?_
          rintro - q began stage ⟨⟩ late
          cases late
      | loaded there answered =>
          refine outdated.put there nofun ?_
          rintro - q began stage ⟨⟩ late
          cases late
          exact ⟨_, rfl, .loaded _ _⟩
      | failed e there =>
          refine outdated.put there nofun ?_
          rintro - q began stage ⟨⟩ late
          exact ⟨_, rfl, .failed e⟩
      | @handed other q began g n a there =>
          obtain rfl : n = j := sound.visits j _ there
          refine (outdated.file moved now there).put there Option.some.inj ?_
          rintro - q began stage ⟨⟩ late
          exact ⟨_, rfl, .done _ _⟩
  | told other id c => exact outdated.told other id c
  | cleared =>
      exact ⟨outdated.late, fun owner q a held => absurd held (Memory.not_holds_empty q a), outdated.unserved⟩

theorem run {moves : List Move} (outdated : Outdated v tenant i s) (sound : s.Sound)
    (moved : ∀ rest, rest <+: moves →
      (s.run limits rest).Finished i ∨ (s.run limits rest).memory.generation tenant ≠ v) :
    Outdated v tenant i (s.run limits moves) := by
  induction moves generalizing s with
  | nil => exact outdated
  | cons move moves ih =>
      have next := stepped limits s move
      apply ih
      · exact outdated.step sound (moved [] List.nil_prefix) next
      · exact sound.step next
      · intro rest before
        exact moved (move :: rest) (List.cons_prefix_cons.2 ⟨rfl, before⟩)

/-- Whatever it still does, it leaves the cache as it is. -/
theorem unmoved (outdated : Outdated v tenant i s) (moved : s.Finished i ∨ s.memory.generation tenant ≠ v) (now : Nat)
    (answers : String → (q : Inquiry) → Answer q.Item) :
    (s.step limits (.proceed now i answers)).memory = s.memory := by
  obtain ⟨q, began, stage, here, late⟩ := outdated.late
  simp only [Traffic.step, Traffic.proceed, here]
  cases late with
  | observed =>
      simp only [Traffic.advance]
      split
      · rfl
      · rfl
  | loaded n a =>
      rcases moved with ⟨x, there, finished⟩ | moved
      · cases here.symm.trans there
        cases finished
      · exact Memory.file_stale moved
  | done n a => rfl
  | failed e => rfl

end Outdated

/-- A visit that has observed a generation, and has not handed in anything. -/
inductive Awaits (v : UInt64) {α : Type} : Visit.Stage α → Prop
  | observed : Awaits v (.observed v)
  | loaded (n : Nat) (a : α) : Awaits v (.loaded v n a)

theorem Sound.outdated (sound : s.Sound) {q : Inquiry} {began : Nat} {stage : Visit.Stage q.Item}
    (here : s.visits[i]? = some ⟨tenant, q, began, stage⟩) (awaits : Awaits v stage) : Outdated v tenant i s := by
  -- A visit that has handed in nothing is in no mark.
  have unhanded {other : String} {r : Inquiry} {b : r.Item} : ¬ s.Handed i other r b := by
    rintro ⟨_, done⟩
    cases here.symm.trans done
    cases awaits
  refine ⟨⟨q, began, stage, here, ?_⟩, ?_, ?_⟩
  · cases awaits with
    | observed => exact .observed
    | loaded n a => exact .loaded n a
  · rintro other r b held rfl
    exact unhanded (sound.entries other r b held)
  · intro j x there mark
    have marked := sound.visits j x there
    obtain ⟨other, r, start, stage⟩ := x
    cases stage with
    | done n b =>
        cases mark
        exact absurd marked unhanded
    | looked | observed | loaded | failed => cases mark

/-- Where the cache is cleared only once a visit has its answer, the visit has it, or the generation has moved. -/
theorem moved_or_finished {moves : List Move}
    (ended : ∀ rest, rest ++ [.clear] <+: moves → (s.run limits rest).Finished i)
    (raised : 0 < moves.countP (raises tenant)) (few : moves.countP (raises tenant) < twoTo 64) :
    (s.run limits moves).Finished i ∨
      (s.run limits moves).memory.generation tenant ≠ s.memory.generation tenant := by
  by_cases cleared : Move.clear ∈ moves
  · obtain ⟨rest, later, rfl⟩ := List.append_of_mem cleared
    have finished := ended rest ⟨later, by simp⟩
    rw [run_append]
    exact .inl (finished.run _)
  · exact .inr (generation_moved (fun move member same => cleared (same ▸ member)) raised few)

/-- Once an invalidation has come, the tenant's generation is another one, and stays so for 2^64 invalidations if
the cache is not cleared. What a visit has loaded that had observed the old one is not filed any more, and nobody
else is served with it, if the cache is not cleared before the visit has its answer. -/
theorem outdated_never_filed (limits : CacheLimits) (before between after : List Move) (tenant id : String)
    (c : Change) :
    let s := run limits {} before
    let v := s.memory.generation tenant
    let moves := between ++ .invalidate tenant id c :: after
    moves.countP (raises tenant) < twoTo 64 →
    ((∀ move ∈ moves, move ≠ .clear) → (s.run limits moves).memory.generation tenant ≠ v) ∧
      ∀ (i began : Nat) (q : Inquiry) (stage : Visit.Stage q.Item),
        (s.run limits between).visits[i]? = some ⟨tenant, q, began, stage⟩ → Awaits v stage →
        (∀ rest, rest ++ [.clear] <+: moves → (s.run limits rest).Finished i) →
        (∀ now answers, ((s.run limits moves).step limits (.proceed now i answers)).memory =
          (s.run limits moves).memory) ∧
        ∀ j x, (s.run limits moves).visits[j]? = some x → x.mark? = some i → j = i := by
  intro s v moves few
  have raised {rest : List Move} : 0 < (between ++ .invalidate tenant id c :: rest).countP (raises tenant) :=
    List.countP_pos_iff.2 ⟨_, List.mem_append_right _ List.mem_cons_self, decide_eq_true rfl⟩
  refine ⟨fun kept => generation_moved kept raised few, fun i began q stage here awaits ended => ?_⟩
  have sound : (s.run limits between).Sound := (sound_empty.run before).run between
  let told := (s.run limits between).step limits (.invalidate tenant id c)
  have whole (rest : List Move) : s.run limits (between ++ .invalidate tenant id c :: rest) = told.run limits rest :=
    run_append between _
  have moved (rest : List Move) (first : rest <+: after) :
      (told.run limits rest).Finished i ∨ (told.run limits rest).memory.generation tenant ≠ v := by
    have part : between ++ .invalidate tenant id c :: rest <+: moves :=
      (List.prefix_append_right_inj _).2 (List.cons_prefix_cons.2 ⟨rfl, first⟩)
    rw [← whole]
    exact moved_or_finished (fun early clearing => ended early (clearing.trans part)) raised
      (Nat.lt_of_le_of_lt part.sublist.countP_le few)
  have soundTold : told.Sound := sound.step (stepped limits _ _)
  have outdated := ((sound.outdated here awaits).told tenant id c).run soundTold moved
  rw [whole]
  exact ⟨outdated.unmoved (moved after List.prefix_rfl), outdated.unserved⟩

section Runs

/-- A visit goes on where the store has nothing but a schedule with the name. -/
def goOn (i : Nat) (name : String) : Move :=
  .proceed 0 i fun
    | _, .one _ => .ok { name }
    | _, .page _ => .ok {}

def lookup : Move := .look 0 "a" (.one "x")

/-- The schedule `x` is loaded while it is renamed, and then it is looked for again. -/
theorem outdated_never_filed_renamed :
    let renamed : Move := .invalidate "a" "x" .updated
    let moves := [goOn 0 "old", renamed, goOn 0 "old", lookup]
    let s := run ⟨1000, 10⟩ {} [lookup, goOn 0 "old"]
    (s.run ⟨1000, 10⟩ moves).memory.generation "a" ≠ 0 ∧
      (∀ now answers, ((s.run ⟨1000, 10⟩ moves).step ⟨1000, 10⟩ (.proceed now 0 answers)).memory =
        (s.run ⟨1000, 10⟩ moves).memory) ∧
      ∀ j x, (s.run ⟨1000, 10⟩ moves).visits[j]? = some x → x.mark? = some 0 → j = 0 := by
  intro renamed moves s
  obtain ⟨moved, late⟩ := outdated_never_filed ⟨1000, 10⟩ [lookup, goOn 0 "old"] [goOn 0 "old"] [goOn 0 "old", lookup]
    "a" "x" .updated (by decide)
  have kept : ∀ move ∈ moves, move ≠ .clear := by
    simp [moves, renamed, goOn, lookup]
  refine ⟨moved kept, late 0 0 (.one "x") (.loaded 0 0 { name := "old" }) rfl (.loaded _ _) ?_⟩
  intro rest first
  exact absurd rfl (kept .clear (first.subset (List.mem_append_right rest List.mem_cons_self)))

/-- To clear the cache brings back the generation that a visit has observed. So it files what it loaded before a
change, and the next one to look is served with it. -/
theorem outdated_served :
    let observed := run ⟨1000, 10⟩ {} [lookup, goOn 0 "old", goOn 0 "old"]
    let told := run ⟨1000, 10⟩ observed [.invalidate "a" "x" .updated]
    let cleared := run ⟨1000, 10⟩ told [.clear]
    let served := run ⟨1000, 10⟩ cleared [goOn 0 "old", lookup]
    observed.visits[0]? = some ⟨"a", .one "x", 0, .loaded 0 0 { name := "old" }⟩ ∧
      observed.memory.generation "a" = 0 ∧ told.memory.generation "a" = 1 ∧ cleared.memory.generation "a" = 0 ∧
      served.visits[1]? = some ⟨"a", .one "x", 0, .done 0 { name := "old" }⟩ := by
  intro observed told cleared served
  exact ⟨rfl, rfl, rfl, rfl, rfl⟩

end Runs

end Upkeep.Traffic
