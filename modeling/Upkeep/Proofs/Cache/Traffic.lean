import Upkeep.Proofs.Cache.Seek

/-! Visits of one cache in memory, each at its own pace. A visit looks in the cache, notes the generation,
loads from a store that may answer anything, and hands in what it got. What is loaded is given a mark, by
which one can tell later on where an item comes from. -/
namespace Upkeep

inductive Visit.Stage (α : Type) where
  | looked
  | observed (g : UInt64)
  | loaded (g : UInt64) (mark : Nat) (a : α)
  /-- The mark is the one under which the item was loaded, whoever did that. -/
  | done (mark : Nat) (a : α)
  | failed (e : Failure)

def Visit.Stage.answer? {α : Type} : Visit.Stage α → Option (Answer α)
  | .done _ a => some (.ok a)
  | .failed e => some (.error e)
  | _ => none

structure Visit where
  tenant : String
  inquiry : Inquiry
  began : Nat
  stage : Visit.Stage inquiry.Item

/-- The mark of the item that a visit has got. -/
def Visit.mark? (x : Visit) : Option Nat :=
  match x.stage with
  | .done mark _ => some mark
  | _ => none

structure Traffic where
  memory : Memory := {}
  /-- The mark of the item that was filed last. -/
  origin : String → Inquiry → Nat := fun _ _ => 0
  visits : List Visit := []

namespace Traffic

def put (s : Traffic) (i : Nat) (x : Visit) : Traffic := { s with visits := s.visits.set i x }

/-- A new visit looks in the cache. -/
def look (limits : CacheLimits) (now began : Nat) (tenant : String) (q : Inquiry) (s : Traffic) : Traffic :=
  let stage := match s.memory.known? limits now tenant q with
    | some a => .done (s.origin tenant q) a
    | none => .looked
  { s with visits := s.visits ++ [⟨tenant, q, began, stage⟩] }

/-- Files what a visit has loaded, if the generation is still the one that it observed. -/
def file (limits : CacheLimits) (now : Nat) (tenant : String) (g : UInt64) (mark : Nat) (q : Inquiry) (a : q.Item)
    (s : Traffic) : Traffic :=
  { s with
    memory := s.memory.file limits now tenant g q a
    origin := fun other r =>
      if s.memory.generation tenant = g ∧ other = tenant ∧ r = q then mark else s.origin other r }

/-- A visit goes on. If it loads, the store gives these answers, and the item gets the mark. -/
def advance (limits : CacheLimits) (now i mark : Nat) (answers : String → (q : Inquiry) → Answer q.Item) (x : Visit)
    (s : Traffic) : Traffic :=
  match x.stage with
  | .looked => s.put i { x with stage := .observed (s.memory.generation x.tenant) }
  | .observed g =>
    match answers x.tenant x.inquiry with
    | .ok a => s.put i { x with stage := .loaded g mark a }
    | .error e => s.put i { x with stage := .failed e }
  | .loaded g n a => (s.file limits now x.tenant g n x.inquiry a).put i { x with stage := .done n a }
  | .done _ _ | .failed _ => s

/-- Where there is no such visit, nothing happens. -/
def proceed (limits : CacheLimits) (now i mark : Nat) (answers : String → (q : Inquiry) → Answer q.Item)
    (s : Traffic) : Traffic :=
  match s.visits[i]? with
  | some x => s.advance limits now i mark answers x
  | none => s

variable {s t : Traffic} {limits : CacheLimits} {now i mark began : Nat} {tenant : String} {q : Inquiry}
  {answers : String → (q : Inquiry) → Answer q.Item}

/-- All that a new visit can find. -/
inductive Looked (limits : CacheLimits) (now began : Nat) (tenant : String) (q : Inquiry) (s : Traffic) : Traffic → Prop
  | missed : Looked limits now began tenant q s { s with visits := s.visits ++ [⟨tenant, q, began, .looked⟩] }
  | hit {a : q.Item} (known : s.memory.known? limits now tenant q = some a) :
      Looked limits now began tenant q s
        { s with visits := s.visits ++ [⟨tenant, q, began, .done (s.origin tenant q) a⟩] }

theorem looked (limits : CacheLimits) (now began : Nat) (tenant : String) (q : Inquiry) (s : Traffic) :
    Looked limits now began tenant q s (s.look limits now began tenant q) := by
  unfold look
  cases known : s.memory.known? limits now tenant q with
  | some a => exact .hit known
  | none => exact .missed

/-- All that becomes of a visit that goes on. -/
inductive Proceeded (limits : CacheLimits) (now i mark : Nat) (answers : String → (q : Inquiry) → Answer q.Item)
    (s : Traffic) : Traffic → Prop
  | idle : Proceeded limits now i mark answers s s
  | observed {tenant : String} {q : Inquiry} {began : Nat} (there : s.visits[i]? = some ⟨tenant, q, began, .looked⟩) :
      Proceeded limits now i mark answers s (s.put i ⟨tenant, q, began, .observed (s.memory.generation tenant)⟩)
  | loaded {tenant : String} {q : Inquiry} {began : Nat} {g : UInt64} {a : q.Item}
      (there : s.visits[i]? = some ⟨tenant, q, began, .observed g⟩) (answered : answers tenant q = .ok a) :
      Proceeded limits now i mark answers s (s.put i ⟨tenant, q, began, .loaded g mark a⟩)
  | failed {tenant : String} {q : Inquiry} {began : Nat} {g : UInt64} (e : Failure)
      (there : s.visits[i]? = some ⟨tenant, q, began, .observed g⟩) :
      Proceeded limits now i mark answers s (s.put i ⟨tenant, q, began, .failed e⟩)
  | handed {tenant : String} {q : Inquiry} {began : Nat} {g : UInt64} {n : Nat} {a : q.Item}
      (there : s.visits[i]? = some ⟨tenant, q, began, .loaded g n a⟩) :
      Proceeded limits now i mark answers s
        ((s.file limits now tenant g n q a).put i ⟨tenant, q, began, .done n a⟩)

theorem proceeded (limits : CacheLimits) (now i mark : Nat) (answers : String → (q : Inquiry) → Answer q.Item)
    (s : Traffic) : Proceeded limits now i mark answers s (s.proceed limits now i mark answers) := by
  unfold proceed
  cases there : s.visits[i]? with
  | none => exact .idle
  | some x =>
      obtain ⟨tenant, q, began, stage⟩ := x
      cases stage with
      | looked => exact .observed there
      | observed g =>
          simp only [advance]
          cases answered : answers tenant q with
          | ok a => exact .loaded there answered
          | error e => exact .failed e there
      | loaded g n a => exact .handed there
      | done n a => exact .idle
      | failed e => exact .idle

theorem Looked.memory (h : Looked limits now began tenant q s t) : t.memory = s.memory := by
  cases h <;> rfl

/-- Hence a generation does not change when a visit goes on. -/
theorem Proceeded.generation (h : Proceeded limits now i mark answers s t) :
    t.memory.generation tenant = s.memory.generation tenant := by
  cases h with
  | idle | observed | loaded | failed => rfl
  | handed there => exact Memory.generation_file

section Alone
variable (limits) (now mark) (answers) {xs : List Visit} {x : Visit} {g : UInt64} {n : Nat} {a : q.Item}

theorem put_last (visits : s.visits = xs ++ [x]) (y : Visit) : (s.put xs.length y).visits = xs ++ [y] := by
  simp only [put, visits, List.set_append_right _ _ (Nat.le_refl _), Nat.sub_self, List.set_cons_zero]

theorem proceed_last (visits : s.visits = xs ++ [x]) :
    s.proceed limits now xs.length mark answers = s.advance limits now xs.length mark answers x := by
  simp only [proceed, visits, List.getElem?_concat_length]

/-- Only the last visit has come on, in a move that filed nothing. -/
structure Onward (s t : Traffic) (xs : List Visit) (x : Visit) : Prop where
  visits : t.visits = xs ++ [x]
  memory : t.memory = s.memory

theorem proceed_looked (visits : s.visits = xs ++ [⟨tenant, q, began, .looked⟩]) :
    Onward s (s.proceed limits now xs.length mark answers) xs
      ⟨tenant, q, began, .observed (s.memory.generation tenant)⟩ := by
  rw [proceed_last limits now mark answers visits]
  exact ⟨put_last visits _, rfl⟩

theorem proceed_observed (visits : s.visits = xs ++ [⟨tenant, q, began, .observed g⟩])
    (loaded : answers tenant q = .ok a) :
    Onward s (s.proceed limits now xs.length mark answers) xs ⟨tenant, q, began, .loaded g mark a⟩ := by
  rw [proceed_last limits now mark answers visits]
  simp only [advance, loaded]
  exact ⟨put_last visits _, rfl⟩

theorem proceed_refused {e : Failure} (visits : s.visits = xs ++ [⟨tenant, q, began, .observed g⟩])
    (failed : answers tenant q = .error e) :
    Onward s (s.proceed limits now xs.length mark answers) xs ⟨tenant, q, began, .failed e⟩ := by
  rw [proceed_last limits now mark answers visits]
  simp only [advance, failed]
  exact ⟨put_last visits _, rfl⟩

theorem proceed_loaded (visits : s.visits = xs ++ [⟨tenant, q, began, .loaded g n a⟩]) :
    (s.proceed limits now xs.length mark answers).visits = xs ++ [⟨tenant, q, began, .done n a⟩] ∧
      (s.proceed limits now xs.length mark answers).memory = s.memory.file limits now tenant g q a := by
  rw [proceed_last limits now mark answers visits]
  have filed : (s.file limits now tenant g n q a).visits = _ := visits
  exact ⟨put_last filed _, rfl⟩

theorem proceed_ended (visits : s.visits = xs ++ [x]) (ended : x.stage.answer?.isSome) :
    Onward s (s.proceed limits now xs.length mark answers) xs x := by
  rw [proceed_last limits now mark answers visits]
  obtain ⟨tenant, q, began, stage⟩ := x
  cases stage with
  | looked | observed | loaded => cases ended
  | done | failed => exact ⟨visits, rfl⟩

/-- A visit that goes on three times and is left alone is answered as a deployment answers, and leaves the
same cache. -/
theorem look_alone {d : Deployment} {ctx : Context} (cached : d.cache = .memory limits s.memory)
    (admitted : d.caller ctx = .ok tenant) (q : Inquiry) (began first second third : Nat) :
    let next (mark : Nat) (t : Traffic) := t.proceed limits d.now s.visits.length mark d.inventory.answer
    let t := next third (next second (next first (s.look limits d.now began tenant q)))
    ∃ stage, t.visits = s.visits ++ [⟨tenant, q, began, stage⟩] ∧
      stage.answer? = some ((Deployment.seek ctx tenant q).result d).1 ∧
      ((Deployment.seek ctx tenant q).result d).2 = { d with cache := .memory limits t.memory } := by
  intro next t
  cases known : s.memory.known? limits d.now tenant q with
  | some a =>
      have visits : (s.look limits d.now began tenant q).visits =
          s.visits ++ [⟨tenant, q, began, .done (s.origin tenant q) a⟩] := by
        simp only [look, known]
      have one := proceed_ended limits d.now first d.inventory.answer visits rfl
      have two := proceed_ended limits d.now second d.inventory.answer one.visits rfl
      have three := proceed_ended limits d.now third d.inventory.answer two.visits rfl
      have memory : t.memory = s.memory := three.memory.trans (two.memory.trans one.memory)
      rw [memory, Deployment.seek_hit cached known, Deployment.cache_self cached]
      exact ⟨_, three.visits, rfl, rfl⟩
  | none =>
      have seek : (Deployment.seek ctx tenant q).result d = _ := Deployment.seek_miss cached known
      rw [admitted] at seek
      have visits : (s.look limits d.now began tenant q).visits = s.visits ++ [⟨tenant, q, began, .looked⟩] := by
        simp only [look, known]
      have one := proceed_looked limits d.now first d.inventory.answer visits
      cases loaded : d.inventory.answer tenant q with
      | ok a =>
          have two := proceed_observed limits d.now second _ one.visits loaded
          obtain ⟨last, filed⟩ := proceed_loaded limits d.now third d.inventory.answer two.visits
          have memory : t.memory = s.memory.file limits d.now tenant (s.memory.generation tenant) q a := by
            refine filed.trans ?_
            rw [two.memory, one.memory]
            rfl
          rw [memory, seek]
          simp only [bind, Except.bind, loaded]
          exact ⟨_, last, rfl, rfl⟩
      | error e =>
          have two := proceed_refused limits d.now second _ one.visits loaded
          have three := proceed_ended limits d.now third d.inventory.answer two.visits rfl
          have memory : t.memory = s.memory := three.memory.trans (two.memory.trans one.memory)
          rw [memory, seek, Deployment.cache_self cached]
          simp only [bind, Except.bind, loaded]
          exact ⟨_, three.visits, rfl, trivial⟩

end Alone

/-! Visits, invalidations and clearings, in any order. What a visit loads is marked as its own. -/

inductive Move where
  /-- A new visit looks in the cache. -/
  | look (now : Nat) (tenant : String) (q : Inquiry)
  /-- A visit goes on; if it loads, the store gives these answers. -/
  | proceed (now i : Nat) (answers : String → (q : Inquiry) → Answer q.Item)
  | invalidate (tenant id : String) (c : Change)
  | clear

/-- A move that cannot be made changes nothing. -/
def step (limits : CacheLimits) (s : Traffic) : Move → Traffic
  | .look now tenant q => s.look limits now now tenant q
  | .proceed now i answers => s.proceed limits now i i answers
  | .invalidate tenant id c => { s with memory := s.memory.invalidate tenant id c }
  | .clear => { s with memory := Memory.clear }

def run (limits : CacheLimits) (s : Traffic) (moves : List Move) : Traffic := moves.foldl (step limits) s

/-- All that a move can do. -/
inductive Stepped (limits : CacheLimits) (s : Traffic) : Traffic → Prop
  | looked {now began : Nat} {tenant : String} {q : Inquiry} {t : Traffic} (h : Looked limits now began tenant q s t) :
      Stepped limits s t
  | proceeded {now i : Nat} {answers : String → (q : Inquiry) → Answer q.Item} {t : Traffic}
      (h : Proceeded limits now i i answers s t) : Stepped limits s t
  | told (tenant id : String) (c : Change) : Stepped limits s { s with memory := s.memory.invalidate tenant id c }
  | cleared : Stepped limits s { s with memory := Memory.clear }

theorem stepped (limits : CacheLimits) (s : Traffic) (move : Move) : Stepped limits s (s.step limits move) := by
  cases move with
  | look now tenant q => exact .looked (looked limits now now tenant q s)
  | proceed now i answers => exact .proceeded (proceeded limits now i i answers s)
  | invalidate tenant id c => exact .told tenant id c
  | clear => exact .cleared

/-- A visit that is left alone is answered as a deployment answers, and leaves the same cache. -/
theorem visit_alone {d : Deployment} {ctx : Context} (cached : d.cache = .memory limits s.memory)
    (admitted : d.caller ctx = .ok tenant) (q : Inquiry) :
    let next : Move := .proceed d.now s.visits.length d.inventory.answer
    let t := s.run limits [.look d.now tenant q, next, next, next]
    ∃ stage, t.visits = s.visits ++ [⟨tenant, q, d.now, stage⟩] ∧
      stage.answer? = some ((Deployment.seek ctx tenant q).result d).1 ∧
      ((Deployment.seek ctx tenant q).result d).2 = { d with cache := .memory limits t.memory } :=
  look_alone limits cached admitted q d.now _ _ _

end Traffic
end Upkeep
