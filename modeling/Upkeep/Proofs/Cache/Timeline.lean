import Upkeep.Proofs.Cache.Inquiry
import Upkeep.Proofs.Inventory.Change

/-! An inventory over time, while others are at work on it. Every move is made at a moment of
its own; a write is committed at one moment, and caches are told of it at a later one. -/
namespace Upkeep

inductive Order where
  | create (ids : Ids) (now tenant : String) (s : Schedule)
  | update (now tenant id : String) (mask : List String) (s : Schedule)
  | delete (tenant id : String)

/-- A write that was committed. -/
structure Write where
  tenant : String
  id : String
  change : Change
  committed : Nat
  told : Option Nat := none
  /-- Of how many changes of the tenant the cache had been told then. -/
  rank : Nat := 0

/-- The write that is committed at a moment, with the inventory after it. Where the inventory
fails, there is none. -/
def Order.commit (inv : Inventory) (moment : Nat) : Order → Option (Write × Inventory)
  | .create ids now tenant s =>
    match inv.create ids now tenant (.schedule s) with
    | (.ok r, next, _) => some ({ tenant, id := r.id, change := .created, committed := moment }, next)
    | (.error _, _) => none
  | .update now tenant id mask s =>
    match inv.update now tenant id mask (.schedule s) with
    | (.ok _, next) => some ({ tenant, id, change := .updated, committed := moment }, next)
    | (.error _, _) => none
  | .delete tenant id =>
    match inv.delete tenant id with
    | (.ok _, next) => some ({ tenant, id, change := .deleted, committed := moment }, next)
    | (.error _, _) => none

theorem Order.commit_fresh {order : Order} {inv next : Inventory} {moment : Nat} {w : Write}
    (h : order.commit inv moment = some (w, next)) : w.committed = moment ∧ w.told = none := by
  cases order <;> simp only [commit] at h <;> split at h <;> cases h <;> exact ⟨rfl, rfl⟩

structure Timeline where
  moment : Nat := 0
  inventory : Inventory := {}
  /-- The inventory that the move of each moment has found. -/
  past : Nat → Inventory := fun _ => {}
  writes : List Write := []
  /-- Of how many changes the cache has been told, tenant by tenant. -/
  raised : String → Nat := fun _ => 0

namespace Timeline
variable {s t u : Timeline}

structure Loaded (s : Timeline) (tenant : String) (q : Inquiry) (n : Nat) (a : q.Item) : Prop where
  before : n < s.moment
  answer : (s.past n).answer tenant q = .ok a

/-- A moment is past the commits of some of the writes that the cache has been told of. -/
def Past (s : Timeline) (n : Nat) (those : Write → Prop) : Prop :=
  ∀ w ∈ s.writes, w.told ≠ none → those w → w.committed < n

def commit (order : Order) (s : Timeline) : Timeline :=
  match order.commit s.inventory s.moment with
  | some (w, next) => { s with inventory := next, writes := s.writes ++ [w] }
  | none => s

def tell (j : Nat) (w : Write) (s : Timeline) : Timeline :=
  { s with
    writes := s.writes.set j { w with told := some s.moment, rank := s.raised w.tenant + 1 }
    raised := fun tenant => if tenant = w.tenant then s.raised tenant + 1 else s.raised tenant }

/-- A moment goes by in which the inventory stood as it did before. -/
def tick (before : Inventory) (s : Timeline) : Timeline :=
  { s with
    moment := s.moment + 1
    past := fun n => if n = s.moment then before else s.past n }

structure Timed (s : Timeline) : Prop where
  committed : ∀ w ∈ s.writes, w.committed < s.moment
  told : ∀ w ∈ s.writes, ∀ n, w.told = some n → w.committed < n ∧ n < s.moment
  rank : ∀ w ∈ s.writes, w.told ≠ none → w.rank ≤ s.raised w.tenant

structure Later (s t : Timeline) : Prop where
  moment : s.moment ≤ t.moment
  past : ∀ n, n < s.moment → t.past n = s.past n
  raised : ∀ tenant, s.raised tenant ≤ t.raised tenant
  told : ∀ w ∈ t.writes, w.told ≠ none →
    w ∈ s.writes ∨ (∀ n, w.told = some n → s.moment ≤ n) ∧ s.raised w.tenant < w.rank

theorem Later.refl (s : Timeline) : s.Later s :=
  ⟨Nat.le_refl _, fun _ _ => rfl, fun _ => Nat.le_refl _, fun _ made _ => Or.inl made⟩

theorem Later.trans (h : s.Later t) (k : t.Later u) : s.Later u where
  moment := Nat.le_trans h.moment k.moment
  past n before := (k.past n (Nat.lt_of_lt_of_le before h.moment)).trans (h.past n before)
  raised tenant := Nat.le_trans (h.raised tenant) (k.raised tenant)
  told w made told := by
    rcases k.told w made told with made | ⟨late, rank⟩
    · exact h.told w made told
    · exact Or.inr ⟨fun n at_ => Nat.le_trans h.moment (late n at_),
        Nat.lt_of_le_of_lt (h.raised _) rank⟩

theorem later_tell {j : Nat} (w : Write) : s.Later (s.tell j w) where
  moment := Nat.le_refl _
  past _ _ := rfl
  raised tenant := by
    unfold tell
    dsimp only
    split <;> omega
  told v made _ := by
    rcases List.mem_or_eq_of_mem_set made with old | rfl
    · exact Or.inl old
    · refine Or.inr ⟨fun n at_ => ?_, Nat.lt_succ_self _⟩
      cases at_
      exact Nat.le_refl _

theorem later_tick (before : Inventory) : s.Later (s.tick before) where
  moment := Nat.le_succ _
  past _ earlier := if_neg (Nat.ne_of_lt earlier)
  raised _ := Nat.le_refl _
  told _ made _ := Or.inl made

theorem Loaded.later {tenant : String} {q : Inquiry} {n : Nat} {a : q.Item}
    (h : s.Loaded tenant q n a) (later : s.Later t) : t.Loaded tenant q n a :=
  ⟨Nat.lt_of_lt_of_le h.before later.moment, (later.past n h.before) ▸ h.answer⟩

theorem loaded_tick {tenant : String} {q : Inquiry} {a : q.Item} {before : Inventory}
    (answered : before.answer tenant q = .ok a) : (s.tick before).Loaded tenant q s.moment a :=
  ⟨Nat.lt_succ_self _, by simpa [tick] using answered⟩

/-- Writes told of later on do not count where late ones, or those of high rank, do not. -/
theorem Past.later {n : Nat} {those : Write → Prop} (h : s.Past n those) (later : s.Later t)
    (early : ∀ w, (∀ n, w.told = some n → s.moment ≤ n) → s.raised w.tenant < w.rank → ¬ those w) :
    t.Past n those := by
  intro w made told counts
  rcases later.told w made told with old | ⟨late, rank⟩
  · exact h w old told counts
  · exact absurd counts (early w late rank)

theorem Timed.past (timed : s.Timed) (those : Write → Prop) : s.Past s.moment those :=
  fun w made _ _ => timed.committed w made

/-- The moment goes on in which the cache was told of nothing. -/
structure Quiet (s t : Timeline) : Prop where
  moment : t.moment = s.moment
  past : t.past = s.past
  raised : t.raised = s.raised
  writes : ∀ w ∈ t.writes, w ∈ s.writes ∨ (w.told = none ∧ w.committed = s.moment)

theorem Quiet.refl (s : Timeline) : s.Quiet s := ⟨rfl, rfl, rfl, fun _ made => Or.inl made⟩

theorem quiet_alter (inventory : Inventory) : s.Quiet { s with inventory } :=
  ⟨rfl, rfl, rfl, fun _ made => Or.inl made⟩

theorem quiet_commit (order : Order) : s.Quiet (s.commit order) := by
  unfold commit
  split
  · next w next done =>
    refine ⟨rfl, rfl, rfl, fun v made => ?_⟩
    rcases List.mem_append.1 made with old | new
    · exact Or.inl old
    · cases List.mem_singleton.1 new
      exact Or.inr (Order.commit_fresh done).symm
  · exact Quiet.refl s

theorem Quiet.told (quiet : s.Quiet t) {w : Write} (made : w ∈ t.writes) (told : w.told ≠ none) :
    w ∈ s.writes :=
  (quiet.writes w made).resolve_right fun h => told h.1

theorem Quiet.later (quiet : s.Quiet t) : s.Later t where
  moment := Nat.le_of_eq quiet.moment.symm
  past _ _ := by rw [quiet.past]
  raised tenant := Nat.le_of_eq (congrFun quiet.raised tenant).symm
  told _ made told := Or.inl (quiet.told made told)

theorem Past.quiet {n : Nat} {those : Write → Prop} (h : s.Past n those) (quiet : s.Quiet t) :
    t.Past n those :=
  fun w made told counts => h w (quiet.told made told) told counts

theorem Timed.quiet (timed : s.Timed) (quiet : s.Quiet t) (before : Inventory) :
    (t.tick before).Timed where
  committed w made := by
    have moment : (t.tick before).moment = s.moment + 1 := congrArg (· + 1) quiet.moment
    rcases quiet.writes w made with old | ⟨-, now⟩
    · have := timed.committed w old
      omega
    · omega
  told w made n at_ := by
    have moment : (t.tick before).moment = s.moment + 1 := congrArg (· + 1) quiet.moment
    have order := timed.told w (quiet.told made (by simp [at_])) n at_
    omega
  rank w made told := by
    have rank := timed.rank w (quiet.told made told) told
    rw [← quiet.raised] at rank
    exact rank

theorem Timed.tell (timed : s.Timed) {j : Nat} {w : Write} (made : w ∈ s.writes) (before : Inventory) :
    ((s.tell j w).tick before).Timed := by
  have later := later_tell (s := s) (j := j) w
  refine ⟨fun v member => ?_, fun v member n at_ => ?_, fun v member told => ?_⟩
  · rcases List.mem_or_eq_of_mem_set member with old | rfl
    · exact Nat.lt_succ_of_lt (timed.committed v old)
    · exact Nat.lt_succ_of_lt (timed.committed w made)
  · rcases List.mem_or_eq_of_mem_set member with old | rfl
    · exact ⟨(timed.told v old n at_).1, Nat.lt_succ_of_lt (timed.told v old n at_).2⟩
    · cases at_
      exact ⟨timed.committed w made, Nat.lt_succ_self _⟩
  · rcases List.mem_or_eq_of_mem_set member with old | rfl
    · exact Nat.le_trans (timed.rank v old told) (later.raised _)
    · exact Nat.le_of_eq (if_pos rfl).symm

/-- A move was made and its moment is over: the cache was told of nothing, or of one write. -/
def Next (s t : Timeline) : Prop :=
  ∃ u, (s.Quiet u ∨ ∃ j w, u = s.tell j w) ∧ t = u.tick s.inventory

theorem Next.later (next : s.Next t) : s.Later t := by
  obtain ⟨u, quiet | ⟨j, w, rfl⟩, rfl⟩ := next
  · exact quiet.later.trans (later_tick _)
  · exact (later_tell w).trans (later_tick _)

theorem Next.moment (next : s.Next t) : t.moment = s.moment + 1 := by
  obtain ⟨u, quiet | ⟨j, w, rfl⟩, rfl⟩ := next
  · exact congrArg (· + 1) quiet.moment
  · rfl

theorem Next.past (next : s.Next t) : t.past s.moment = s.inventory := by
  obtain ⟨u, quiet | ⟨j, w, rfl⟩, rfl⟩ := next
  · exact if_pos quiet.moment.symm
  · exact if_pos rfl

theorem Next.raised (next : s.Next t) (tenant : String) : t.raised tenant ≤ s.raised tenant + 1 := by
  obtain ⟨u, quiet | ⟨j, w, rfl⟩, rfl⟩ := next
  · exact Nat.le_trans (Nat.le_of_eq (congrFun quiet.raised tenant)) (Nat.le_succ _)
  · unfold tick tell
    dsimp only
    split <;> omega

section
variable {σ μ : Type} {time : σ → Timeline} {step : σ → μ → σ}

theorem later_run (next : ∀ s m, (time s).Next (time (step s m))) (moves : List μ) (s : σ) :
    (time s).Later (time (moves.foldl step s)) := by
  induction moves generalizing s with
  | nil => exact .refl _
  | cons move moves ih => exact (next s move).later.trans (ih (step s move))

theorem moment_run (next : ∀ s m, (time s).Next (time (step s m))) (moves : List μ) (s : σ) :
    (time (moves.foldl step s)).moment = (time s).moment + moves.length := by
  induction moves generalizing s with
  | nil => rfl
  | cons move moves ih =>
      have first := (next s move).moment
      have rest := ih (step s move)
      rw [List.foldl_cons, List.length_cons]
      omega

theorem raised_run (next : ∀ s m, (time s).Next (time (step s m))) (moves : List μ) (s : σ)
    (tenant : String) :
    (time (moves.foldl step s)).raised tenant ≤ (time s).raised tenant + moves.length := by
  induction moves generalizing s with
  | nil => exact Nat.le_refl _
  | cons move moves ih =>
      have first := (next s move).raised tenant
      have rest := ih (step s move)
      rw [List.foldl_cons, List.length_cons]
      omega

theorem past_run (next : ∀ s m, (time s).Next (time (step s m))) (moves : List μ) (s : σ) {n : Nat}
    (before : n < moves.length) : (time (moves.foldl step s)).past ((time s).moment + n) =
      (time ((moves.take n).foldl step s)).inventory := by
  induction moves generalizing s n with
  | nil => exact absurd before (Nat.not_lt_zero n)
  | cons move moves ih =>
      have first := next s move
      cases n with
      | zero =>
          refine ((later_run next moves (step s move)).past _ ?_).trans first.past
          rw [first.moment]
          exact Nat.lt_succ_self _
      | succ n =>
          have found := ih (step s move) (Nat.lt_of_succ_lt_succ before)
          rw [first.moment, Nat.add_assoc, Nat.add_comm 1 n] at found
          exact found

/-- What has been loaded in a run is what an inventory of the run gave. -/
theorem Loaded.run (next : ∀ s m, (time s).Next (time (step s m))) {moves : List μ} {s : σ}
    (start : (time s).moment = 0) {tenant : String} {q : Inquiry} {n : Nat} {a : q.Item}
    (loaded : (time (moves.foldl step s)).Loaded tenant q n a) :
    (time ((moves.take n).foldl step s)).inventory.answer tenant q = .ok a := by
  have before := loaded.before
  rw [moment_run next, start, Nat.zero_add] at before
  have record := past_run next moves s before
  rw [start, Nat.zero_add] at record
  rw [← record]
  exact loaded.answer

end

end Timeline
end Upkeep
