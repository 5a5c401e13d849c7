import Upkeep.Proofs.Cache.Race

/-! Why no race leaves anything stale in a cache in memory. Every entry was loaded after all the
writes it is touched by and that the cache has been told of; what a read has loaded under the
generation that still stands was loaded after all writes that the cache has been told of. -/
namespace Upkeep

namespace Timeline
variable {s t : Timeline} {x : Visit}

/-- An entry comes from an inventory that was there after all writes it is touched by, of those
that the cache has been told of. -/
structure Current (s : Timeline) (tenant : String) (q : Inquiry) (n : Nat) (a : q.Item) : Prop where
  loaded : s.Loaded tenant q n a
  past : s.Past n fun w => w.tenant = tenant ∧ q.Touched w.id w.change

/-- What a read has loaded, before it files it. -/
structure Pending (s : Timeline) (x : Visit) (g : UInt64) (n : Nat) (a : x.inquiry.Item) : Prop where
  loaded : s.Loaded x.tenant x.inquiry n a
  began : x.began < n
  observed : g.toNat ≤ s.raised x.tenant
  past : s.Past n fun w => w.tenant = x.tenant ∧ w.rank ≤ g.toNat

/-- A read that was answered is past all writes that the cache was told of before it began. -/
structure Answered (s : Timeline) (x : Visit) (n : Nat) (a : x.inquiry.Item) : Prop where
  loaded : s.Loaded x.tenant x.inquiry n a
  past : s.Past n fun w => w.tenant = x.tenant ∧ x.inquiry.Touched w.id w.change ∧
    ∃ t, w.told = some t ∧ t < x.began

structure SoundVisit (s : Timeline) (x : Visit) : Prop where
  began : x.began < s.moment
  observed : ∀ g, x.stage = .observed g → g.toNat ≤ s.raised x.tenant
  loaded : ∀ g n a, x.stage = .loaded g n a → s.Pending x g n a
  done : ∀ n a, x.stage = .done n a → s.Answered x n a

section
variable (began : x.began < s.moment)
include began

theorem soundVisit_looked (stage : x.stage = .looked) : s.SoundVisit x where
  began := began
  observed g at_ := by cases stage.symm.trans at_
  loaded g n a at_ := by cases stage.symm.trans at_
  done n a at_ := by cases stage.symm.trans at_

theorem soundVisit_observed {g : UInt64} (stage : x.stage = .observed g)
    (observed : g.toNat ≤ s.raised x.tenant) : s.SoundVisit x where
  began := began
  observed h at_ := by cases stage.symm.trans at_; exact observed
  loaded h n a at_ := by cases stage.symm.trans at_
  done n a at_ := by cases stage.symm.trans at_

theorem soundVisit_loaded {g : UInt64} {n : Nat} {a : x.inquiry.Item} (stage : x.stage = .loaded g n a)
    (pending : s.Pending x g n a) : s.SoundVisit x where
  began := began
  observed h at_ := by cases stage.symm.trans at_
  loaded h m b at_ := by cases stage.symm.trans at_; exact pending
  done m b at_ := by cases stage.symm.trans at_

theorem soundVisit_done {n : Nat} {a : x.inquiry.Item} (stage : x.stage = .done n a)
    (answered : s.Answered x n a) : s.SoundVisit x where
  began := began
  observed g at_ := by cases stage.symm.trans at_
  loaded g m b at_ := by cases stage.symm.trans at_
  done m b at_ := by cases stage.symm.trans at_; exact answered

theorem soundVisit_failed {e : Failure} (stage : x.stage = .failed e) : s.SoundVisit x where
  began := began
  observed g at_ := by cases stage.symm.trans at_
  loaded g n a at_ := by cases stage.symm.trans at_
  done n a at_ := by cases stage.symm.trans at_

end

theorem SoundVisit.later (sound : s.SoundVisit x) (later : s.Later t) : t.SoundVisit x where
  began := Nat.lt_of_lt_of_le sound.began later.moment
  observed g at_ := Nat.le_trans (sound.observed g at_) (later.raised _)
  loaded g n a at_ := by
    have pending := sound.loaded g n a at_
    refine ⟨pending.loaded.later later, pending.began,
      Nat.le_trans pending.observed (later.raised _), pending.past.later later ?_⟩
    rintro w - high ⟨tenant, low⟩
    have observed := pending.observed
    rw [tenant] at high
    omega
  done n a at_ := by
    have answered := sound.done n a at_
    refine ⟨answered.loaded.later later, answered.past.later later ?_⟩
    rintro w late - ⟨-, -, t, told, early⟩
    have began := sound.began
    have later := late t told
    omega

end Timeline

namespace Race

structure Sound (s : Race) : Prop where
  timed : s.Timed
  counted : ∀ tenant, s.memory.generation tenant = UInt64.ofNat (s.raised tenant)
  entries : ∀ tenant q a, s.memory.Holds tenant q a → s.Current tenant q (s.origin tenant q) a
  visits : ∀ x ∈ s.visits, s.SoundVisit x

variable {s t : Race} {x : Visit} {limits : CacheLimits} {tenant : String} {q : Inquiry}

/-- After a move that told the cache of nothing. -/
theorem Sound.advance (sound : s.Sound) (quiet : s.Quiet t.toTimeline)
    (generation : ∀ tenant, t.memory.generation tenant = s.memory.generation tenant)
    (entries : ∀ tenant q a, t.memory.Holds tenant q a → s.Current tenant q (t.origin tenant q) a)
    (visits : ∀ x ∈ t.visits, s.SoundVisit x ∨ (t.tick s.inventory).SoundVisit x) :
    (t.tick s.inventory).Sound := by
  have later := quiet.later.trans (Timeline.later_tick s.inventory)
  refine ⟨sound.timed.quiet quiet s.inventory, fun tenant => ?_, fun tenant q a held => ?_,
    fun x member => (visits x member).elim (·.later later) id⟩
  · have counted := (generation tenant).trans (sound.counted tenant)
    rw [← quiet.raised] at counted
    exact counted
  · have current := entries tenant q a held
    have past : t.toTimeline.Past _ _ := current.past.quiet quiet
    exact ⟨current.loaded.later later, past⟩

/-- After a move in which one visit has come on and nothing was filed. -/
theorem Sound.visited (sound : s.Sound) {after : Traffic} (memory : after.memory = s.memory)
    (origin : after.origin = s.origin)
    (visits : ∀ x ∈ after.visits, x ∈ s.visits ∨ (s.tick s.inventory).SoundVisit x) :
    (Race.tick s.inventory { s with toTraffic := after }).Sound := by
  refine sound.advance (.refl _) (fun tenant => congrArg (·.generation tenant) memory) ?_ fun x member =>
    (visits x member).imp (sound.visits x) id
  intro tenant q a held
  dsimp only at held ⊢
  rw [memory] at held
  rw [origin]
  exact sound.entries tenant q a held

theorem Sound.look (sound : s.Sound) (now : Nat) (tenant : String) (q : Inquiry) :
    (s.step limits (.look now tenant q)).Sound := by
  have began : s.moment < s.moment + 1 := Nat.lt_succ_self _
  have found := Traffic.looked limits now s.moment tenant q s.toTraffic
  unfold Race.step act
  dsimp only
  generalize s.toTraffic.look limits now s.moment tenant q = after at *
  cases found with
  | missed =>
      refine sound.visited rfl rfl fun x member => (List.mem_append.1 member).imp_right fun new => ?_
      cases List.mem_singleton.1 new
      exact Timeline.soundVisit_looked began rfl
  | hit known =>
      refine sound.visited rfl rfl fun x member => (List.mem_append.1 member).imp_right fun new => ?_
      cases List.mem_singleton.1 new
      have current := sound.entries tenant q _ (Memory.holds_of_known? known)
      apply Timeline.soundVisit_done began rfl
      refine ⟨current.loaded.later (Timeline.later_tick _), fun w made told counts => ?_⟩
      exact current.past w made told ⟨counts.1, counts.2.1⟩

theorem Sound.put (sound : s.Sound) (i : Nat) (new : (s.tick s.inventory).SoundVisit x) :
    (Race.tick s.inventory { s with toTraffic := s.toTraffic.put i x }).Sound := by
  refine sound.visited rfl rfl fun y member => (List.mem_or_eq_of_mem_set member).imp_right ?_
  rintro rfl
  exact new

theorem Sound.current_of_pending (sound : s.Sound) (few : s.raised x.tenant < twoTo 64)
    {g : UInt64} {n : Nat} {a : x.inquiry.Item} (pending : s.Pending x g n a)
    (current : s.memory.generation x.tenant = g) : s.Current x.tenant x.inquiry n a := by
  refine ⟨pending.loaded, fun w made told counts => pending.past w made told ⟨counts.1, ?_⟩⟩
  have rank := sound.timed.rank w made told
  rw [counts.1] at rank
  rw [← current, sound.counted, UInt64.toNat_ofNat', Nat.mod_eq_of_lt few]
  exact rank

theorem Sound.file_entries (sound : s.Sound) (now : Nat) {g : UInt64} {n : Nat} {a : q.Item}
    (current : s.memory.generation tenant = g → s.Current tenant q n a) (other : String)
    (r : Inquiry) (b : r.Item) (held : (s.file limits now tenant g n q a).memory.Holds other r b) :
    s.Current other r ((s.file limits now tenant g n q a).origin other r) b := by
  unfold Traffic.file at held ⊢
  dsimp only at held ⊢
  rcases Memory.held_file held with ⟨live, rfl, new⟩ | ⟨apart, old⟩
  · cases new
    rw [if_pos ⟨live, rfl, rfl⟩]
    exact current live
  · rw [if_neg apart]
    exact sound.entries other r b old

theorem Sound.proceed (sound : s.Sound) (few : ∀ tenant, s.raised tenant < twoTo 64) (now i : Nat) :
    (s.step limits (.proceed now i)).Sound := by
  have later := Timeline.later_tick (s := s.toTimeline) s.inventory
  have done := Traffic.proceeded limits now i s.moment s.inventory.answer s.toTraffic
  unfold Race.step act
  dsimp only
  generalize s.toTraffic.proceed limits now i s.moment s.inventory.answer = after at *
  cases done with
  | idle => exact sound.visited rfl rfl fun x member => .inl member
  | observed there =>
      have before := sound.visits _ (List.mem_of_getElem? there)
      apply sound.put i
      apply Timeline.soundVisit_observed (Nat.lt_succ_of_lt before.began) rfl
      rw [sound.counted, UInt64.toNat_ofNat']
      exact Nat.mod_le _ _
  | loaded there answered =>
      have before := sound.visits _ (List.mem_of_getElem? there)
      apply sound.put i
      apply Timeline.soundVisit_loaded (Nat.lt_succ_of_lt before.began) rfl
      exact ⟨Timeline.loaded_tick answered, before.began, before.observed _ rfl, sound.timed.past _⟩
  | failed e there =>
      have before := sound.visits _ (List.mem_of_getElem? there)
      exact sound.put i (Timeline.soundVisit_failed (Nat.lt_succ_of_lt before.began) rfl)
  | handed there =>
      have before := sound.visits _ (List.mem_of_getElem? there)
      have pending := before.loaded _ _ _ rfl
      refine sound.advance (.refl _) (fun _ => Memory.generation_file)
        (sound.file_entries now (sound.current_of_pending (few _) pending)) fun x kept => ?_
      rcases List.mem_or_eq_of_mem_set kept with old | rfl
      · exact Or.inl (sound.visits x old)
      · right
        apply Timeline.soundVisit_done (Nat.lt_succ_of_lt before.began) rfl
        refine ⟨pending.loaded.later later, fun w made told counts => ?_⟩
        obtain ⟨-, -, t, at_, early⟩ := counts
        have order := (sound.timed.told w made t at_).1
        have began := pending.began
        dsimp only at early began
        omega

theorem Sound.outside (sound : s.Sound) {later : Timeline} (quiet : s.Quiet later) :
    (Race.tick s.inventory { s with toTimeline := later }).Sound :=
  sound.advance quiet (fun _ => rfl) sound.entries fun x kept => Or.inl (sound.visits x kept)

theorem Sound.tell (sound : s.Sound) {j : Nat} {w : Write} (made : w ∈ s.writes) :
    ((s.tell j w).tick s.inventory).Sound := by
  have later := (Timeline.later_tell (s := s.toTimeline) (j := j) w).trans
    (Timeline.later_tick s.inventory)
  refine ⟨sound.timed.tell made s.inventory, fun tenant => ?_, fun tenant q a held => ?_,
    fun x member => (sound.visits x member).later later⟩
  · have counted := sound.counted tenant
    simp only [Race.tick, Race.tell, Timeline.tick, Timeline.tell, Memory.generation_invalidate]
    by_cases same : tenant = w.tenant
    · subst same
      rw [if_pos rfl, if_pos rfl, counted, UInt64.ofNat_add]
      rfl
    · rw [if_neg same, if_neg same, counted]
  · have kept := Memory.held_invalidate held
    have current := sound.entries tenant q a kept.1
    refine ⟨current.loaded.later later, fun v member told counts => ?_⟩
    rcases List.mem_or_eq_of_mem_set member with old | rfl
    · exact current.past v old told counts
    · exact absurd counts.2 (kept.2 counts.1.symm)

theorem Sound.step (sound : s.Sound) (few : ∀ tenant, s.raised tenant < twoTo 64) (move : Move) :
    (s.step limits move).Sound := by
  have idle : (s.tick s.inventory).Sound := sound.outside (.refl _)
  cases move with
  | look now tenant q => exact sound.look now tenant q
  | proceed now i => exact sound.proceed few now i
  | commit order => exact sound.outside (Timeline.quiet_commit order)
  | tell j =>
      unfold Race.step act
      dsimp only
      split
      · next w found =>
        split
        · exact sound.tell (List.mem_of_getElem? found)
        · exact idle
      · exact idle
  | alter inventory => exact sound.outside (Timeline.quiet_alter inventory)

theorem Sound.run (sound : s.Sound) (moves : List Move)
    (few : ∀ tenant, (s.run limits moves).raised tenant < twoTo 64) : (s.run limits moves).Sound := by
  induction moves generalizing s with
  | nil => exact sound
  | cons move moves ih =>
      have later := (Timeline.later_run (next_step limits) (move :: moves) s).raised
      exact ih (sound.step (fun tenant => Nat.lt_of_le_of_lt (later tenant) (few tenant)) move) few

theorem sound_start (inventory : Inventory) : Sound { inventory } where
  timed := ⟨fun _ made => (nomatch made), fun _ made => (nomatch made), fun _ made => (nomatch made)⟩
  counted _ := rfl
  entries _ q a held := absurd held (Memory.not_holds_empty q a)
  visits _ member := (nomatch member)

/-- A read is answered with what an inventory of the run gave. If it began when the cache had
been told of a write that touches its answer, that inventory came after the write. -/
theorem read_after_told (limits : CacheLimits) (inventory : Inventory) (moves : List Move)
    (few : ∀ tenant, (run limits { inventory } moves).raised tenant < twoTo 64)
    {x : Visit} (member : x ∈ (run limits { inventory } moves).visits) {n : Nat} {a : x.inquiry.Item}
    (done : x.stage = .done n a) :
    (run limits { inventory } (moves.take n)).inventory.answer x.tenant x.inquiry = .ok a ∧
    ∀ w ∈ (run limits { inventory } moves).writes, w.tenant = x.tenant →
      x.inquiry.Touched w.id w.change → ∀ t, w.told = some t → t < x.began → w.committed < n := by
  have sound := (sound_start inventory).run moves few
  have answered := (sound.visits x member).done n a done
  refine ⟨answered.loaded.run (next_step limits) rfl, fun w made tenant touched t told early => ?_⟩
  exact answered.past w made (by simp [told]) ⟨tenant, touched, t, told, early⟩

/-- A schedule is read, and renamed before the reader files it; then it is read again. -/
def racing : List Move :=
  let q := .one "singlesche-f0000000"
  let rename := .update "later" "a" "singlesche-f0000000" ["name"] { name := "new" }
  [.look 0 "a" q, .proceed 0 0, .proceed 0 0, .commit rename, .tell 0, .proceed 0 0,
    .look 0 "a" q, .proceed 0 1, .proceed 0 1, .proceed 0 1]

theorem read_after_told_racing :
    let s := run ⟨1000, 10⟩ { inventory := Deployment.sheltered.inventory } racing
    let a : Schedule := { Deployment.shelteredSchedule with name := "new", updatedAt := "later" }
    let x : Visit := ⟨"a", .one "singlesche-f0000000", 6, .done 8 a⟩
    let w : Write := ⟨"a", "singlesche-f0000000", .updated, 3, some 4, 1⟩
    x ∈ s.visits ∧ w ∈ s.writes ∧ x.inquiry.Touched w.id w.change ∧ w.committed < 8 := by
  intro s a x w
  have member : x ∈ s.visits := List.mem_of_getElem? (rfl : s.visits[1]? = some x)
  have made : w ∈ s.writes := List.mem_of_getElem? (rfl : s.writes[0]? = some w)
  have few : ∀ tenant, s.raised tenant < twoTo 64 := fun tenant =>
    Nat.lt_of_le_of_lt (Timeline.raised_run (next_step _) racing _ tenant)
      (show 0 + racing.length < twoTo 64 by decide)
  have told := (read_after_told _ _ racing few member rfl).2 w made rfl ⟨rfl, rfl⟩ 4 rfl (by decide)
  exact ⟨member, made, ⟨rfl, rfl⟩, told⟩

end Race
end Upkeep
