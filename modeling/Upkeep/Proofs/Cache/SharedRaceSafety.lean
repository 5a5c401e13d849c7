import Upkeep.Proofs.Cache.SharedRace
import Upkeep.Proofs.Inventory.Reachable

/-! Why no race leaves anything stale in a shared cache. Every entry was loaded after the writes
that had raised the generation up to its own; a read that begins after a write has raised the
generation sees that generation or a later one, and no entry of an older one. -/
namespace Upkeep

theorem Order.commit_named {order : Order} {inv next : Inventory} {moment : Nat} {w : Write}
    (valid : order.isValid = true) (h : order.commit inv moment = some (w, next))
    (drops : w.change.dropsEntry = true) : Kind.schedule.isId w.id = true := by
  cases order with
  | create ids now tenant s =>
      simp only [commit] at h
      split at h
      · cases h
        cases drops
      · cases h
  | update now tenant id mask s =>
      simp only [commit] at h
      split at h
      · cases h
        exact valid
      · cases h
  | delete tenant id =>
      simp only [commit] at h
      split at h
      · cases h
        exact valid
      · cases h

/-- A cache had been told of a write of the tenant before a moment. -/
def Write.Early (w : Write) (tenant : String) (moment : Nat) : Prop :=
  w.tenant = tenant ∧ ∃ t, w.told = some t ∧ t < moment

namespace Timeline
variable {s t : Timeline} {tenant : String} {q : Inquiry} {a : q.Item} {began : Nat} {g : UInt64}

/-- An item was loaded at a moment past some of the writes that the cache has been told of. -/
def Vouched (s : Timeline) (tenant : String) (q : Inquiry) (a : q.Item) (those : Write → Prop) : Prop :=
  ∃ n, s.Loaded tenant q n a ∧ s.Past n those

structure Backed (s : Timeline) (tenant : String) (g : UInt64) (q : Inquiry) (a : q.Item) : Prop where
  observed : g.toNat ≤ s.raised tenant
  vouched : s.Vouched tenant q a fun w => w.tenant = tenant ∧ w.rank ≤ g.toNat

/-- A generation that a read has seen: no write of which the cache had been told is after it. -/
structure Seen (s : Timeline) (tenant : String) (began : Nat) (g : UInt64) : Prop where
  observed : g.toNat ≤ s.raised tenant
  early : ∀ w ∈ s.writes, w.Early tenant began → w.rank ≤ g.toNat

def SoundStage (s : Timeline) (tenant : String) (q : Inquiry) (began : Nat) :
    Fetch.Stage q.Item → Prop
  | .keyed g => s.Seen tenant began g
  | .missed g => ∀ seen, g = some seen → seen.toNat ≤ s.raised tenant
  | .loaded g a => s.Vouched tenant q a (·.Early tenant began) ∧
      ∀ seen, g = some seen → s.Backed tenant seen q a
  | .done a => s.Vouched tenant q a (·.Early tenant began)
  | .failed _ => True

theorem soundStage_asked {seen : Option UInt64} (h : ∀ g, seen = some g → s.Seen tenant began g) :
    s.SoundStage tenant q began (.asked seen) := by
  cases seen with
  | none => exact fun g same => nomatch same
  | some g => exact h g rfl

theorem soundStage_looked {found : Option q.Item} (observed : g.toNat ≤ s.raised tenant)
    (h : ∀ a, found = some a → s.Vouched tenant q a (·.Early tenant began)) :
    s.SoundStage tenant q began (.looked g found) := by
  cases found with
  | none => exact fun seen same => (Option.some.inj same) ▸ observed
  | some a => exact h a rfl

theorem soundStage_answered {g : Option UInt64} {answer : Answer q.Item}
    (h : ∀ a, answer = .ok a → s.SoundStage tenant q began (.loaded g a)) :
    s.SoundStage tenant q began (.answered g answer) := by
  cases answer with
  | ok a => exact h a rfl
  | error e => trivial

structure SoundFetch (s : Timeline) (f : Fetch) : Prop where
  valid : f.inquiry.isValid = true
  began : f.began < s.moment
  stage : s.SoundStage f.tenant f.inquiry f.began f.stage

theorem Vouched.early_later (h : s.Vouched tenant q a (·.Early tenant began)) (later : s.Later t)
    (past : began ≤ s.moment) : t.Vouched tenant q a (·.Early tenant began) := by
  obtain ⟨n, loaded, h⟩ := h
  refine ⟨n, loaded.later later, h.later later ?_⟩
  rintro w late - ⟨-, at_, told, early⟩
  have late := late at_ told
  omega

theorem Backed.later (h : s.Backed tenant g q a) (later : s.Later t) : t.Backed tenant g q a := by
  obtain ⟨n, loaded, past⟩ := h.vouched
  refine ⟨Nat.le_trans h.observed (later.raised tenant), n, loaded.later later, past.later later ?_⟩
  rintro w - high ⟨rfl, low⟩
  have observed := h.observed
  omega

theorem Seen.later (h : s.Seen tenant began g) (later : s.Later t) (past : began ≤ s.moment) :
    t.Seen tenant began g := by
  refine ⟨Nat.le_trans h.observed (later.raised tenant), fun w made early => ?_⟩
  obtain ⟨at_, told, before⟩ := early.2
  rcases later.told w made (by simp [told]) with old | ⟨late, -⟩
  · exact h.early w old early
  · have late := late at_ told
    omega

theorem SoundStage.later {stage : Fetch.Stage q.Item} (h : s.SoundStage tenant q began stage)
    (later : s.Later t) (past : began ≤ s.moment) : t.SoundStage tenant q began stage := by
  cases stage with
  | keyed g => exact Seen.later h later past
  | missed g => exact fun seen same => Nat.le_trans (h seen same) (later.raised tenant)
  | loaded g a => exact ⟨h.1.early_later later past, fun seen same => (h.2 seen same).later later⟩
  | done a => exact Vouched.early_later h later past
  | failed e => trivial

theorem SoundFetch.later {f : Fetch} (h : s.SoundFetch f) (later : s.Later t) : t.SoundFetch f :=
  ⟨h.valid, Nat.lt_of_lt_of_le h.began later.moment, h.stage.later later (Nat.le_of_lt h.began)⟩

/-- What stands under a generation that a read has seen is past all that the read has to know. -/
theorem Backed.vouched_early (h : s.Backed tenant g q a) (seen : s.Seen tenant began g) :
    s.Vouched tenant q a (·.Early tenant began) := by
  obtain ⟨n, loaded, past⟩ := h.vouched
  exact ⟨n, loaded, fun w made told early => past w made told ⟨early.1, seen.early w made early⟩⟩

/-- A counter that is read shows all writes that the cache has been told of. -/
theorem Timed.seen (timed : s.Timed) (shown : g.toNat = s.raised tenant) : s.Seen tenant began g := by
  refine ⟨Nat.le_of_eq shown, fun w made early => ?_⟩
  obtain ⟨rfl, at_, told, -⟩ := early
  rw [shown]
  exact timed.rank w made (by simp [told])

theorem Timed.vouched (timed : s.Timed) (answered : s.inventory.answer tenant q = .ok a)
    (those : Write → Prop) : (s.tick s.inventory).Vouched tenant q a those :=
  ⟨s.moment, loaded_tick answered, timed.past those⟩

end Timeline

namespace SharedRace
variable {s t : SharedRace} {set : SharedSettings} {stem tenant : String} {g : UInt64} {q : Inquiry}
  {f : Fetch}

structure Sound (stem : String) (s : SharedRace) : Prop where
  timed : s.Timed
  named : ∀ w ∈ s.writes, w.change.dropsEntry = true → Kind.schedule.isId w.id = true
  bounded : ∀ tenant, s.raised tenant < twoTo 63
  counted : ∀ tenant, s.server.cells.find? (Shared.generationKey stem tenant) =
    Server.counter (s.raised tenant)
  entries : ∀ tenant g q, q.isValid = true → ∀ cell,
    s.server.cells.find? (q.key stem tenant g) = some cell →
    ∃ a, cell.1 = (q.json a).write ∧ s.Backed tenant g q a
  fetches : ∀ f ∈ s.fetches, s.SoundFetch f

/-- A server has lost entries at most. -/
structure Spared (stem : String) (before after : Server) : Prop where
  counters : ∀ tenant, after.cells.find? (Shared.generationKey stem tenant) =
    before.cells.find? (Shared.generationKey stem tenant)
  entries : ∀ key cell, after.cells.find? key = some cell → before.cells.find? key = some cell

theorem spared_of_cells {before after : Server} (same : after.cells = before.cells) :
    Spared stem before after :=
  ⟨fun _ => by rw [same], fun _ _ found => same ▸ found⟩

theorem spared_erase {before after : Server} (valid : q.isValid = true)
    (cells : after.cells = before.cells.erase (q.key stem tenant g)) : Spared stem before after where
  counters other := by
    rw [cells, Table.find?_erase, if_neg (Inquiry.key_ne_generationKey valid).symm]
  entries key cell found := by
    rw [cells, Table.find?_erase] at found
    split at found
    · cases found
    · exact found

/-- After a move that told the cache of nothing. -/
theorem Sound.advance (sound : s.Sound stem) (quiet : s.Quiet t.toTimeline)
    (named : ∀ w ∈ t.writes, w.change.dropsEntry = true → Kind.schedule.isId w.id = true)
    (counted : ∀ tenant, t.server.cells.find? (Shared.generationKey stem tenant) =
      s.server.cells.find? (Shared.generationKey stem tenant))
    (entries : ∀ tenant g q, q.isValid = true → ∀ cell,
      t.server.cells.find? (q.key stem tenant g) = some cell →
      ∃ a, cell.1 = (q.json a).write ∧ s.Backed tenant g q a)
    (fetches : ∀ f ∈ t.fetches, s.SoundFetch f ∨ (t.tick s.inventory).SoundFetch f) :
    (t.tick s.inventory).Sound stem := by
  have later := quiet.later.trans (Timeline.later_tick s.inventory)
  have raised : ∀ tenant, (t.tick s.inventory).raised tenant = s.raised tenant := fun tenant =>
    congrFun quiet.raised tenant
  refine ⟨sound.timed.quiet quiet s.inventory, named, fun tenant => ?_, fun tenant => ?_,
    fun tenant g q valid cell found => ?_, fun f member => (fetches f member).elim (·.later later) id⟩
  · rw [raised]
    exact sound.bounded tenant
  · rw [raised]
    exact (counted tenant).trans (sound.counted tenant)
  · obtain ⟨a, written, backed⟩ := entries tenant g q valid cell found
    exact ⟨a, written, backed.later later⟩

theorem Sound.spared (sound : s.Sound stem) (same : t.toTimeline = s.toTimeline)
    (spared : Spared stem s.server t.server)
    (fetches : ∀ f ∈ t.fetches, s.SoundFetch f ∨ (t.tick s.inventory).SoundFetch f) :
    (t.tick s.inventory).Sound stem := by
  have quiet : s.Quiet t.toTimeline := same ▸ Timeline.Quiet.refl s.toTimeline
  have named : ∀ w ∈ t.writes, w.change.dropsEntry = true → Kind.schedule.isId w.id = true :=
    same ▸ sound.named
  refine sound.advance quiet named spared.counters (fun tenant g q valid cell found => ?_) fetches
  exact sound.entries tenant g q valid cell (spared.entries _ cell found)

theorem Sound.ask (sound : s.Sound set.stem) (at_ : Conditions) (tenant : String)
    (valid : q.isValid = true) :
    ((s.ask set at_ tenant q).tick s.inventory).Sound set.stem := by
  have later := Timeline.later_tick (s := s.toTimeline) s.inventory
  have cells : (s.ask set at_ tenant q).server.cells = s.server.cells :=
    Shared.cells_generation set at_.now tenant (s.serverAt at_)
  refine sound.spared rfl (spared_of_cells cells) fun f member => ?_
  rcases List.mem_append.1 member with old | new
  · exact Or.inl (sound.fetches f old)
  · right
    obtain rfl := List.mem_singleton.1 new
    refine ⟨valid, Nat.lt_succ_self _, ?_⟩
    apply Timeline.soundStage_asked
    intro g seen
    have shown := Shared.generation_counter (s := s.serverAt at_) (sound.bounded tenant)
      (sound.counted tenant) seen
    exact (sound.timed.seen shown).later later (Nat.le_refl _)

theorem Sound.fetches_set (sound : s.Sound stem) (i : Nat)
    (new : (s.toTimeline.tick s.inventory).SoundFetch f) (f' : Fetch) (member : f' ∈ s.fetches.set i f) :
    s.SoundFetch f' ∨ (s.toTimeline.tick s.inventory).SoundFetch f' := by
  rcases List.mem_or_eq_of_mem_set member with old | rfl
  · exact Or.inl (sound.fetches f' old)
  · exact Or.inr new

theorem Sound.put (sound : s.Sound stem) (same : t.toTimeline = s.toTimeline)
    (kept : t.fetches = s.fetches)
    (spared : Spared stem s.server t.server) (i : Nat)
    (new : (s.toTimeline.tick s.inventory).SoundFetch f) : ((t.put i f).tick s.inventory).Sound stem := by
  have moved : ((t.put i f).tick s.inventory).toTimeline = s.toTimeline.tick s.inventory :=
    congrArg (Timeline.tick s.inventory) same
  refine sound.spared same spared fun f' member => ?_
  rw [moved]
  exact sound.fetches_set i new f' (kept ▸ member)

theorem Sound.staged (sound : s.Sound stem) (member : f ∈ s.fetches)
    {stage : Fetch.Stage f.inquiry.Item}
    (new : (s.toTimeline.tick s.inventory).SoundStage f.tenant f.inquiry f.began stage) :
    (s.toTimeline.tick s.inventory).SoundFetch { f with stage } :=
  ⟨(sound.fetches f member).valid, Nat.lt_succ_of_lt (sound.fetches f member).began, new⟩

theorem Sound.look (sound : s.Sound set.stem) (at_ : Conditions) (i : Nat) (member : f ∈ s.fetches)
    (stage : f.stage = .keyed g) : ((s.look set at_ i f g).tick s.inventory).Sound set.stem := by
  have later := Timeline.later_tick (s := s.toTimeline) s.inventory
  obtain ⟨valid, began, seen⟩ := sound.fetches f member
  rw [stage] at seen
  have spared : Spared set.stem s.server (s.look set at_ i f g).server :=
    spared_of_cells (Shared.cells_entry (s := s.serverAt at_))
  refine Sound.put (t := { s with server := (s.look set at_ i f g).server }) sound rfl rfl spared i
    (sound.staged member ?_)
  apply Timeline.soundStage_looked (Nat.le_trans seen.observed (later.raised _))
  intro a found
  obtain ⟨cell, filed, read⟩ := Shared.entry_found (s := s.serverAt at_) found
  obtain ⟨b, written, backed⟩ := sound.entries f.tenant g f.inquiry valid cell filed
  rw [written] at read
  obtain rfl := Inquiry.ofJson_read read
  exact (backed.vouched_early seen).early_later later (Nat.le_of_lt began)

theorem Sound.load (sound : s.Sound stem) (i : Nat) {g : Option UInt64} (member : f ∈ s.fetches)
    (stage : f.stage = .missed g) : ((s.load i f g).tick s.inventory).Sound stem := by
  have later := Timeline.later_tick (s := s.toTimeline) s.inventory
  have observed := (sound.fetches f member).stage
  rw [stage] at observed
  refine sound.put rfl rfl (spared_of_cells rfl) i (sound.staged member ?_)
  apply Timeline.soundStage_answered
  intro a answered
  refine ⟨sound.timed.vouched answered _, fun seen same => ?_⟩
  exact ⟨Nat.le_trans (observed seen same) (later.raised _), sound.timed.vouched answered _⟩

theorem cells_keep (set : SharedSettings) (s : SharedRace) (at_ : Conditions) (i : Nat) (f : Fetch)
    (g : UInt64) (a : f.inquiry.Item) :
    (s.keep set at_ i f g a).server.cells = s.server.cells ∨
    ∃ expiry, (s.keep set at_ i f g a).server.cells =
      s.server.cells.insert (f.inquiry.key set.stem f.tenant g) ((f.inquiry.json a).write, expiry) :=
  Shared.cells_keep (s := s.serverAt at_)

theorem Sound.keep (sound : s.Sound set.stem) (at_ : Conditions) (i : Nat) {a : f.inquiry.Item}
    (member : f ∈ s.fetches) (stage : f.stage = .loaded (some g) a) :
    ((s.keep set at_ i f g a).tick s.inventory).Sound set.stem := by
  have later := Timeline.later_tick (s := s.toTimeline) s.inventory
  obtain ⟨valid, began, loaded⟩ := sound.fetches f member
  rw [stage] at loaded
  have new : (s.toTimeline.tick s.inventory).SoundFetch { f with stage := .done a } :=
    sound.staged member (loaded.1.early_later later (Nat.le_of_lt began))
  rcases cells_keep set s at_ i f g a with same | ⟨expiry, cells⟩
  · exact Sound.put (t := { s with server := (s.keep set at_ i f g a).server }) sound rfl rfl
      (spared_of_cells same) i new
  · refine sound.advance (.refl _) sound.named (fun other => ?_) (fun other h r readable cell found => ?_)
      (sound.fetches_set i new)
    · rw [cells, Table.find?_insert, if_neg (Inquiry.key_ne_generationKey valid).symm]
    · rw [cells, Table.find?_insert] at found
      split at found
      · next same =>
        obtain ⟨rfl, rfl, rfl⟩ := Inquiry.key_inj readable valid same
        cases found
        exact ⟨a, rfl, loaded.2 h rfl⟩
      · exact sound.entries other h r readable cell found

theorem Sound.proceed (sound : s.Sound set.stem) (at_ : Conditions) (i : Nat) (member : f ∈ s.fetches) :
    ((s.proceed set at_ i f).tick s.inventory).Sound set.stem := by
  have idle : (s.tick s.inventory).Sound set.stem :=
    sound.spared rfl (spared_of_cells rfl) fun f kept => Or.inl (sound.fetches f kept)
  unfold SharedRace.proceed
  split
  · next g stage => exact sound.look at_ i member stage
  · next g stage => exact sound.load i member stage
  · next g a stage => exact sound.keep at_ i member stage
  · next a stage =>
    have later := Timeline.later_tick (s := s.toTimeline) s.inventory
    obtain ⟨-, began, loaded⟩ := sound.fetches f member
    rw [stage] at loaded
    exact sound.put rfl rfl (spared_of_cells rfl) i
      (sound.staged member (loaded.1.early_later later (Nat.le_of_lt began)))
  · exact idle
  · exact idle

theorem Sound.tell (sound : s.Sound stem) (j : Nat) {w : Write} (made : w ∈ s.writes) {server : Server}
    (small : s.raised w.tenant + 1 < twoTo 63) (cells : server.cells = s.server.cells.insert
      (Shared.generationKey stem w.tenant) (Decimal.text (s.raised w.tenant + 1), none)) :
    (tick s.inventory { s with toTimeline := s.toTimeline.tell j w, server }).Sound stem := by
  have later := (Timeline.later_tell (s := s.toTimeline) (j := j) w).trans
    (Timeline.later_tick s.inventory)
  refine ⟨sound.timed.tell made s.inventory, fun v member drops => ?_, fun tenant => ?_,
    fun tenant => ?_, fun tenant g q valid cell found => ?_,
    fun f member => (sound.fetches f member).later later⟩
  · rcases List.mem_or_eq_of_mem_set member with old | rfl
    · exact sound.named v old drops
    · exact sound.named w made drops
  · change (if tenant = w.tenant then s.raised tenant + 1 else s.raised tenant) < twoTo 63
    by_cases same : tenant = w.tenant
    · rw [if_pos same, same]
      exact small
    · rw [if_neg same]
      exact sound.bounded tenant
  · change server.cells.find? (Shared.generationKey stem tenant) =
      Server.counter (if tenant = w.tenant then s.raised tenant + 1 else s.raised tenant)
    rw [cells, Table.find?_insert]
    by_cases same : tenant = w.tenant
    · rw [if_pos same, same, if_pos rfl, Server.counter, if_neg (Nat.succ_ne_zero _)]
    · rw [if_neg same, if_neg fun keys => same (Shared.generationKey_inj keys)]
      exact sound.counted tenant
  · change server.cells.find? (q.key stem tenant g) = some cell at found
    rw [cells, Table.find?_insert, if_neg (Inquiry.key_ne_generationKey valid)] at found
    obtain ⟨a, written, backed⟩ := sound.entries tenant g q valid cell found
    exact ⟨a, written, backed.later later⟩

theorem Sound.raise (sound : s.Sound set.stem) (at_ : Conditions) (j : Nat) {w : Write}
    (made : w ∈ s.writes) :
    ((s.raise set at_ j w).tick s.inventory).Sound set.stem := by
  have raised := Server.increment_counter (s := s.serverAt at_) at_.now
    (sound.bounded w.tenant) (sound.counted w.tenant)
  unfold SharedRace.raise
  generalize (s.serverAt at_).increment at_.now (Shared.generationKey set.stem w.tenant) = reply
    at raised ⊢
  obtain ⟨result, server⟩ := reply
  rcases raised with ⟨⟨e, refused⟩, cells⟩ | ⟨small, counted, cells⟩
  · cases refused
    exact Sound.spared (t := { s with server }) sound rfl (spared_of_cells cells)
      fun f kept => Or.inl (sound.fetches f kept)
  · cases counted
    exact sound.tell j made small cells

theorem Sound.drop (sound : s.Sound set.stem) (at_ : Conditions) {w : Write} (made : w ∈ s.writes)
    (drops : w.change.dropsEntry = true) : ((s.drop set at_ w).tick s.inventory).Sound set.stem := by
  have named : Inquiry.isValid (.one w.id) = true := sound.named w made drops
  have spared : Spared set.stem s.server (s.drop set at_ w).server := by
    rcases Server.cells_delete (s := s.serverAt at_) with same | erased
    · exact spared_of_cells same
    · exact spared_erase named erased
  exact sound.spared rfl spared fun f kept => Or.inl (sound.fetches f kept)

theorem Sound.commit (sound : s.Sound stem) {order : Order} (valid : order.isValid = true) :
    (tick s.inventory { s with toTimeline := s.toTimeline.commit order }).Sound stem := by
  refine sound.advance (Timeline.quiet_commit order) (fun w made drops => ?_) (fun _ => rfl)
    sound.entries fun f kept => Or.inl (sound.fetches f kept)
  change w ∈ (s.toTimeline.commit order).writes at made
  unfold Timeline.commit at made
  split at made
  · next v next done =>
    rcases List.mem_append.1 made with old | new
    · exact sound.named w old drops
    · obtain rfl := List.mem_singleton.1 new
      exact Order.commit_named valid done drops
  · exact sound.named w made drops

theorem Sound.step (sound : s.Sound set.stem) (move : Move) : (s.step set move).Sound set.stem := by
  have kept : ∀ f ∈ s.fetches, s.SoundFetch f ∨ (s.toTimeline.tick s.inventory).SoundFetch f :=
    fun f member => Or.inl (sound.fetches f member)
  have acted := acted set s move
  unfold SharedRace.step
  generalize s.act set move = t at acted ⊢
  cases acted with
  | idle => exact sound.spared rfl (spared_of_cells rfl) kept
  | ask valid => exact sound.ask _ _ valid
  | proceed member => exact sound.proceed _ _ member
  | commit valid => exact sound.commit valid
  | raise made => exact sound.raise _ _ made
  | drop made drops => exact sound.drop _ made drops
  | expire valid => exact sound.spared rfl (spared_erase valid rfl) kept
  | alter =>
      exact sound.advance (Timeline.quiet_alter _) sound.named (fun _ => rfl) sound.entries
        fun f member => Or.inl (sound.fetches f member)

theorem Sound.run (sound : s.Sound set.stem) (moves : List Move) :
    (s.run set moves).Sound set.stem := by
  induction moves generalizing s with
  | nil => exact sound
  | cons move moves ih => exact ih (sound.step move)

theorem sound_start (stem : String) (inventory : Inventory) : Sound stem { inventory } where
  timed := ⟨fun _ made => (nomatch made), fun _ made => (nomatch made), fun _ made => (nomatch made)⟩
  named _ made := (nomatch made)
  bounded _ := (show 0 < twoTo 63 by decide)
  counted _ := rfl
  entries _ _ _ _ _ found := (nomatch found)
  fetches _ member := (nomatch member)

/-- A read through the shared cache is answered with what an inventory of the run gave. If it
began when the generation had been raised for a write of the tenant, that inventory came after
the write. -/
theorem fetch_after_told (set : SharedSettings) (inventory : Inventory) (moves : List Move)
    {f : Fetch} (member : f ∈ (run set { inventory } moves).fetches) {a : f.inquiry.Item}
    (done : f.stage = .done a) :
    ∃ n, (run set { inventory } (moves.take n)).inventory.answer f.tenant f.inquiry = .ok a ∧
      ∀ w ∈ (run set { inventory } moves).writes, w.tenant = f.tenant →
        ∀ t, w.told = some t → t < f.began → w.committed < n := by
  have sound := (sound_start set.stem inventory).run moves
  have answered := (sound.fetches f member).stage
  rw [done] at answered
  obtain ⟨n, loaded, past⟩ := answered
  refine ⟨n, loaded.run (next_step set) rfl, fun w made tenant t told early => ?_⟩
  exact past w made (by simp [told]) ⟨tenant, t, told, early⟩

/-- A schedule is read, and renamed before the reader keeps it; then it is read again. -/
def racing : List Move :=
  let calm : Conditions := { now := 0 }
  let q := .one "singlesche-f0000000"
  let rename := .update "later" "a" "singlesche-f0000000" ["name"] { name := "new" }
  [.ask calm "a" q, .proceed calm 0, .proceed calm 0, .commit rename, .raise calm 0, .proceed calm 0,
    .drop calm 0, .ask calm "a" q, .proceed calm 1, .proceed calm 1, .proceed calm 1]

def raced : SharedRace :=
  run ⟨"infra", 60⟩ { inventory := Deployment.sheltered.inventory } racing

theorem fetch_after_told_racing :
    let a : Schedule := { Deployment.shelteredSchedule with name := "new", updatedAt := "later" }
    let f : Fetch := ⟨"a", .one "singlesche-f0000000", 7, .done a⟩
    let w : Write := ⟨"a", "singlesche-f0000000", .updated, 3, some 4, 1⟩
    f ∈ raced.fetches ∧ w ∈ raced.writes ∧ ∃ n, w.committed < n ∧
      (run ⟨"infra", 60⟩ { inventory := Deployment.sheltered.inventory }
        (racing.take n)).inventory.answer f.tenant f.inquiry = .ok a := by
  intro a f w
  have member : f ∈ raced.fetches :=
    List.mem_of_getElem? (by with_unfolding_all rfl : raced.fetches[1]? = some f)
  have made : w ∈ raced.writes :=
    List.mem_of_getElem? (by with_unfolding_all rfl : raced.writes[0]? = some w)
  obtain ⟨n, answer, past⟩ := fetch_after_told _ _ racing member rfl
  exact ⟨member, made, n, past w made rfl 4 rfl (by decide), answer⟩

end SharedRace
end Upkeep
