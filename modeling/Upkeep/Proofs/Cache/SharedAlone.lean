import Upkeep.Proofs.Cache.Seek
import Upkeep.Proofs.Cache.SharedRaceSafety

/-! Reads and writes that are left alone. Where no other move comes in between, the moves of a
read answer as a deployment answers through its shared cache, the moves of a write do to the
server what the cache does when it is told of the write, and both leave the same cache. -/
namespace Upkeep

def Fetch.Stage.answer? {α : Type} : Fetch.Stage α → Option (Answer α)
  | .done a => some (.ok a)
  | .failed e => some (.error e)
  | _ => none

theorem Server.failing_increment (s : Server) (now : Nat) (key : String) :
    (s.increment now key).2.failing = s.failing := by
  unfold increment
  rcases command_cases s "INCRBY" key _ with refused | done
  · rw [refused]
    rfl
  · rw [done]
    dsimp only
    split
    · rfl
    · split <;> rfl

namespace Shared

def keepAt (set : SharedSettings) (now : Nat) (key : Option String) (value : Json) (s : Server) :
    Server :=
  match key with
  | some key => keep set now key value s
  | none => s

def keepLoaded (set : SharedSettings) (now : Nat) (key : Option String) (q : Inquiry)
    (loaded : Answer q.Item) (s : Server) : Server :=
  match loaded with
  | .ok a => keepAt set now key (q.json a) s
  | .error _ => s

theorem failing_generation (set : SharedSettings) (now : Nat) (tenant : String) (s : Server) :
    (generation set now tenant s).2.failing = s.failing := by
  unfold generation
  rcases Server.get_cases s now (generationKey set.stem tenant) with refused | got
  · rw [refused]
    rfl
  · rw [got]
    split <;> next h => rw [← (Prod.mk.inj h).2]; rfl

theorem failing_entry {α : Type} (read : Json → Option α) (now : Nat) (key : String) (s : Server) :
    (entry read now key s).2.failing = s.failing := by
  unfold entry
  rcases Server.get_cases s now key with refused | got
  · rw [refused]
    rfl
  · rw [got]
    rfl

/-- Where the server cannot tell the generation, it is asked nothing more. -/
theorem consult_untold {α : Type} {set : SharedSettings} {now : Nat} {tenant : String} {s after : Server}
    (untold : generation set now tenant s = (none, after)) (read : Json → Option α)
    (keyOf : UInt64 → String) : consult set read now tenant keyOf s = (none, none, after) := by
  unfold consult
  rw [untold]

theorem consult_told {α : Type} {set : SharedSettings} {now : Nat} {tenant : String} {s after rest : Server}
    {g : UInt64} {read : Json → Option α} {item : Option α} (keyOf : UInt64 → String)
    (told : generation set now tenant s = (some g, after))
    (found : entry read now (keyOf g) after = (item, rest)) :
    consult set read now tenant keyOf s = (item, some (keyOf g), rest) := by
  unfold consult
  rw [told]
  dsimp only
  rw [found]

end Shared

namespace Deployment
variable {d : Deployment} {ctx : Context} {tenant : String} {set : SharedSettings} {server after : Server}

theorem seek_found (cached : d.cache = .shared set server) {q : Inquiry} {a : q.Item}
    {key : Option String}
    (consulted : Shared.consult set q.ofJson? d.now tenant (fun g => q.key set.stem tenant g) server =
      (some a, key, after)) :
    (seek ctx tenant q).result d = (.ok a, { d with cache := .shared set after }) := by
  cases q with
  | one id =>
      have found : Shared.consult set Schedule.ofJson? d.now tenant
        (fun g => Shared.scheduleKey set.stem tenant g id) server = (some a, key, after) := consulted
      refine Action.readThrough_hit ?_
      simp only [onCache, cached, Cache.consultSchedule, found, Cache.consulted]
  | page page =>
      have found : Shared.consult set Shared.pageOfJson? d.now tenant (fun g =>
        Shared.pageKey set.stem tenant g page.offset page.limit page.criteria) server =
          (some a, key, after) := consulted
      refine Action.readThrough_hit ?_
      simp only [onCache, cached, Cache.consultPage, found, Cache.consulted]

theorem seek_missed (cached : d.cache = .shared set server) {q : Inquiry} {key : Option String}
    (consulted : Shared.consult set q.ofJson? d.now tenant (fun g => q.key set.stem tenant g) server =
      (none, key, after)) :
    let loaded := d.caller ctx >>= fun tenant => d.inventory.answer tenant q
    (seek ctx tenant q).result d =
      (loaded, { d with cache := .shared set (Shared.keepLoaded set d.now key q loaded after) }) := by
  have loads : (load ctx q).result { d with cache := .shared set after } =
      (d.caller ctx >>= fun tenant => d.inventory.answer tenant q, { d with cache := .shared set after }) :=
    load_result q
  cases q with
  | one id =>
      have missed : Shared.consult set Schedule.ofJson? d.now tenant
        (fun g => Shared.scheduleKey set.stem tenant g id) server = (none, key, after) := consulted
      have unknown : onCache (fun now => Cache.consultSchedule now tenant id) d =
          (.miss (.key key), { d with cache := .shared set after }) := by
        simp only [onCache, cached, Cache.consultSchedule, missed, Cache.consulted]
      refine (Action.readThrough_miss unknown).trans ?_
      rw [show (store.loadSchedule ctx id).result _ = _ from loads]
      cases d.caller ctx >>= fun tenant => d.inventory.answer tenant (.one id) with
      | error e => rfl
      | ok a => cases key <;> rfl
  | page page =>
      have missed : Shared.consult set Shared.pageOfJson? d.now tenant (fun g =>
        Shared.pageKey set.stem tenant g page.offset page.limit page.criteria) server =
          (none, key, after) := consulted
      have unknown : onCache (fun now => Cache.consultPage now tenant page) d =
          (.miss (.key key), { d with cache := .shared set after }) := by
        simp only [onCache, cached, Cache.consultPage, missed, Cache.consulted]
      refine (Action.readThrough_miss unknown).trans ?_
      rw [show (store.loadPage ctx page.offset page.limit page.criteria).result _ = _ from loads]
      cases d.caller ctx >>= fun tenant => d.inventory.answer tenant (.page page) with
      | error e => rfl
      | ok a => cases key <;> rfl

end Deployment

namespace SharedRace
variable {s t : SharedRace} {set : SharedSettings} {at_ : Conditions} {f : Fetch} {fs : List Fetch}
  {tenant : String} {q : Inquiry} {began : Nat} {g : UInt64} {a : q.Item} {server : Server}

/-- Only the last read has come on. -/
structure Onward (s t : SharedRace) (fs : List Fetch) (f : Fetch) (server : Server) : Prop where
  fetches : t.fetches = fs ++ [f]
  server : t.server = server
  inventory : t.inventory = s.inventory

theorem step_last (set : SharedSettings) (at_ : Conditions) (fetches : s.fetches = fs ++ [f]) :
    s.step set (.proceed at_ fs.length) = (s.proceed set at_ fs.length f).tick s.inventory := by
  simp only [step, act, fetches, List.getElem?_concat_length]

theorem put_last (fetches : s.fetches = fs ++ [f]) (f' : Fetch) :
    (s.put fs.length f').fetches = fs ++ [f'] := by
  simp only [put, fetches, List.set_append_right _ _ (Nat.le_refl _), Nat.sub_self, List.set_cons_zero]

theorem step_keyed (set : SharedSettings) (at_ : Conditions)
    (fetches : s.fetches = fs ++ [⟨tenant, q, began, .keyed g⟩])
    (still : s.serverAt at_ = s.server) :
    let reply := Shared.entry q.ofJson? at_.now (q.key set.stem tenant g) s.server
    Onward s (s.step set (.proceed at_ fs.length)) fs ⟨tenant, q, began, .looked g reply.1⟩ reply.2 := by
  rw [step_last set at_ fetches]
  simp only [SharedRace.proceed, SharedRace.look, still]
  exact ⟨put_last (s := { s with server := _ }) fetches _, rfl, rfl⟩

theorem step_missed (set : SharedSettings) (at_ : Conditions) {g : Option UInt64}
    (fetches : s.fetches = fs ++ [⟨tenant, q, began, .missed g⟩]) :
    Onward s (s.step set (.proceed at_ fs.length)) fs
      ⟨tenant, q, began, .answered g (s.inventory.answer tenant q)⟩ s.server := by
  rw [step_last set at_ fetches]
  exact ⟨put_last fetches _, rfl, rfl⟩

theorem step_loaded (set : SharedSettings) (at_ : Conditions) {g : Option UInt64}
    (fetches : s.fetches = fs ++ [⟨tenant, q, began, .loaded g a⟩]) (still : s.serverAt at_ = s.server) :
    Onward s (s.step set (.proceed at_ fs.length)) fs ⟨tenant, q, began, .done a⟩
      (Shared.keepAt set at_.now (g.map fun g => q.key set.stem tenant g) (q.json a) s.server) := by
  rw [step_last set at_ fetches]
  cases g with
  | none => exact ⟨put_last fetches _, rfl, rfl⟩
  | some g =>
      simp only [SharedRace.proceed, SharedRace.keep, still]
      exact ⟨put_last (s := { s with server := _ }) fetches _, rfl, rfl⟩

theorem step_ended (set : SharedSettings) (at_ : Conditions) (fetches : s.fetches = fs ++ [f])
    (ended : f.stage.answer? ≠ none) :
    Onward s (s.step set (.proceed at_ fs.length)) fs f s.server := by
  rw [step_last set at_ fetches]
  unfold SharedRace.proceed
  split
  · next h => exact absurd (by rw [h]; rfl) ended
  · next h => exact absurd (by rw [h]; rfl) ended
  · next h => exact absurd (by rw [h]; rfl) ended
  · next h => exact absurd (by rw [h]; rfl) ended
  · exact ⟨fetches, rfl, rfl⟩
  · exact ⟨fetches, rfl, rfl⟩

theorem serverAt_still (at_ : Conditions) (still : s.server.failing = at_.failing) :
    s.serverAt at_ = s.server := by
  rw [serverAt, ← still]

theorem step_ask (set : SharedSettings) (at_ : Conditions) (tenant : String)
    (valid : q.isValid = true) (still : s.serverAt at_ = s.server) :
    let reply := Shared.generation set at_.now tenant s.server
    Onward s (s.step set (.ask at_ tenant q)) s.fetches ⟨tenant, q, s.moment, .asked reply.1⟩ reply.2 := by
  simp only [step, act, if_pos valid, SharedRace.ask, still]
  exact ⟨rfl, rfl, rfl⟩

/-- A read that has found nothing loads an item and keeps it. -/
theorem steps_missed (set : SharedSettings) (at_ : Conditions) {g : Option UInt64}
    (fetches : s.fetches = fs ++ [⟨tenant, q, began, .missed g⟩])
    (still : s.server.failing = at_.failing) :
    let t := (s.step set (.proceed at_ fs.length)).step set (.proceed at_ fs.length)
    ∃ stage, t.fetches = fs ++ [⟨tenant, q, began, stage⟩] ∧
      stage.answer? = some (s.inventory.answer tenant q) ∧
      t.server = Shared.keepLoaded set at_.now (g.map fun g => q.key set.stem tenant g) q
        (s.inventory.answer tenant q) s.server := by
  have first := step_missed set at_ fetches
  cases loaded : s.inventory.answer tenant q with
  | ok a =>
      rw [loaded] at first
      have second := step_loaded set at_ first.fetches
        (serverAt_still at_ (by rw [first.server]; exact still))
      rw [first.server] at second
      exact ⟨_, second.fetches, rfl, second.server⟩
  | error e =>
      rw [loaded] at first
      have second := step_ended set at_ first.fetches nofun
      rw [first.server] at second
      exact ⟨_, second.fetches, rfl, second.server⟩

/-- A read that is left alone is answered as a deployment answers, and leaves the same cache. -/
theorem fetch_alone {d : Deployment} {ctx : Context} (cached : d.cache = .shared set s.server)
    (same : d.inventory = s.inventory) (admitted : d.caller ctx = .ok tenant) (valid : q.isValid = true) :
    let calm : Conditions := ⟨d.now, s.server.failing⟩
    let next : Move := .proceed calm s.fetches.length
    let t := s.run set [.ask calm tenant q, next, next, next]
    ∃ stage, t.fetches = s.fetches ++ [⟨tenant, q, s.moment, stage⟩] ∧
      stage.answer? = some ((Deployment.seek ctx tenant q).result d).1 ∧
      ((Deployment.seek ctx tenant q).result d).2 = { d with cache := .shared set t.server } := by
  intro calm next t
  have asked := step_ask set calm tenant valid (serverAt_still calm rfl)
  have failing := Shared.failing_generation set d.now tenant s.server
  have inventory := asked.inventory
  -- What a read loads that has found nothing is what the deployment loads.
  have loads : (d.caller ctx >>= fun tenant => d.inventory.answer tenant q) =
      s.inventory.answer tenant q := by
    rw [admitted, same]
    rfl
  cases seen : Shared.generation set d.now tenant s.server with
  | mk g after =>
  rw [seen] at asked failing
  cases g with
  | none =>
      have consulted := Shared.consult_untold seen q.ofJson? (q.key set.stem tenant)
      obtain ⟨stage, fetches, answer, server⟩ := steps_missed set calm asked.fetches
        (by rw [asked.server]; exact failing)
      have last := step_ended set calm fetches (by rw [answer]; nofun)
      rw [inventory] at answer
      rw [inventory, asked.server] at server
      have left : t.server = Shared.keepLoaded set d.now none q (s.inventory.answer tenant q) after :=
        last.server.trans server
      rw [Deployment.seek_missed cached consulted, loads, left]
      exact ⟨stage, last.fetches, answer, rfl⟩
  | some g =>
      have looked := step_keyed set calm asked.fetches
        (serverAt_still calm (by rw [asked.server]; exact failing))
      have failing_too := Shared.failing_entry q.ofJson? d.now (q.key set.stem tenant g) after
      rw [asked.server] at looked
      cases found : Shared.entry q.ofJson? d.now (q.key set.stem tenant g) after with
      | mk item rest =>
      have consulted := Shared.consult_told (q.key set.stem tenant) seen found
      rw [found] at looked failing_too
      cases item with
      | some a =>
          have second := step_ended set calm looked.fetches nofun
          have third := step_ended set calm second.fetches nofun
          have left : t.server = rest := third.server.trans (second.server.trans looked.server)
          rw [Deployment.seek_found cached consulted, left]
          exact ⟨_, third.fetches, rfl, rfl⟩
      | none =>
          obtain ⟨stage, fetches, answer, server⟩ := steps_missed set calm
            looked.fetches (by rw [looked.server]; exact failing_too.trans failing)
          rw [looked.inventory, inventory] at answer
          rw [looked.inventory, inventory, looked.server] at server
          have left : t.server = Shared.keepLoaded set d.now (some (q.key set.stem tenant g)) q
            (s.inventory.answer tenant q) rest := server
          rw [Deployment.seek_missed cached consulted, loads, left]
          exact ⟨stage, fetches, answer, rfl⟩

/-- A write that is left alone when the cache is told of it does to the server what the cache does. -/
theorem raise_alone (sound : s.Sound set.stem) (now : Nat) {j : Nat} {w : Write}
    (made : s.writes[j]? = some w) (untold : w.told = none) :
    let calm : Conditions := ⟨now, s.server.failing⟩
    (s.run set [.raise calm j, .drop calm j]).server =
      Shared.invalidate set now w.tenant w.id w.change s.server := by
  intro calm
  have raised := Server.increment_counter (s := s.server) now (sound.bounded w.tenant)
    (sound.counted w.tenant)
  have failing := Server.failing_increment s.server now (Shared.generationKey set.stem w.tenant)
  have first : s.step set (.raise calm j) = (s.raise set calm j w).tick s.inventory := by
    simp only [step, act, made, untold, if_true]
  change ((s.step set (.raise calm j)).step set (.drop calm j)).server = _
  rw [first]
  unfold SharedRace.raise Shared.invalidate
  rw [serverAt_still calm rfl]
  generalize s.server.increment now (Shared.generationKey set.stem w.tenant) = reply at raised failing ⊢
  obtain ⟨result, server⟩ := reply
  rcases raised with ⟨⟨e, refused⟩, -⟩ | ⟨small, counted, -⟩
  · cases refused
    have kept : (tick s.inventory { s with server }).writes[j]? = some w := made
    simp only [step, act, kept, untold, ne_eq, not_true_eq_false, false_and, if_false]
    rfl
  · cases counted
    let after : SharedRace := tick s.inventory { s with toTimeline := s.toTimeline.tell j w, server }
    let written : Write := { w with told := some s.moment, rank := s.raised w.tenant + 1 }
    have told : after.writes[j]? = some written :=
      List.getElem?_set_self (List.getElem?_eq_some_iff.1 made).1
    have rank : UInt64.ofNat (((((s.raised w.tenant + 1 : Nat) : Int) % (twoTo 64 : Nat)).toNat) - 1) =
        UInt64.ofNat (written.rank - 1) := by
      have large : twoTo 63 < twoTo 64 := by decide
      rw [Int.emod_eq_of_lt (by omega) (by omega), Int.toNat_natCast]
    change (after.step set (.drop calm j)).server = _
    simp only [step, act, told, rank]
    by_cases drops : w.change.dropsEntry = true
    · rw [if_pos drops, if_pos ⟨nofun, drops⟩]
      change ((after.serverAt calm).delete _).2 = _
      rw [serverAt_still calm failing]
      rfl
    · rw [if_neg drops, if_neg fun both => drops both.2]
      rfl

end SharedRace
end Upkeep
