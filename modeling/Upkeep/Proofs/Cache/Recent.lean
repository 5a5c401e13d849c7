import Mathlib.Data.List.Induction
import Upkeep.Proofs.Service.Isolation
import Upkeep.Proofs.Service.Plan
import Upkeep.Proofs.Service.Write

/-! How old an answer can be. Whatever happens to the inventory behind its back, a cache in memory answers with
what the inventory would have answered at the moment of filing, and no entry is good for longer than the limit. -/
namespace Upkeep
open Upkeep.Action (Keeps)

namespace Inquiry

def operation : Inquiry → String
  | .one _ => "GetSingleSchedule"
  | .page _ => "ListSingleSchedules"

/-- An item as the caller of the service gets it. -/
def reply : (q : Inquiry) → q.Item → Answer Service.Reply
  | .one _, s => Service.shown "GetSingleSchedule" s
  | .page _, p => Service.shownPage p

end Inquiry

namespace Service

/-- What a plan to read asks of the cache, and for whom. -/
def Plan.inquiry? : Plan → Option (String × Inquiry)
  | .look tenant id => some (tenant, .one id)
  | .page tenant offset limit criteria => some (tenant, .page ⟨offset, limit, criteria⟩)
  | .create _ _ | .change _ _ _ _ _ | .delete _ _ => none

end Service

namespace Deployment
open Service (Plan carryOut)
variable {d : Deployment} {ctx : Context} {tenant : String} {limits : CacheLimits} {m : Memory} {lag : Lag}

/-- To read, the service makes one inquiry, if the request has not ended. -/
theorem carryOut_inquiry {p : Plan} {q : Inquiry} (asks : p.inquiry? = some (tenant, q)) :
    (carryOut (distant lag) ctx p).result d = match ctx.check d.cancelled d.now with
      | .ok () =>
        let (a, after) := (inquire lag ctx tenant q).result d
        ((a.during q.operation) >>= q.reply, after)
      | .error e => (.error (.during q.operation e), d) := by
  have carried : carryOut (distant lag) ctx p =
      Action.during q.operation ((distant lag).await ctx (inquire lag ctx tenant q)) >>=
        fun a => Action.answer (q.reply a) := by
    cases p <;> cases asks <;> rfl
  rw [carried, Action.result_bind, Action.result_during, await_result rfl]
  cases ctx.check d.cancelled d.now with
  | error e => rfl
  | ok u =>
      dsimp only
      rcases (inquire lag ctx tenant q).result d with ⟨e | a, after⟩
      · rfl
      · rfl

/-- What can happen to a deployment. Requests are served, through its cache; the cache itself is asked, for the
caller's own tenant; and the inventory is written behind the back of the cache, which may be told of any change. -/
inductive Happening where
  | serve (lag : Lag) (set : ServiceSettings) (ctx : Context) (request : Service.Request)
  | ask (lag : Lag) (ctx : Context) (q : Inquiry)
  | create (ctx : Context) (r : Resource)
  | update (ctx : Context) (id : String) (mask : List String) (r : Resource)
  | delete (ctx : Context) (id : String)
  | tell (tenant id : String) (c : Change)
  | clear
  /-- Requests are cancelled from now on, or are no longer. -/
  | cancel (cancelled : Bool)
  | wait (ms : Nat)

def happen (d : Deployment) : Happening → Deployment
  | .serve lag set ctx request => ((Service.serve (distant lag) set ctx request).result d).2
  | .ask lag ctx q =>
    match ctx.tenant with
    | some tenant => ((inquire lag ctx tenant q).result d).2
    | none => d
  | .create ctx r => ((create ctx r).result d).2
  | .update ctx id mask r => ((update ctx id mask r).result d).2
  | .delete ctx id => ((delete ctx id).result d).2
  | .tell tenant id c => invalidate tenant id c d
  | .clear => changeCache (fun _ => Cache.clear) d
  | .cancel cancelled => { d with cancelled }
  | .wait ms => d.later ms

def undergo (happenings : List Happening) (d : Deployment) : Deployment := happenings.foldl happen d

/-- Nothing is on file that was not. -/
structure Forgets (limits : CacheLimits) (m : Memory) (now : Nat) (d : Deployment) : Prop where
  later : now ≤ d.now
  cache : ∃ kept, d.cache = .memory limits kept ∧ ∀ tenant q e, kept.Files tenant q e → m.Files tenant q e

theorem Forgets.refl (cached : d.cache = .memory limits m) : Forgets limits m d.now d :=
  ⟨Nat.le_refl _, m, cached, fun _ _ _ => id⟩

theorem Forgets.tell {now : Nat} (h : Forgets limits m now d) (id : String) (c : Change) :
    Forgets limits m now (invalidate tenant id c d) := by
  obtain ⟨later, kept, cached, old⟩ := h
  refine ⟨later, kept.invalidate tenant id c, ?_, fun _ q e filed => old _ q e (Memory.filed_invalidate filed).1⟩
  simp only [invalidate, changeCache, cached, Cache.invalidate]

/-- A call to the inventory does nothing to the cache. -/
theorem entered_forgets {α : Type} {now : Nat} {f : String → Deployment → Answer α × Deployment}
    (aside : ∀ tenant d, (f tenant d).2.now = d.now ∧ (f tenant d).2.cache = d.cache) :
    Keeps (Forgets limits m now) (enter ctx >>= fun t => Action.of (f t)) := by
  apply entered_keeps
  intro tenant d caller h
  obtain ⟨same, cache⟩ := aside tenant d
  exact ⟨same ▸ h.later, cache ▸ h.cache⟩

theorem create_forgets {now : Nat} (r : Resource) : Keeps (Forgets limits m now) (create ctx r) :=
  entered_forgets fun _ _ => ⟨rfl, rfl⟩

theorem update_forgets {now : Nat} (id : String) (mask : List String) (r : Resource) :
    Keeps (Forgets limits m now) (update ctx id mask r) :=
  entered_forgets fun _ _ => ⟨rfl, rfl⟩

theorem delete_forgets {now : Nat} (id : String) : Keeps (Forgets limits m now) (delete ctx id) :=
  entered_forgets fun _ _ => ⟨rfl, rfl⟩

theorem Forgets.wait {now : Nat} (h : Forgets limits m now d) (ms : Nat) : Forgets limits m now (d.later ms) :=
  ⟨Nat.le_trans h.later (Nat.le_add_right _ _), h.cache⟩

theorem lagging_forgets {α : Type} {now : Nat} {call : Action Deployment α}
    (called : Keeps (Forgets limits m now) call) : Keeps (Forgets limits m now) (lagging lag call) :=
  fun _ h => (called _ (h.wait lag.there)).wait lag.back

/-- A request that asks nothing of the cache files nothing there. -/
theorem carryOut_forgets {p : Plan} {now : Nat} (silent : p.inquiry? = none) :
    Keeps (Forgets limits m now) (carryOut (distant lag) ctx p) := by
  have checked : Keeps (Forgets limits m now) (check ctx) := fun _ h => h
  have written {operation : String} {call : Action Deployment Resource} {tell : Schedule → Deployment → Deployment}
      (called : Keeps (Forgets limits m now) call)
      (told : ∀ made d, Forgets limits m now d → Forgets limits m now (tell made d)) :
      Keeps (Forgets limits m now) (Service.write (distant lag) operation ctx call tell) := by
    apply Keeps.bind
    · exact Keeps.during _ ((checked.bind fun _ => called).bind fun _ => .answer)
    · intro made
      exact (Keeps.change (told made)).bind fun _ => .answer
  cases p with
  | look => cases silent
  | page => cases silent
  | create tenant stored =>
      exact written (lagging_forgets (create_forgets _)) fun made _ h => h.tell made.id .created
  | change tenant operation id mask stored =>
      exact written (lagging_forgets (update_forgets id mask _)) fun _ _ h => h.tell id .updated
  | delete tenant id =>
      apply Keeps.bind
      · exact (checked.bind fun _ => lagging_forgets (delete_forgets id)).during _
      · exact fun _ => (Keeps.change fun _ h => h.tell id .deleted).bind fun _ => .pure

/-- All that can become of the cache: nothing new is on file, or what the inventory answers has been filed. -/
inductive Filed (limits : CacheLimits) (m : Memory) (now : Nat) (d : Deployment) : Prop
  | forgets (h : Forgets limits m now d)
  | learns {tenant : String} {q : Inquiry} {a : q.Item} {g : UInt64} (later : now ≤ d.now)
      (cached : d.cache = .memory limits (m.file limits d.now tenant g q a))
      (answered : d.inventory.answer tenant q = .ok a)

/-- How an inquiry ends for a cache in memory. -/
inductive Inquired (limits : CacheLimits) (m : Memory) (d : Deployment) (lag : Lag) (ctx : Context) (tenant : String)
    (q : Inquiry) : Answer q.Item × Deployment → Prop
  | hit {a : q.Item} (known : m.known? limits d.now tenant q = some a) : Inquired limits m d lag ctx tenant q (.ok a, d)
  | loaded {a : q.Item} (answered : ((d.later lag.there).caller ctx >>= fun t => d.inventory.answer t q) = .ok a) :
      Inquired limits m d lag ctx tenant q (.ok a, (d.passed lag).filed limits m tenant q a)
  | failed {e : Failure} (answered : ((d.later lag.there).caller ctx >>= fun t => d.inventory.answer t q) = .error e) :
      Inquired limits m d lag ctx tenant q (.error e, d.passed lag)

theorem inquired (cached : d.cache = .memory limits m) (lag : Lag) (ctx : Context) (tenant : String) (q : Inquiry) :
    Inquired limits m d lag ctx tenant q ((inquire lag ctx tenant q).result d) := by
  cases known : m.known? limits d.now tenant q with
  | some a =>
      rw [inquire_hit cached known]
      exact .hit known
  | none =>
      rw [inquire_miss cached known]
      cases answered : (d.later lag.there).caller ctx >>= fun t => d.inventory.answer t q with
      | ok a => exact .loaded answered
      | error e => exact .failed answered

theorem inquire_files (cached : d.cache = .memory limits m) (lag : Lag) (caller : ctx.tenant = some tenant)
    (q : Inquiry) : Filed limits m d.now ((inquire lag ctx tenant q).result d).2 := by
  have passed : d.now ≤ (d.passed lag).now :=
    Nat.le_trans (Nat.le_add_right _ lag.there) (Nat.le_add_right _ lag.back)
  have ended := inquired cached lag ctx tenant q
  generalize (inquire lag ctx tenant q).result d = ran at ended
  cases ended with
  | hit known => exact .forgets (.refl cached)
  | loaded answered =>
      obtain ⟨t, admitted, answered⟩ := Answer.bind_ok.1 answered
      cases caller.symm.trans (tenant_of_caller admitted)
      exact .learns passed rfl answered
  | failed answered => exact .forgets ⟨passed, m, cached, fun _ _ _ => id⟩

theorem serve_files (cached : d.cache = .memory limits m) (lag : Lag) (set : ServiceSettings) (ctx : Context)
    (request : Service.Request) :
    Filed limits m d.now ((Service.serve (distant lag) set ctx request).result d).2 := by
  rw [Service.serve_eq, Action.result_bind, Action.result_answer]
  cases fit : Service.plan set ctx request with
  | error e => exact .forgets (.refl cached)
  | ok p =>
      cases asks : p.inquiry? with
      | none => exact .forgets (carryOut_forgets asks d (.refl cached))
      | some asked =>
          obtain ⟨tenant, q⟩ := asked
          have caller : ctx.tenant = some tenant := by
            cases Service.plan_ok.1 fit <;> cases asks <;> assumption
          dsimp only
          rw [carryOut_inquiry asks]
          cases ctx.check d.cancelled d.now with
          | error e => exact .forgets (.refl cached)
          | ok u => exact inquire_files cached lag caller q

theorem happen_ask (caller : ctx.tenant = some tenant) (q : Inquiry) :
    d.happen (.ask lag ctx q) = ((inquire lag ctx tenant q).result d).2 := by
  simp only [happen, caller]

theorem happen_files (cached : d.cache = .memory limits m) (h : Happening) : Filed limits m d.now (d.happen h) := by
  have before : Forgets limits m d.now d := .refl cached
  cases h with
  | serve lag set ctx request => exact serve_files cached lag set ctx request
  | ask lag ctx q =>
      cases caller : ctx.tenant with
      | none =>
          have idle : d.happen (.ask lag ctx q) = d := by simp only [happen, caller]
          exact idle.symm ▸ .forgets before
      | some tenant =>
          rw [happen_ask caller]
          exact inquire_files cached lag caller q
  | create ctx r => exact .forgets (create_forgets r d before)
  | update ctx id mask r => exact .forgets (update_forgets id mask r d before)
  | delete ctx id => exact .forgets (delete_forgets id d before)
  | tell tenant id c => exact .forgets (before.tell id c)
  | clear =>
      refine .forgets ⟨Nat.le_refl _, {}, ?_, fun tenant q e filed => absurd filed (Memory.not_files_empty e)⟩
      simp only [happen, changeCache, cached, Cache.clear, Memory.clear]
  | cancel cancelled => exact .forgets ⟨Nat.le_refl _, before.cache⟩
  | wait ms => exact .forgets (before.wait ms)

/-- A deployment as it was before something happened to it, or is after all of it. -/
def Moment (start : Deployment) (happenings : List Happening) (p : Deployment) : Prop :=
  ∃ earlier, earlier <+: happenings ∧ p = undergo earlier start

/-- What is on file is dated: it is what the inventory answered at the moment of filing. -/
structure Dated (limits : CacheLimits) (past : Deployment → Prop) (d : Deployment) : Prop where
  before : ∀ p, past p → p.now ≤ d.now
  cache : ∃ m, d.cache = .memory limits m ∧
    ∀ tenant q e, m.Files tenant q e → ∃ p, past p ∧ p.now = e.filedAt ∧ p.inventory.answer tenant q = .ok e.value

variable {past : Deployment → Prop} {start : Deployment} {happenings : List Happening}

theorem Dated.step (dated : Dated limits past d) (h : Happening) :
    Dated limits (fun p => past p ∨ p = d.happen h) (d.happen h) := by
  obtain ⟨before, m, cached, moment⟩ := dated
  have become := happen_files cached h
  generalize d.happen h = after at become
  have goesOn (later : d.now ≤ after.now) (p : Deployment) : past p ∨ p = after → p.now ≤ after.now := by
    rintro (passed | rfl)
    · exact Nat.le_trans (before p passed) later
    · exact Nat.le_refl _
  cases become with
  | forgets forgets =>
      obtain ⟨later, kept, cached, old⟩ := forgets
      refine ⟨goesOn later, kept, cached, ?_⟩
      intro tenant q e filed
      obtain ⟨p, passed, dated⟩ := moment tenant q e (old tenant q e filed)
      exact ⟨p, .inl passed, dated⟩
  | learns later cached answered =>
      refine ⟨goesOn later, _, cached, ?_⟩
      intro tenant q e filed
      rcases Memory.filed_file filed with ⟨-, rfl, new⟩ | ⟨-, old⟩
      · cases new
        exact ⟨after, .inr rfl, rfl, answered⟩
      · obtain ⟨p, passed, dated⟩ := moment tenant q e old
        exact ⟨p, .inl passed, dated⟩

theorem undergo_append (hs : List Happening) (h : Happening) (d : Deployment) :
    undergo (hs ++ [h]) d = (undergo hs d).happen h := by
  rw [undergo, List.foldl_append]
  rfl

theorem moment_append {h : Happening} {p : Deployment} : Moment start (happenings ++ [h]) p ↔
    Moment start happenings p ∨ p = (undergo happenings start).happen h := by
  constructor
  · rintro ⟨earlier, part, rfl⟩
    rcases List.prefix_concat_iff.1 part with rfl | part
    · exact .inr (undergo_append _ _ _)
    · exact .inl ⟨earlier, part, rfl⟩
  · rintro (⟨earlier, part, rfl⟩ | rfl)
    · exact ⟨earlier, part.trans (List.prefix_append _ _), rfl⟩
    · exact ⟨_, List.prefix_refl _, (undergo_append _ _ _).symm⟩

/-- Whatever happens to a deployment whose cache was empty, all that is on file is dated. -/
theorem dated_undergo (empty : start.cache = .memory limits {}) (happenings : List Happening) :
    Dated limits (Moment start happenings) (undergo happenings start) := by
  -- from the right, for what happens last finds all that is on file dated
  induction happenings using List.reverseRecOn with
  | nil =>
      refine ⟨?_, {}, empty, fun tenant q e filed => absurd filed (Memory.not_files_empty e)⟩
      rintro p ⟨earlier, part, rfl⟩
      obtain rfl := List.prefix_nil.1 part
      exact Nat.le_refl _
  | append_singleton hs h dated =>
      rw [undergo_append, show Moment start (hs ++ [h]) = _ from funext fun p => propext moment_append]
      exact dated.step h

/-- A request that has not ended yet had not ended before. -/
theorem caller_earlier {ms : Nat} (live : (d.later ms).caller ctx = .ok tenant) : d.caller ctx = .ok tenant := by
  obtain ⟨u, checked, required⟩ := Answer.bind_ok.1 live
  refine Answer.bind_ok.2 ⟨u, ?_, required⟩
  unfold Context.check Context.ended at checked ⊢
  grind [later]

/-- No answer is older than the limit, whatever happens to the inventory behind the back of its cache, and
however slow it is to answer; and a failure is what the inventory answers now. -/
theorem answers_recent (inventory : Inventory) (ids : Ids) (now : Nat) (limits : CacheLimits)
    (happenings : List Happening) (lag : Lag) (ctx : Context) (tenant : String) (caller : ctx.tenant = some tenant)
    (q : Inquiry) :
    let start : Deployment := { inventory, ids, now, cache := .memory limits {} }
    let ran := (inquire lag ctx tenant q).result (undergo happenings start)
    (∀ a, ran.1 = .ok a → ∃ p, Moment start (happenings ++ [.ask lag ctx q]) p ∧
      p.now ≤ ran.2.now ∧ ran.2.now ≤ p.now + limits.ttl ∧ p.inventory.answer tenant q = .ok a) ∧
    ∀ e, ran.1 = .error e → ran.2.caller ctx = .ok tenant → ran.2.inventory.answer tenant q = .error e := by
  intro start ran
  have moment (p : Deployment) : Moment start (happenings ++ [.ask lag ctx q]) p ↔
      Moment start happenings p ∨ p = ran.2 := by
    rw [moment_append, happen_ask caller q]
  have dated : Dated limits (Moment start happenings) (undergo happenings start) := dated_undergo rfl happenings
  obtain ⟨before, m, cached, filed⟩ := dated
  have ended : Inquired limits m _ lag ctx tenant q ran := inquired cached lag ctx tenant q
  generalize ran = ran at ended moment
  cases ended with
  | hit known =>
      refine ⟨fun a returned => ?_, nofun⟩
      cases returned
      obtain ⟨e, onFile, good, rfl⟩ := Memory.files_of_known? known
      obtain ⟨p, passed, filedThen, answered⟩ := filed tenant q e onFile
      refine ⟨p, (moment p).2 (.inl passed), before p passed, ?_, answered⟩
      simp only [Entry.expired, decide_eq_false_iff_not] at good
      dsimp only
      omega
  | loaded answered =>
      refine ⟨fun a returned => ?_, nofun⟩
      cases returned
      obtain ⟨t, admitted, answered⟩ := Answer.bind_ok.1 answered
      cases caller.symm.trans (tenant_of_caller admitted)
      exact ⟨_, (moment _).2 (.inr rfl), Nat.le_refl _, Nat.le_add_right _ _, answered⟩
  | failed answered =>
      refine ⟨nofun, fun e returned live => ?_⟩
      cases returned
      rw [caller_earlier live] at answered
      exact answered

section Runs

def labelled (name : String) : Schedule :=
  { id := "singlesche-0000000a", name, start := 5, finish := 9, tenant := "a",
    createdAt := "1970-01-01T00:00:00.000Z", updatedAt := "1970-01-01T00:00:00.000Z" }

def unlabelled : Deployment := { inventory := {}, ids := ⟨[10], 0⟩, now := 0, cache := .memory ⟨300, 100⟩ {} }

/-- A schedule is looked at and then labelled anew behind the back of the cache. -/
def relabelled : List Happening :=
  let ctx : Context := { tenant := some "a" }
  [.create ctx (.schedule (labelled "first")), .ask {} ctx (.one "singlesche-0000000a"),
    .update ctx "singlesche-0000000a" ["name"] (.schedule (labelled "second")), .wait 300]

theorem answers_recent_relabelled :
    let ctx : Context := { tenant := some "a" }
    let ran := (inquire {} ctx "a" (.one "singlesche-0000000a")).result (undergo relabelled unlabelled)
    ran.1 = .ok (labelled "first") ∧
      ran.2.inventory.answer "a" (.one "singlesche-0000000a") = .ok (labelled "second") ∧
      ∃ p, Moment unlabelled (relabelled ++ [.ask {} ctx (.one "singlesche-0000000a")]) p ∧
        p.now ≤ ran.2.now ∧ ran.2.now ≤ p.now + 300 ∧
        p.inventory.answer "a" (.one "singlesche-0000000a") = .ok (labelled "first") := by
  intro ctx ran
  have returned : ran.1 = .ok (labelled "first") := rfl
  have anew : ran.2.inventory.answer "a" (.one "singlesche-0000000a") = .ok (labelled "second") := rfl
  have recent := answers_recent {} ⟨[10], 0⟩ 0 ⟨300, 100⟩ relabelled {} ctx "a" rfl (.one "singlesche-0000000a")
  exact ⟨returned, anew, recent.1 _ returned⟩

end Runs

end Deployment
end Upkeep
