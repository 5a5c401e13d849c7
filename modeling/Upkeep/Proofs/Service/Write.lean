import Upkeep.Proofs.Inventory.Rewrite
import Upkeep.Proofs.Schedule.Mask
import Upkeep.Proofs.Service.Narrow

/-! Writes are made whole or not at all. One that fails leaves the inventory and the cache as they
were; one that succeeds has rewritten one entry of the caller's as it was asked to, and answers with
the schedule that stands there now. No write that was made is told to have failed, for whatever is stored can
be shown. -/
namespace Upkeep

namespace Service
variable {σ : Type} {b : Backend σ} {set : ServiceSettings} {ctx : Context} {s : σ}

/-- The ID of the schedule that a request changes. -/
def Request.changed? : Request → Option String
  | .update id _ | .patch id _ _ => some id
  | _ => none

/-- What is sent for the schedule that a request changes. -/
def Request.sent? : Request → Option Wire.Schedule
  | .update _ w | .patch _ w _ => some w
  | _ => none

/-- The paths that a change takes over from what is sent: all of them, unless it names fields. -/
def Request.paths : Request → List String
  | .patch _ _ (some (field :: rest)) => Mask.named (field :: rest)
  | _ => Mask.full

def Request.writes : Request → Bool
  | .get _ | .list _ => false
  | _ => true

theorem serve_unplanned {request : Request} {e : Failure} (unfit : plan set ctx request = .error e) :
    (serve b set ctx request).result s = (.error e, s) := by
  rw [serve_eq, unfit]
  rfl

theorem serve_planned {request : Request} {p : Plan} (planned : Planned set ctx request p) :
    (serve b set ctx request).result s = (carryOut b ctx p).result s := by
  rw [serve_eq, plan_ok.2 planned]
  rfl

/-- What is planned for a change takes over the paths that were asked for. -/
theorem Planned.applyMask {request : Request} {tenant operation id : String} {mask : List String} {stored : Schedule}
    (planned : Planned set ctx request (.change tenant operation id mask stored)) (old : Schedule) :
    old.applyMask stored mask = .ok (old.taken stored request.paths) := by
  have whole (mask : List String) (all : mask = [] ∨ mask = Mask.full) :
      old.applyMask stored mask = .ok (old.taken stored Mask.full) :=
    (Schedule.applyMask_all all old stored).trans (congrArg _ (Schedule.taken_all (by decide)).symm)
  cases planned with
  | update caller named converted => exact whole _ (.inr rfl)
  | @patch _ _ _ fields _ _ caller named converted translated =>
      match fields with
      | none | some [] =>
          cases translated
          exact whole _ (.inl rfl)
      | some (field :: rest) =>
          obtain ⟨given, each⟩ := Mask.translate_ok (List.cons_ne_nil field rest) translated
          exact Schedule.applyMask_translated given each old stored

theorem shown_ok {operation : String} {stored : Schedule} {seen : Wire.Schedule}
    (seenAs : Wire.Schedule.ofStored stored = .ok seen) :
    shown operation stored = .ok (.schedule seen) :=
  Answer.bind_ok.2 ⟨seen, Answer.during_eq_ok.2 seenAs, rfl⟩

end Service

theorem Inventory.schedule_found {inv : Inventory} {tenant id : String} {s : Schedule}
    (found : (inv.partition tenant).find? id = some (.schedule s)) :
    inv.schedule tenant id = .ok ((inv.partition tenant).hydrate s) :=
  Answer.bind_ok.2 ⟨_, Inventory.get_ok.2 ⟨_, found, rfl⟩, rfl⟩

/-- What can be stored of a schedule can be shown, with whatever target. -/
theorem Schedule.Narrow.shown {s : Schedule} (narrow : s.Narrow) (p : Partition) :
    ∃ seen, Wire.Schedule.ofStored (p.hydrate s) = .ok seen :=
  Wire.Schedule.ofStored_ok ⟨narrow.start, narrow.finish⟩

theorem Inventory.Narrow.shown {inv : Inventory} {tenant id : String} {s : Schedule} (narrow : inv.Narrow)
    (found : (inv.partition tenant).find? id = some (.schedule s)) :
    ∃ seen, Wire.Schedule.ofStored ((inv.partition tenant).hydrate s) = .ok seen :=
  (narrow tenant id s found).shown _

namespace Deployment
open Service (write shown shown_ok carryOut)
variable {d after : Deployment} {ctx : Context} {tenant id operation : String}

def Event.writes : Event → Bool
  | .serve _ _ _ request => request.writes
  | .plant _ _ _ | .uproot _ _ _ _ => true
  | .wait _ => false

def Outcome.failed : Outcome → Bool
  | .served (.error _) | .planted (.error _) | .uprooted (.error _) => true
  | _ => false

/-- What a write comes to that succeeds: one entry of the caller's is rewritten, with what was sent and the time
of the write. -/
inductive Wrote (inv next : Inventory) (now : String) : Event → Outcome → Prop
  | added {set ctx cancelled w tenant id stored made seen} :
      ctx.tenant = some tenant → w.toStored = .ok stored →
      made = { stored with
        id, tenant, target := stored.target.map Target.stub, createdAt := now, updatedAt := now } →
      inv.Rewrites next tenant id none (some (.schedule made)) →
      Wire.Schedule.ofStored ((next.partition tenant).hydrate made) = .ok seen →
      Wrote inv next now (.serve set ctx cancelled (.create w)) (.served (.ok (.schedule seen)))
  | replaced {set ctx cancelled request tenant id w stored old made seen} :
      ctx.tenant = some tenant → request.changed? = some id →
      request.sent? = some w → w.toStored = .ok stored →
      made = { old.taken stored request.paths with updatedAt := now } →
      inv.Rewrites next tenant id (some (.schedule old)) (some (.schedule made)) →
      made.id = old.id → made.tenant = old.tenant → made.createdAt = old.createdAt →
      Wire.Schedule.ofStored ((next.partition tenant).hydrate made) = .ok seen →
      Wrote inv next now (.serve set ctx cancelled request) (.served (.ok (.schedule seen)))
  | removed {set ctx cancelled tenant id old} :
      ctx.tenant = some tenant → inv.Rewrites next tenant id (some (.schedule old)) none →
      Wrote inv next now (.serve set ctx cancelled (.delete id)) (.served (.ok .deleted))
  | planted {ctx cancelled t tenant id r} :
      ctx.tenant = some tenant → r = t.resource.filed id tenant now →
      inv.Rewrites next tenant id none (some r) → r.kind = t.kind →
      Wrote inv next now (.plant ctx cancelled t) (.planted (.ok r))
  | uprooted {ctx cancelled id outside tenant old} :
      ctx.tenant = some tenant → inv.Rewrites next tenant id (some old) none → old.kind ≠ .schedule →
      Wrote inv next now (.uproot ctx cancelled id outside) (.uprooted (.ok ()))

theorem Wrote.done {inv next : Inventory} {now : String} {event : Event} {outcome : Outcome}
    (wrote : Wrote inv next now event outcome) : outcome.failed = false := by
  cases wrote <;> rfl

/-- Nothing has changed that anyone could be shown. -/
structure Unmoved (d after : Deployment) : Prop where
  inventory : after.inventory = d.inventory
  cache : after.cache = d.cache

/-- A call on the inventory either fails and moves nothing, or does what `Q` says. -/
def Whole {α : Type} (d : Deployment) (ran : Answer α × Deployment) (Q : α → Inventory → Prop) : Prop :=
  (∃ e, ran.1 = .error e ∧ d.Unmoved ran.2) ∨ ∃ a, ran.1 = .ok a ∧ Q a ran.2.inventory

theorem await_result {α : Type} {b : Backend Deployment} (checks : b.check = check)
    {call : Action Deployment α} :
    (b.await ctx call).result d = match ctx.check d.cancelled d.now with
      | .ok () => call.result d
      | .error e => (.error e, d) := by
  have checked : (b.check ctx).result d = (ctx.check d.cancelled d.now, d) := by rw [checks]; rfl
  unfold Backend.await
  rw [Action.result_bind, checked]
  cases ctx.check d.cancelled d.now with
  | error e => rfl
  | ok u => rfl

theorem caller_live (live : ctx.check d.cancelled d.now = .ok ()) (caller : ctx.tenant = some tenant) :
    d.caller ctx = .ok tenant :=
  Answer.after_ok.2 ⟨live, Context.requireTenant_ok.2 caller⟩

/-- A schedule that was written is shown, once the cache has been told. -/
theorem write_made {call : Action Deployment Resource} {tell : Schedule → Deployment → Deployment}
    {made : Schedule} (live : ctx.check d.cancelled d.now = .ok ())
    (done : call.result d = (.ok (.schedule made), after)) :
    (write backend operation ctx call tell).result d = (shown operation made, tell made after) := by
  unfold write
  rw [Action.result_bind, Action.result_during, Action.result_bind, await_result rfl, live, done]
  rfl

theorem write_done {call : Action Deployment Resource} {tell : Schedule → Deployment → Deployment}
    {made : Schedule} {seen : Wire.Schedule} (live : ctx.check d.cancelled d.now = .ok ())
    (done : call.result d = (.ok (.schedule made), after))
    (seenAs : Wire.Schedule.ofStored made = .ok seen) :
    (write backend operation ctx call tell).result d = (.ok (.schedule seen), tell made after) :=
  (write_made live done).trans (congrArg (·, tell made after) (shown_ok seenAs))

theorem write_failed {call : Action Deployment Resource} {tell : Schedule → Deployment → Deployment}
    {e : Failure} (live : ctx.check d.cancelled d.now = .ok ())
    (failed : call.result d = (.error e, after)) :
    (write backend operation ctx call tell).result d = (.error (.during operation e), after) := by
  unfold write
  rw [Action.result_bind, Action.result_during, Action.result_bind, await_result rfl, live, failed]
  rfl

theorem write_ended {call : Action Deployment Resource} {tell : Schedule → Deployment → Deployment}
    {e : Failure} (ended : ctx.check d.cancelled d.now = .error e) :
    (write backend operation ctx call tell).result d = (.error (.during operation e), d) := by
  unfold write
  rw [Action.result_bind, Action.result_during, Action.result_bind, await_result rfl, ended]
  rfl

/-- A schedule that is created is added as it was sent, under an ID that was free. -/
theorem carryOut_create (sound : d.inventory.Sound) (narrow : d.inventory.Narrow)
    (caller : ctx.tenant = some tenant) {stored : Schedule} (fits : stored.Narrow) :
    d.Whole ((carryOut backend ctx (.create tenant stored)).result d) fun reply next =>
      ∃ id seen, reply = .schedule seen ∧
        let made : Schedule := { stored with
          id, tenant, target := stored.target.map Target.stub, createdAt := d.time, updatedAt := d.time }
        d.inventory.Rewrites next tenant id none (some (.schedule made)) ∧
        Wire.Schedule.ofStored ((next.partition tenant).hydrate made) = .ok seen := by
  cases live : ctx.check d.cancelled d.now with
  | error e =>
      rw [carryOut, write_ended live]
      exact .inl ⟨_, rfl, rfl, rfl⟩
  | ok u =>
      have admitted := caller_live live caller
      obtain ⟨e, rest, failed⟩ | ⟨filed, rest, created, done⟩ :=
        Inventory.create_cases d.inventory d.ids d.time tenant (.schedule stored)
      · have failed : (backend.store.create ctx _).result d = _ := create_result admitted failed
        rw [carryOut, write_failed live failed]
        exact .inl ⟨_, rfl, rfl, rfl⟩
      · have asSent := Partition.prepare_schedule created.prepared
        have rewrites := sound.rewrites_created created
        have kept : (d.inventory.put tenant filed.id filed).Narrow :=
          narrow.put (Inventory.prepare_narrow (by rintro _ ⟨⟩; exact fits) created.prepared)
        have done : (backend.store.create ctx _).result d = _ := create_result admitted done
        generalize filed.id = id at asSent rewrites kept done
        subst asSent
        obtain ⟨seen, seenAs⟩ := kept.shown rewrites.new
        rw [carryOut, write_done live done seenAs]
        exact .inr ⟨_, rfl, id, seen, rfl, rewrites, seenAs⟩

/-- A revision that succeeds is put in its place and shown. -/
theorem carryOut_revised (operation : String) (live : ctx.check d.cancelled d.now = .ok ())
    (caller : ctx.tenant = some tenant) {mask : List String} {old stored made : Schedule} (fits : made.Narrow)
    (found : (d.inventory.partition tenant).find? id = some (.schedule old))
    (revised : (d.inventory.partition tenant).revise d.time mask old stored = .ok made) :
    let ran := (carryOut backend ctx (.change tenant operation id mask stored)).result d
    ∃ seen, ran.1 = .ok (.schedule seen) ∧ ran.2.inventory = d.inventory.put tenant id (.schedule made) := by
  obtain ⟨seen, seenAs⟩ := fits.shown ((d.inventory.put tenant id (.schedule made)).partition tenant)
  have updated := Inventory.update_found d.time mask stored found
  rw [revised] at updated
  have done : (backend.store.update ctx id mask _).result d = _ := update_result (caller_live live caller) updated
  rw [carryOut, write_done live done seenAs]
  exact ⟨seen, rfl, rfl⟩

/-- A change either fails and moves nothing, or a schedule is revised, put in its place and shown. -/
theorem change_cases (operation : String) (mask : List String) (caller : ctx.tenant = some tenant)
    (stored : Schedule) :
    let ran := (carryOut backend ctx (.change tenant operation id mask stored)).result d
    (∃ e, ran.1 = .error e ∧ d.Unmoved ran.2) ∨
    ∃ old made, (d.inventory.partition tenant).find? id = some (.schedule old) ∧
      (d.inventory.partition tenant).revise d.time mask old stored = .ok made ∧
      ran.2.inventory = d.inventory.put tenant id (.schedule made) ∧
      ran.1 = shown operation ((ran.2.inventory.partition tenant).hydrate made) := by
  rw [carryOut]
  cases live : ctx.check d.cancelled d.now with
  | error e =>
      rw [write_ended live]
      exact .inl ⟨_, rfl, rfl, rfl⟩
  | ok u =>
      have admitted := caller_live live caller
      obtain ⟨e, failed⟩ | ⟨old, incoming, made, found, same, revised, done⟩ :=
        Inventory.update_cases d.inventory d.time tenant id mask (.schedule stored)
      · have failed : (backend.store.update ctx id mask _).result d = _ := update_result admitted failed
        rw [write_failed live failed]
        exact .inl ⟨_, rfl, rfl, rfl⟩
      · cases same
        have done : (backend.store.update ctx id mask _).result d = _ := update_result admitted done
        rw [write_made live done]
        exact .inr ⟨old, made, found, revised, rfl, rfl⟩

/-- A patch either fails and moves nothing, or a schedule of the caller's is revised by what was sent. -/
theorem patch_cases {set : ServiceSettings} {w : Wire.Schedule} {fields : Option (List String)} :
    let ran := (Service.serve backend set ctx (.patch id w fields)).result d
    (∃ e, ran.1 = .error e ∧ d.Unmoved ran.2) ∨
    ∃ tenant stored paths old made, ctx.tenant = some tenant ∧ w.toStored = .ok stored ∧
      Mask.translate fields set.strictMask = .ok paths ∧
      (d.inventory.partition tenant).find? id = some (.schedule old) ∧
      (d.inventory.partition tenant).revise d.time paths old stored = .ok made ∧
      ran.2.inventory = d.inventory.put tenant id (.schedule made) := by
  cases fit : Service.plan set ctx (.patch id w fields) with
  | error e =>
      rw [Service.serve_unplanned fit]
      exact .inl ⟨e, rfl, rfl, rfl⟩
  | ok p =>
      have planned := Service.plan_ok.1 fit
      rw [Service.serve_planned planned]
      cases planned with
      | patch caller named converted translated =>
          refine (change_cases _ _ caller _).imp (fun failed => failed) ?_
          rintro ⟨old, made, found, revised, next, -⟩
          exact ⟨_, _, _, old, made, caller, converted, translated, found, revised, next⟩

/-- A schedule that is changed takes over what the mask names, and keeps its ID, its owner and the time of its
creation. -/
theorem carryOut_change (operation : String) (sound : d.inventory.Sound) (narrow : d.inventory.Narrow)
    (caller : ctx.tenant = some tenant) {stored : Schedule} {mask paths : List String}
    (takes : ∀ old : Schedule, old.applyMask stored mask = .ok (old.taken stored paths)) (fits : stored.Narrow) :
    d.Whole ((carryOut backend ctx (.change tenant operation id mask stored)).result d) fun reply next =>
      ∃ old seen, reply = .schedule seen ∧
        let made : Schedule := { old.taken stored paths with updatedAt := d.time }
        d.inventory.Rewrites next tenant id (some (.schedule old)) (some (.schedule made)) ∧
        old.Revised stored made ∧
        Wire.Schedule.ofStored ((next.partition tenant).hydrate made) = .ok seen := by
  refine (change_cases operation mask caller stored).imp (fun failed => failed) ?_
  rintro ⟨old, made, found, revised, next, answered⟩
  have kept : (d.inventory.put tenant id (.schedule made)).Narrow := narrow.put (by
    rintro _ ⟨⟩
    exact Partition.revise_narrow (narrow tenant id old found) fits revised)
  have rewrites := sound.rewrites_revised made found
  have keeps := (Partition.revise_ok revised).1
  obtain ⟨masked, applied, -, -, rfl⟩ := Partition.revise_steps revised
  obtain ⟨seen, seenAs⟩ := kept.shown rewrites.new
  rw [← next] at rewrites seenAs
  cases (takes old).symm.trans applied
  exact ⟨_, answered.trans (shown_ok seenAs), old, seen, rfl, rewrites, keeps, seenAs⟩

theorem carryOut_delete (sound : d.inventory.Sound) (caller : ctx.tenant = some tenant)
    (named : Kind.schedule.isId id = true) :
    d.Whole ((carryOut backend ctx (.delete tenant id)).result d) fun reply next =>
      ∃ old, reply = .deleted ∧ d.inventory.Rewrites next tenant id (some (.schedule old)) none := by
  rw [carryOut, Action.result_bind, Action.result_during]
  cases live : ctx.check d.cancelled d.now with
  | error e =>
      rw [await_result rfl, live]
      exact .inl ⟨_, rfl, rfl, rfl⟩
  | ok u =>
      have admitted := caller_live live caller
      rw [await_result rfl, live]
      obtain ⟨e, failed⟩ | ⟨old, found, free, done⟩ := Inventory.delete_cases d.inventory tenant id
      · have failed : (backend.store.delete ctx id).result d = _ := delete_result admitted failed
        rw [failed]
        exact .inl ⟨_, rfl, rfl, rfl⟩
      · obtain ⟨s, rfl⟩ := Resource.eq_schedule
          (Kind.isId_unique ((sound tenant).named id old found) named)
        have done : (backend.store.delete ctx id).result d = _ := delete_result admitted done
        rw [done]
        exact .inr ⟨_, rfl, s, rfl, sound.rewrites_erased found free⟩

theorem plant_whole (ctx : Context) (sound : d.inventory.Sound) (t : Target) :
    d.Whole ((create ctx t.resource).result d) fun r next =>
      ∃ tenant id, ctx.tenant = some tenant ∧ r = t.resource.filed id tenant d.time ∧
        d.inventory.Rewrites next tenant id none (some r) ∧ r.kind = t.kind := by
  cases admitted : d.caller ctx with
  | error e =>
      unfold create
      rw [entered_result, admitted]
      exact .inl ⟨_, rfl, rfl, rfl⟩
  | ok tenant =>
      obtain ⟨e, rest, failed⟩ | ⟨filed, rest, created, done⟩ :=
        Inventory.create_cases d.inventory d.ids d.time tenant t.resource
      · rw [create_result admitted failed]
        exact .inl ⟨_, rfl, rfl, rfl⟩
      · have kind : filed.kind = t.kind :=
          (Partition.prepare_ok created.prepared).2.1.trans t.kind_resource
        have bare : ∀ p : Partition, p.view filed = filed :=
          Partition.view_bare (kind ▸ t.kind_ne_schedule)
        rw [create_result admitted done, bare]
        exact .inr ⟨_, rfl, tenant, filed.id, tenant_of_caller admitted, Partition.prepare_target created.prepared,
          sound.rewrites_created created, kind⟩

theorem uproot_whole (ctx : Context) (sound : d.inventory.Sound) (outside : Kind.schedule.isId id = false) :
    d.Whole ((delete ctx id).result d) fun _ next =>
      ∃ tenant old, ctx.tenant = some tenant ∧
        d.inventory.Rewrites next tenant id (some old) none ∧ old.kind ≠ .schedule := by
  cases admitted : d.caller ctx with
  | error e =>
      unfold delete
      rw [entered_result, admitted]
      exact .inl ⟨_, rfl, rfl, rfl⟩
  | ok tenant =>
      obtain ⟨e, failed⟩ | ⟨old, found, free, done⟩ := Inventory.delete_cases d.inventory tenant id
      · rw [delete_result admitted failed]
        exact .inl ⟨_, rfl, rfl, rfl⟩
      · rw [delete_result admitted done]
        refine .inr ⟨_, rfl, tenant, old, tenant_of_caller admitted, sound.rewrites_erased found free, ?_⟩
        intro schedule
        have named := (sound tenant).named id old found
        rw [schedule, outside] at named
        cases named

/-- What is known of a call on the inventory is known of the event that it was. -/
theorem Whole.event {α : Type} {ran : Answer α × Deployment} {Q : α → Inventory → Prop} (event : Event)
    (f : Answer α → Outcome) (h : d.Whole ran Q) (fails : ∀ e, (f (.error e)).failed = true)
    (wrote : ∀ a, Q a ran.2.inventory → Wrote d.inventory ran.2.inventory d.time event (f (.ok a))) :
    (f ran.1).failed = true ∧ d.Unmoved ran.2 ∨ Wrote d.inventory ran.2.inventory d.time event (f ran.1) := by
  obtain ⟨e, failed, unmoved⟩ | ⟨a, done, post⟩ := h
  · rw [failed]
    exact .inl ⟨fails e, unmoved⟩
  · rw [done]
    exact .inr (wrote a post)

theorem serve_whole (sound : d.inventory.Sound) (narrow : d.inventory.Narrow) (set : ServiceSettings)
    (ctx : Context) (cancelled : Bool) {request : Service.Request} (writes : request.writes = true) :
    let ran := (Service.serve backend set ctx request).result d
    (Outcome.served ran.1).failed = true ∧ d.Unmoved ran.2 ∨
      Wrote d.inventory ran.2.inventory d.time (.serve set ctx cancelled request) (.served ran.1) := by
  cases unfit : Service.plan set ctx request with
  | error e =>
      rw [Service.serve_unplanned unfit]
      exact .inl ⟨rfl, rfl, rfl⟩
  | ok p =>
      have planned := Service.plan_ok.1 unfit
      rw [Service.serve_planned planned]
      have changed {tenant operation id : String} {mask : List String} {w : Wire.Schedule} {stored : Schedule}
          (planned : Service.Planned set ctx request (.change tenant operation id mask stored))
          (caller : ctx.tenant = some tenant) (changes : request.changed? = some id)
          (sent : request.sent? = some w) (converted : w.toStored = .ok stored) :=
        (carryOut_change operation sound narrow caller planned.applyMask
          (Wire.Schedule.toStored_narrow converted)).event (.serve set ctx cancelled request) .served (fun _ => rfl) (by
            rintro _ ⟨old, seen, rfl, rewrites, revised, seenAs⟩
            exact .replaced caller changes sent converted rfl rewrites revised.id revised.tenant revised.createdAt
              seenAs)
      cases planned with
      | get => cases writes
      | list => cases writes
      | create caller converted =>
          refine (carryOut_create sound narrow caller (Wire.Schedule.toStored_narrow converted)).event
            _ .served (fun _ => rfl) ?_
          rintro _ ⟨id, seen, rfl, rewrites, seenAs⟩
          exact .added caller converted rfl rewrites seenAs
      | update caller named converted =>
          exact changed (.update caller named converted) caller rfl rfl converted
      | patch caller named converted translated =>
          exact changed (.patch caller named converted translated) caller rfl rfl converted
      | delete caller named =>
          refine (carryOut_delete sound caller named).event _ .served (fun _ => rfl) ?_
          rintro _ ⟨old, rfl, rewrites⟩
          exact .removed caller rewrites

/-- Each write either fails and moves nothing, or succeeds and has rewritten one entry. -/
theorem step_whole (sound : d.inventory.Sound) (narrow : d.inventory.Narrow) {event : Event}
    (writes : event.writes = true) :
    let ran := step backend d event
    ran.1.failed = true ∧ d.Unmoved ran.2 ∨ Wrote d.inventory ran.2.inventory d.time event ran.1 := by
  cases event with
  | wait ms => cases writes
  | serve set ctx cancelled request =>
      have whole := serve_whole (d := { d with cancelled }) sound narrow set ctx cancelled writes
      exact whole.imp (fun ⟨failed, unmoved⟩ => ⟨failed, unmoved.inventory, unmoved.cache⟩) fun wrote => wrote
  | plant ctx cancelled t =>
      have whole := (plant_whole (d := { d with cancelled }) ctx sound t).event
        (.plant ctx cancelled t) .planted (fun _ => rfl) (by
          rintro r ⟨tenant, id, caller, asSent, rewrites, kind⟩
          exact .planted caller asSent rewrites kind)
      exact whole.imp (fun ⟨failed, unmoved⟩ => ⟨failed, unmoved.inventory, unmoved.cache⟩) fun wrote => wrote
  | uproot ctx cancelled id outside =>
      have whole := (uproot_whole (d := { d with cancelled }) ctx sound outside).event
        (.uproot ctx cancelled id outside) .uprooted (fun _ => rfl) (by
          rintro _ ⟨tenant, old, caller, rewrites, kind⟩
          exact .uprooted caller rewrites kind)
      exact whole.imp (fun ⟨failed, unmoved⟩ => ⟨failed, unmoved.inventory, unmoved.cache⟩) fun wrote => wrote

theorem run_append (b : Backend Deployment) (events : List Event) (event : Event) :
    ∀ d, (run b (events ++ [event]) d).2 = (step b (run b events d).2 event).2 := by
  induction events with
  | nil => exact fun _ => rfl
  | cons first rest ih => exact fun d => ih (step b d first).2

theorem Reached.step (reached : d.Reached) (event : Event) : (step backend d event).2.Reached := by
  obtain ⟨events, limits, ids, now, rfl⟩ := reached
  exact ⟨events ++ [event], limits, ids, now, (run_append backend events event _).symm⟩

theorem Reached.run (reached : d.Reached) (events : List Event) : (run backend events d).2.Reached := by
  induction events generalizing d with
  | nil => exact reached
  | cons event rest ih => exact ih (reached.step event)

/-- In every deployment that a run leads to, a write that fails leaves what there is as it was, and
one that succeeds has rewritten one entry of the caller's, with what was sent and the time of the write.
Whatever stands there then can be shown. -/
theorem write_whole (served : d.Served) {event : Event} (writes : event.writes = true) :
    let ran := step backend d event
    (ran.1.failed = true → d.Unmoved ran.2) ∧
    (ran.1.failed = false → Wrote d.inventory ran.2.inventory d.time event ran.1) ∧
    ∀ tenant id s, (ran.2.inventory.partition tenant).find? id = some (.schedule s) →
      ∃ seen, Wire.Schedule.ofStored ((ran.2.inventory.partition tenant).hydrate s) = .ok seen := by
  intro ran
  have sound := served.lasts Inventory.lasts_sound
  have narrow := served.lasts Inventory.lasts_narrow
  refine ⟨?_, ?_, fun tenant id s found => (step_lasts Inventory.lasts_narrow narrow event).shown found⟩
  · intro failed
    rcases step_whole sound narrow writes with ⟨-, unmoved⟩ | wrote
    · exact unmoved
    · exact absurd (wrote.done.symm.trans failed) Bool.false_ne_true
  · intro done
    rcases step_whole sound narrow writes with ⟨failed, -⟩ | wrote
    · exact absurd (done.symm.trans failed) Bool.false_ne_true
    · exact wrote

/-- A host, and a schedule for it that was booked through the service. -/
def housed : Deployment :=
  let ctx : Context := { tenant := some "a" }
  (run backend
    [.plant ctx false (.host { id := "host-00000001", name := "h" }),
      .serve {} ctx false (.create { name := "nightly", start := 5, finish := 9, hostId := "host-00000001" })]
    { ids := {}, now := 0, cache := .memory ⟨300, 100⟩ {} }).2

theorem housed_reached : housed.Reached := ⟨_, _, _, _, rfl⟩

/-- The start of a schedule may be moved, but not past its end. -/
theorem write_whole_housed :
    let moved (start : UInt32) : Event := .serve {} { tenant := some "a" } false
      (.patch "singlesche-f0000000" { start } (some ["start_seconds"]))
    housed.Served ∧ (moved 7).writes = true ∧
    (step backend housed (moved 7)).1.failed = false ∧ (step backend housed (moved 11)).1.failed = true ∧
    Wrote housed.inventory (step backend housed (moved 7)).2.inventory housed.time (moved 7)
      (step backend housed (moved 7)).1 ∧
    housed.Unmoved (step backend housed (moved 11)).2 := by
  intro moved
  have done : (step backend housed (moved 7)).1.failed = false := rfl
  have failed : (step backend housed (moved 11)).1.failed = true := rfl
  exact ⟨housed_reached.served, rfl, done, failed, (write_whole housed_reached.served rfl).2.1 done,
    (write_whole housed_reached.served rfl).1 failed⟩

end Deployment
end Upkeep
