import Upkeep.Proofs.Inventory.Supply
import Upkeep.Proofs.Schedule.Mask
import Upkeep.Proofs.Schedule.Sent
import Upkeep.Proofs.Service.Watched
import Upkeep.Proofs.Service.Write

/-! Which schedules are accepted. To store one, as a new one or in the place of another, succeeds exactly if
it is well-formed and its target is there. One that is not well-formed is refused as an argument before
anything is called; of one that is, the target is the only thing that may not be found. -/
namespace Upkeep
open Answer (FailsAs)

theorem Mask.translate_fails (mask : Option (List String)) (strict : Bool) :
    FailsAs .invalidArgument (translate mask strict) := by
  rcases mask with _ | fields
  · exact .ok []
  by_cases given : fields = []
  · subst given
    exact .ok []
  rcases allowed_or_refused strict fields with allowed | refused
  · obtain ⟨paths, done, -⟩ := translate_allowed allowed
    rw [done]
    exact .ok paths
  · obtain ⟨e, failed, code⟩ := translate_refused given refused
    rw [failed]
    exact .error code

namespace Criteria

theorem readEpoch_fails (s : Option String) : FailsAs .invalidArgument (readEpoch s) := by
  unfold readEpoch
  split
  · exact .ok none
  · split
    · exact .ok _
    · exact .error rfl

theorem readId_fails (k : Kind) (s : Option String) : FailsAs .invalidArgument (readId k s) := by
  unfold readId
  split
  · exact (k.checkId_fails _).bind fun _ => .ok _
  · exact .ok _

theorem read_fails (hostId siteId regionId epoch : Option String) :
    FailsAs .invalidArgument (read hostId siteId regionId epoch) :=
  (readEpoch_fails _).bind fun _ => (readId_fails _ _).bind fun _ => (readId_fails _ _).bind fun _ =>
    (readId_fails _ _).bind fun _ => .ok _

end Criteria

theorem ServiceSettings.limit_fails (set : ServiceSettings) (asked : Nat) :
    FailsAs .invalidArgument (set.limit asked) :=
  .ite (.ok _) (.ite (.error rfl) (.ok _))

/-- A request with a tenant that is not good for a plan is a bad argument. -/
theorem Service.plan_fails (set : ServiceSettings) {ctx : Context} {tenant : String}
    (caller : ctx.tenant = some tenant) (request : Request) : FailsAs .invalidArgument (plan set ctx request) := by
  have required : FailsAs .invalidArgument ctx.requireTenant := by
    rw [Context.requireTenant_ok.2 caller]
    exact .ok tenant
  have named (operation id : String) : FailsAs .invalidArgument ((Kind.schedule.checkId id).during operation) :=
    (Kind.checkId_fails _ _).during _
  have sent (operation : String) (s : Wire.Schedule) : FailsAs .invalidArgument (s.toStored.during operation) :=
    s.toStored_fails.during _
  cases request with
  | create s => exact required.bind fun _ => (sent _ s).bind fun _ => .ok _
  | get id => exact required.bind fun _ => (named _ id).bind fun _ => .ok _
  | list r =>
      exact required.bind fun _ => ((Criteria.read_fails _ _ _ _).during _).bind fun _ =>
        ((set.limit_fails _).during _).bind fun _ => .ok _
  | update id s => exact required.bind fun _ => (named _ id).bind fun _ => (sent _ s).bind fun _ => .ok _
  | patch id s mask =>
      exact required.bind fun _ => (named _ id).bind fun _ => (sent _ s).bind fun _ =>
        ((Mask.translate_fails mask _).during _).bind fun _ => .ok _
  | delete id => exact required.bind fun _ => (named _ id).bind fun _ => .ok _

namespace Schedule.Replaced
variable {s stored : Schedule}

/-- A schedule that says the same as one that has passed its checks passes them under every good ID. -/
theorem check (replaced : Replaced stored s) (named : Kind.schedule.isId s.id = true)
    (checked : stored.check = .ok ()) : s.check = .ok () := by
  obtain ⟨-, titled, targeted, timed⟩ := check_ok.1 checked
  have window : s.window = stored.window := by
    unfold Schedule.window
    rw [replaced.start, replaced.finish]
  refine check_ok.2 ⟨fun _ => named, replaced.name ▸ titled, ?_, window ▸ timed⟩
  intro t held
  obtain ⟨u, given, rfl⟩ := Option.map_eq_some_iff.1 (replaced.target.symm.trans held)
  rw [Target.kind_stub, Target.id_stub]
  exact targeted u given

theorem narrow (replaced : Replaced stored s) (fits : stored.Narrow) : s.Narrow :=
  ⟨replaced.start ▸ fits.start, replaced.finish ▸ fits.finish⟩

end Schedule.Replaced

namespace Partition
variable {p : Partition} {tenant now id : String} {stored old : Schedule}

theorem requireTarget_fails (target : Option Target) : FailsAs .notFound (p.requireTarget target) := by
  cases target with
  | none => exact .ok ()
  | some t => exact .ite (.ok ()) (.error rfl)

/-- Whether a checked schedule can be filed is up to its target alone. -/
theorem prepare_checked (p : Partition) (tenant now : String) (named : Kind.schedule.isId id = true)
    (checked : stored.check = .ok ()) :
    ∃ made, Schedule.Replaced stored made ∧ p.prepare tenant now id (.schedule stored) = (do
      p.requireTarget (stored.target.map Target.stub)
      return .schedule made) := by
  let made : Schedule := { stored with
    id, tenant, createdAt := now, updatedAt := now, target := stored.target.map Target.stub }
  have replaced : Schedule.Replaced stored made := ⟨rfl, rfl, rfl, rfl, rfl⟩
  have again : made.check = .ok () := replaced.check named checked
  refine ⟨made, replaced, ?_⟩
  unfold prepare
  dsimp only
  rw [again]
  rfl

/-- Whether a checked schedule can come in the place of another is up to its target alone, for the target
need not be looked for again if it is the same. -/
theorem Sound.revise_checked (sound : p.Sound tenant) (now : String) (found : p.find? id = some (.schedule old))
    (checked : stored.check = .ok ()) :
    ∃ made, Schedule.Replaced stored made ∧ p.revise now Mask.full old stored = (do
      p.requireTarget (stored.target.map Target.stub)
      return made) := by
  let masked : Schedule := { old with
    name := stored.name, status := stored.status, start := stored.start, finish := stored.finish
    target := stored.target.map Target.stub }
  have replaced : Schedule.Replaced stored masked := ⟨rfl, rfl, rfl, rfl, rfl⟩
  have again : masked.check = .ok () := replaced.check (sound.fits found).named checked
  refine ⟨{ masked with updatedAt := now }, ⟨rfl, rfl, rfl, rfl, rfl⟩, ?_⟩
  unfold revise
  rw [Schedule.applyMask_all (.inr rfl)]
  simp only [bind, Except.bind]
  rw [again]
  by_cases same : stored.target.map Target.stub = old.target
  · have anchored : p.requireTarget (stored.target.map Target.stub) = .ok () :=
      requireTarget_ok.2 fun t held => (sound.fits found).anchored old t rfl (same.symm.trans held)
    rw [if_neg (fun other => other same), anchored]
  · rw [if_pos same]

end Partition

/-- The targets that are named are there, each of its kind. -/
def Wire.Schedule.Housed (p : Partition) (x : Wire.Schedule) : Prop :=
  ∀ t ∈ x.targets, ∃ r, p.find? t.2 = some r ∧ r.kind = t.1

theorem Wire.Schedule.requireTarget_ok {p : Partition} {x : Wire.Schedule} {stored : Upkeep.Schedule}
    (converted : x.toStored = .ok stored) :
    p.requireTarget (stored.target.map Target.stub) = .ok () ↔ x.Housed p := by
  rw [Partition.requireTarget_ok]
  unfold Housed
  rw [targets_of_named (toStored_ok converted).target]
  cases stored.target with
  | none => simp
  | some t =>
      simp only [Option.map_some, Option.some.injEq, forall_eq', Option.toList_some, List.map_cons, List.map_nil,
        List.mem_singleton, forall_eq, Partition.resolve_eq_some, Target.id_stub, Target.kind_stub]
      constructor
      · rintro ⟨u, there, kind⟩
        exact ⟨u.resource, there, u.kind_resource.trans kind⟩
      · rintro ⟨r, there, kind⟩
        obtain ⟨u, rfl, alike⟩ := Resource.eq_resource kind
        exact ⟨u, there, alike⟩

/-- A request to store a schedule: as a new one, or in the place of one that is there. -/
inductive Service.Stores (p : Partition) (x : Wire.Schedule) : Service.Request → Prop
  | create : Stores p x (.create x)
  | update {id : String} {old : Schedule} : p.find? id = some (.schedule old) → Stores p x (.update id x)

/-- There is an ID for what a request creates. One that is in use is drawn again, and so nothing can be created
where all are. -/
def Service.Supplied (p : Partition) : Service.Request → Prop
  | .create _ => ∃ w, p.find? (Kind.schedule.idOf w) = none
  | _ => True

/-- An answer that is up to another one. -/
inductive Service.DecidedBy : Answer Unit → Answer Service.Reply → Prop
  | ok {reply} : DecidedBy (.ok ()) (.ok reply)
  | error {operation e} : DecidedBy (.error e) (.error (.during operation e))

namespace Service.DecidedBy
variable {required : Answer Unit} {answer : Answer Reply}

theorem ok_iff (decided : DecidedBy required answer) : (∃ reply, answer = .ok reply) ↔ required = .ok () := by
  cases decided with
  | ok => exact ⟨fun _ => rfl, fun _ => ⟨_, rfl⟩⟩
  | error => exact ⟨fun ⟨_, done⟩ => (nomatch done), fun done => (nomatch done)⟩

theorem fails {c : Code} (decided : DecidedBy required answer) (fails : FailsAs c required) : FailsAs c answer := by
  cases decided with
  | ok => exact .ok _
  | @error operation e =>
      have code : e.code = c := fails e rfl
      exact .error code

end Service.DecidedBy

namespace Deployment
open Service (carryOut Stores Supplied DecidedBy Planned)
variable {d : Deployment} {ctx : Context} {tenant id : String} {stored old : Schedule} {x : Wire.Schedule}
  {request : Service.Request}

theorem create_decided (live : ctx.check d.cancelled d.now = .ok ()) (caller : ctx.tenant = some tenant)
    (free : ∃ w, (d.inventory.partition tenant).find? (Kind.schedule.idOf w) = none)
    (checked : stored.check = .ok ()) (fits : stored.Narrow) :
    DecidedBy ((d.inventory.partition tenant).requireTarget (stored.target.map Target.stub))
      ((carryOut backend ctx (.create tenant stored)).result d).1 := by
  have admitted := caller_live live caller
  obtain ⟨id, rest, drawn⟩ := Partition.drawId_exists free d.ids
  have new : (d.inventory.partition tenant).newId d.ids (.schedule stored) = (.ok id, rest) :=
    (if_pos (.inl rfl)).trans drawn
  have created := Inventory.create_named d.time new
  obtain ⟨made, replaced, prepared⟩ :=
    (d.inventory.partition tenant).prepare_checked tenant d.time (Partition.drawId_ok drawn).2 checked
  rw [prepared] at created
  cases required : (d.inventory.partition tenant).requireTarget (stored.target.map Target.stub) with
  | error e =>
      rw [required] at created
      have failed : (backend.store.create ctx _).result d = _ := create_result admitted created
      rw [carryOut, write_failed live failed]
      exact .error
  | ok u =>
      rw [required] at created
      have done : (backend.store.create ctx _).result d = _ := create_result admitted created
      obtain ⟨seen, seenAs⟩ := (replaced.narrow fits).shown _
      rw [carryOut, write_done live done seenAs]
      exact .ok

theorem update_decided (operation : String) (sound : d.inventory.Sound) (live : ctx.check d.cancelled d.now = .ok ())
    (caller : ctx.tenant = some tenant) (found : (d.inventory.partition tenant).find? id = some (.schedule old))
    (checked : stored.check = .ok ()) (fits : stored.Narrow) :
    DecidedBy ((d.inventory.partition tenant).requireTarget (stored.target.map Target.stub))
      ((carryOut backend ctx (.change tenant operation id Mask.full stored)).result d).1 := by
  obtain ⟨made, replaced, revised⟩ := (sound tenant).revise_checked d.time found checked
  cases required : (d.inventory.partition tenant).requireTarget (stored.target.map Target.stub) with
  | error e =>
      rw [required] at revised
      have failed := Inventory.update_found d.time Mask.full stored found
      rw [revised] at failed
      have failed : (backend.store.update ctx id Mask.full _).result d = _ :=
        update_result (caller_live live caller) failed
      rw [carryOut, write_failed live failed]
      exact .error
  | ok u =>
      rw [required] at revised
      obtain ⟨seen, done, -⟩ := carryOut_revised operation live caller (replaced.narrow fits) found revised
      rw [done]
      exact .ok

/-- What is not well-formed is refused before anything is called. -/
theorem refused_unformed (set : ServiceSettings) (caller : ctx.tenant = some tenant)
    (stores : Stores (d.inventory.partition tenant) x request) (malformed : ¬ x.WellFormed)
    {σ : Type} (b : Backend σ) (s : σ) :
    ∃ e, (Service.serve b set ctx request).result s = (.error e, s) ∧ e.code = .invalidArgument := by
  cases fit : Service.plan set ctx request with
  | error e => exact ⟨e, Service.serve_unplanned fit, Service.plan_fails set caller request e fit⟩
  | ok p =>
      refine absurd ?_ malformed
      have planned := Service.plan_ok.1 fit
      cases stores with
      | create =>
          cases planned with
          | create _ converted => exact Wire.Schedule.toStored_iff.1 ⟨_, converted⟩
      | update found =>
          cases planned with
          | update _ _ converted => exact Wire.Schedule.toStored_iff.1 ⟨_, converted⟩

/-- What is well-formed is refused only for its target. -/
theorem serve_decided (sound : d.inventory.Sound) (set : ServiceSettings)
    (live : ctx.check d.cancelled d.now = .ok ()) (caller : ctx.tenant = some tenant)
    (stores : Stores (d.inventory.partition tenant) x request)
    (supplied : Supplied (d.inventory.partition tenant) request) (converted : x.toStored = .ok stored) :
    DecidedBy ((d.inventory.partition tenant).requireTarget (stored.target.map Target.stub))
      ((Service.serve backend set ctx request).result d).1 := by
  have checked := (Wire.Schedule.toStored_ok converted).checked
  have fits := Wire.Schedule.toStored_narrow converted
  cases stores with
  | create =>
      rw [Service.serve_planned (.create caller converted)]
      exact create_decided live caller supplied checked fits
  | @update id old found =>
      have named : Kind.schedule.isId id = true := (sound tenant).named id (.schedule old) found
      rw [Service.serve_planned (.update caller named converted)]
      exact update_decided _ sound live caller found checked fits

/-- A caller can store a schedule, as a new one or in the place of another, exactly if it is well-formed and
its target is there. If it is not well-formed, it is refused as an argument and nothing is called; if only its
target is not there, that is what is not found. -/
theorem accepted_iff (ctx : Context) (x : Wire.Schedule) (reachable : d.inventory.Reachable) (set : ServiceSettings)
    (live : ctx.check d.cancelled d.now = .ok ()) (caller : ctx.tenant = some tenant)
    (stores : Stores (d.inventory.partition tenant) x request) :
    let p := d.inventory.partition tenant
    let ran := (Service.serve watched set ctx request).result ⟨d, []⟩
    (¬ x.WellFormed → ∃ e, ran = (.error e, ⟨d, []⟩) ∧ e.code = .invalidArgument) ∧
    (Supplied p request →
      ((∃ reply, ran.1 = .ok reply) ↔ x.WellFormed ∧ x.Housed p) ∧
      (x.WellFormed → ¬ x.Housed p → ∃ e, ran.1 = .error e ∧ e.code = .notFound)) := by
  intro p ran
  have refused (malformed : ¬ x.WellFormed) :=
    refused_unformed set caller stores malformed watched (⟨d, []⟩ : Service.Watched Deployment)
  refine ⟨refused, fun supplied => ?_⟩
  by_cases good : x.WellFormed
  · obtain ⟨stored, converted⟩ := Wire.Schedule.toStored_iff.2 good
    have decided := serve_decided reachable.sound set live caller stores supplied converted
    rw [← (serve_watched set ctx request ⟨d, []⟩).1] at decided
    have done : (∃ reply, ran.1 = .ok reply) ↔ x.Housed p :=
      decided.ok_iff.trans (Wire.Schedule.requireTarget_ok converted)
    have fails : FailsAs .notFound ran.1 := decided.fails (p.requireTarget_fails _)
    refine ⟨⟨fun answered => ⟨good, done.1 answered⟩, fun both => done.2 both.2⟩, fun _ missing => ?_⟩
    cases answered : ran.1 with
    | error e => exact ⟨e, rfl, fails e answered⟩
    | ok reply => exact absurd (done.1 ⟨reply, answered⟩) missing
  · obtain ⟨e, failed, -⟩ := refused good
    have failed : ran = (.error e, ⟨d, []⟩) := failed
    rw [failed]
    exact ⟨⟨fun ⟨_, done⟩ => (nomatch done), fun both => absurd both.1 good⟩, fun formed => absurd formed good⟩

/-- A schedule for a host, as it is sent. -/
def sentFor (hostId : String) : Wire.Schedule := { name := "weekly", start := 5, hostId }

theorem sentFor_housed {p : Partition} {hostId : String} (given : hostId ≠ "") :
    (sentFor hostId).Housed p ↔ ∃ r, p.find? hostId = some r ∧ r.kind = .host := by
  have targets : (sentFor hostId).targets = [(.host, hostId)] := by simp [sentFor, Wire.Schedule.targets, given]
  unfold Wire.Schedule.Housed
  rw [targets]
  simp

/-- The host in `sheltered` can be had for a schedule, and none beside it. -/
theorem accepted_iff_sheltered :
    let ctx : Context := { tenant := some "a" }
    let served (request : Service.Request) := (Service.serve watched {} ctx request).result ⟨sheltered, []⟩
    sheltered.inventory.Reachable ∧
    (∃ reply, (served (.create (sentFor "host-00000001"))).1 = .ok reply) ∧
    (∃ e, (served (.update "singlesche-f0000000" (sentFor "host-00000002"))).1 = .error e ∧ e.code = .notFound) ∧
    ∃ e, served (.create (sentFor "host-1")) = (.error e, ⟨sheltered, []⟩) ∧ e.code = .invalidArgument := by
  intro ctx served
  have reachable : sheltered.inventory.Reachable := .create _ _ (.create _ _ .empty)
  have create (x : Wire.Schedule) := accepted_iff ctx x reachable {} rfl rfl .create
  have update (x : Wire.Schedule) := accepted_iff ctx x reachable {} rfl rfl
    (.update rfl : Stores _ x (.update "singlesche-f0000000" x))
  have formed (hostId : String) (converted : ∃ stored, (sentFor hostId).toStored = .ok stored) :=
    Wire.Schedule.toStored_iff.1 converted
  refine ⟨reachable, ?_, ?_, ?_⟩
  · have few : (sheltered.inventory.partition "a").size < UInt32.size := by decide
    refine ((create _).2 (Partition.exists_free few .schedule)).1.2 ⟨formed _ ⟨_, rfl⟩, ?_⟩
    exact (sentFor_housed (by decide)).2 ⟨_, rfl, rfl⟩
  · refine ((update _).2 trivial).2 (formed _ ⟨_, rfl⟩) fun housed => ?_
    obtain ⟨r, found, -⟩ := (sentFor_housed (by decide)).1 housed
    nomatch (found : none = some r)
  · refine (create _).1 fun good => ?_
    obtain ⟨stored, converted⟩ := Wire.Schedule.toStored_iff.2 good
    nomatch converted

end Deployment
end Upkeep
