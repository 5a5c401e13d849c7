import Upkeep.Proofs.Inventory.Page
import Upkeep.Proofs.Service.Write

/-! Answers to writes stay true. The schedule that a write has answered with is what every later
get of it answers with, and what stands for it on every later page, until the next write to it
succeeds. -/
namespace Upkeep

theorem Answer.mem_mapM {α β : Type} {f : α → Answer β} {l : List α} {bs : List β}
    (done : l.mapM f = .ok bs) : ∀ b ∈ bs, ∃ a ∈ l, f a = .ok b := by
  induction l generalizing bs with
  | nil =>
      cases done
      exact fun b member => absurd member List.not_mem_nil
  | cons a l ih =>
      rw [List.mapM_cons] at done
      obtain ⟨b, first, done⟩ := Answer.bind_ok.1 done
      obtain ⟨rest, others, done⟩ := Answer.bind_ok.1 done
      cases done
      intro c member
      rcases List.mem_cons.1 member with rfl | later
      · exact ⟨a, List.mem_cons_self, first⟩
      · obtain ⟨a', there, same⟩ := ih others c later
        exact ⟨a', List.mem_cons_of_mem a there, same⟩

theorem Page.mem_mapM {α β : Type} {f : α → Answer β} {p : Page α} {q : Page β}
    (done : p.mapM f = .ok q) : ∀ b ∈ q.items, ∃ a ∈ p.items, f a = .ok b := by
  obtain ⟨items, each, done⟩ := Answer.bind_ok.1 done
  cases done
  exact Answer.mem_mapM each

theorem Wire.Schedule.ofStored_id {s : Upkeep.Schedule} {seen : Wire.Schedule}
    (seenAs : ofStored s = .ok seen) : seen.id = s.id := by
  obtain ⟨⟨start, finish⟩, -, done⟩ := Answer.bind_ok.1 seenAs
  obtain ⟨status, -, done⟩ := Answer.bind_ok.1 done
  cases done
  unfold Wire.Schedule.withTarget
  split <;> rfl

namespace Inventory
variable {inv next : Inventory} {tenant other id : String}

/-- A schedule on a page is shown as it is shown alone. -/
theorem Sound.mem_page (sound : inv.Sound) {key : PageKey} {page : Page Schedule}
    (done : inv.page tenant key = .ok page) : ∀ s ∈ page.items, inv.schedule tenant s.id = .ok s := by
  obtain ⟨listed, found, expected⟩ := Answer.bind_ok.1 done
  intro s member
  obtain ⟨r, there, isSchedule⟩ := Page.mem_mapM expected s member
  obtain ⟨kept, stored, -, rfl⟩ := mem_list found r there
  obtain ⟨k, foundAt⟩ := (sound tenant).ordered.mem_values.1 stored
  cases kept with
  | schedule kept =>
      cases isSchedule
      have filed : kept.id = k := (sound tenant).filed k _ foundAt
      subst filed
      exact schedule_found foundAt
  | host h => cases isSchedule
  | site s => cases isSchedule
  | region r => cases isSchedule

/-- A tenant's schedule is shown to callers as `x`. -/
def Displays (inv : Inventory) (tenant : String) (x : Wire.Schedule) : Prop :=
  ∃ s, inv.schedule tenant x.id = .ok s ∧ Wire.Schedule.ofStored s = .ok x

theorem displays_stored {s : Schedule} {x : Wire.Schedule}
    (found : (inv.partition tenant).find? s.id = some (.schedule s))
    (seenAs : Wire.Schedule.ofStored ((inv.partition tenant).hydrate s) = .ok x) :
    inv.Displays tenant x := by
  have same : x.id = ((inv.partition tenant).hydrate s).id := Wire.Schedule.ofStored_id seenAs
  refine ⟨_, ?_, seenAs⟩
  rw [same]
  exact schedule_found found

variable {x : Wire.Schedule} {old new : Option Resource}

theorem Displays.found (displays : inv.Displays tenant x) :
    ∃ kept, (inv.partition tenant).find? x.id = some (.schedule kept) := by
  obtain ⟨s, shown, -⟩ := displays
  exact schedule_ok shown

theorem Displays.named (sound : inv.Sound) (displays : inv.Displays tenant x) :
    Kind.schedule.isId x.id = true := by
  obtain ⟨kept, found⟩ := displays.found
  exact (sound tenant).named x.id (.schedule kept) found

/-- Under one ID one schedule is shown. -/
theorem Displays.same {w : Wire.Schedule} (first : inv.Displays tenant x) (second : inv.Displays tenant w)
    (id : w.id = x.id) : w = x := by
  obtain ⟨s, shown, seenAs⟩ := first
  obtain ⟨t, again, seenAgain⟩ := second
  rw [id] at again
  cases shown.symm.trans again
  exact Except.ok.inj (seenAgain.symm.trans seenAs)

theorem Rewrites.displays (h : inv.Rewrites next other id old new) (displays : inv.Displays tenant x)
    (apart : tenant = other → x.id ≠ id) : next.Displays tenant x := by
  obtain ⟨s, shown, seenAs⟩ := displays
  exact ⟨s, (h.schedule apart).trans shown, seenAs⟩

/-- Where there was no schedule, none was shown. -/
theorem Rewrites.displays_beside (h : inv.Rewrites next other id old new)
    (displays : inv.Displays tenant x) (none : ∀ s, old ≠ some (.schedule s)) :
    next.Displays tenant x := by
  apply h.displays displays
  rintro rfl rfl
  obtain ⟨kept, found⟩ := displays.found
  exact none kept (h.old.symm.trans found)

end Inventory

namespace Deployment
open Service (carryOut shownPage Planned)
variable {d : Deployment} {ctx : Context} {tenant id : String} {x : Wire.Schedule} {set : ServiceSettings}

/-- A request of the tenant's to change or delete the schedule. -/
def Event.Aims (tenant id : String) : Event → Prop
  | .serve _ ctx _ request =>
    ctx.tenant = some tenant ∧ (request.changed? = some id ∨ request = .delete id)
  | _ => False

theorem serve_reads {P : Deployment → Prop} (others : ∀ d cache, P d → P { d with cache })
    {request : Service.Request} (reads : request.writes = false) :
    Action.Keeps P (Service.serve backend set ctx request) := by
  have checked : Action.Keeps P (check ctx) := fun _ before => before
  rw [Service.serve_eq]
  apply Action.Keeps.answer_bind
  intro p found
  cases Service.plan_ok.1 found with
  | get caller named =>
      exact ((checked.bind fun _ => seek_keeps others (.one _)).during _).bind fun _ => .answer
  | list caller read limited =>
      exact ((checked.bind fun _ => seek_keeps others (.page ⟨_, _, _⟩)).during _).bind fun _ => .answer
  | create => cases reads
  | update => cases reads
  | patch => cases reads
  | delete => cases reads

theorem step_reads {event : Event} (reads : event.writes = false) :
    (step backend d event).2.inventory = d.inventory := by
  cases event with
  | serve set ctx cancelled request =>
      exact serve_reads (P := fun e => e.inventory = d.inventory) (fun _ _ before => before) reads
        { d with cancelled } rfl
  | plant => cases reads
  | uproot => cases reads
  | wait ms => rfl

theorem step_displays (sound : d.inventory.Sound) (narrow : d.inventory.Narrow)
    (displays : d.inventory.Displays tenant x) (event : Event)
    (quiet : event.Aims tenant x.id → (step backend d event).1.failed = true) :
    (step backend d event).2.inventory.Displays tenant x := by
  cases writes : event.writes with
  | false =>
      rw [step_reads writes]
      exact displays
  | true =>
      rcases step_whole sound narrow writes with ⟨-, unmoved⟩ | wrote
      · rw [unmoved.inventory]
        exact displays
      · have done := wrote.done
        generalize step backend d event = ran at *
        obtain ⟨outcome, after⟩ := ran
        dsimp only at *
        cases wrote with
        | added caller converted asSent rewrites => exact rewrites.displays_beside displays fun s none => by cases none
        | replaced caller changes sent converted asSent rewrites =>
            apply rewrites.displays displays
            rintro rfl rfl
            exact absurd (quiet ⟨caller, .inl changes⟩) Bool.false_ne_true
        | removed caller rewrites =>
            apply rewrites.displays displays
            rintro rfl rfl
            exact absurd (quiet ⟨caller, .inr rfl⟩) Bool.false_ne_true
        | planted caller asSent rewrites => exact rewrites.displays_beside displays fun s none => by cases none
        | uprooted caller rewrites kind =>
            exact rewrites.displays_beside displays fun s same => by
              cases same
              exact kind rfl

theorem get_displayed (set : ServiceSettings) (live : ctx.check d.cancelled d.now = .ok ())
    (caller : ctx.tenant = some tenant) (named : Kind.schedule.isId x.id = true)
    (displays : d.inventory.Displays tenant x) :
    (Service.serve uncached set ctx (.get x.id)).result d = (.ok (.schedule x), d) := by
  obtain ⟨s, shown, seenAs⟩ := displays
  have loaded : (uncached.schedule ctx tenant x.id).result d = (.ok s, d) := by
    refine (load_result (.one x.id)).trans ?_
    rw [caller_live live caller]
    exact congrArg (·, d) shown
  rw [Service.serve_planned (.get caller named), carryOut, Action.result_bind, Action.result_during,
    await_result rfl, live, loaded]
  exact congrArg (·, d) (Service.shown_ok seenAs)

/-- All that stands on a page that was served is shown so alone. -/
theorem list_displayed (sound : d.inventory.Sound) (caller : ctx.tenant = some tenant) {r : ListRequest}
    {page : Page Wire.Schedule}
    (served : ((Service.serve uncached set ctx (.list r)).result d).1 = .ok (.page page)) :
    ∀ w ∈ page.items, d.inventory.Displays tenant w := by
  cases fit : Service.plan set ctx (.list r) with
  | error e =>
      rw [Service.serve_unplanned fit] at served
      cases served
  | ok p =>
      have planned := Service.plan_ok.1 fit
      rw [Service.serve_planned planned] at served
      cases planned with
      | @list owner _ criteria limit caller' read limited =>
          cases caller.symm.trans caller'
          have loads := @load_result d ctx (.page ⟨r.offset, limit, criteria⟩)
          rw [carryOut, Action.result_bind, Action.result_during, await_result rfl] at served
          cases live : ctx.check d.cancelled d.now with
          | error e =>
              rw [live] at served
              cases served
          | ok u =>
              rw [caller_live live caller] at loads
              rw [live, show (uncached.page ctx tenant r.offset limit criteria).result d = _ from loads] at served
              cases found : d.inventory.answer tenant (.page ⟨r.offset, limit, criteria⟩) with
              | error e =>
                  simp only [bind, Except.bind, found, Answer.during] at served
                  cases served
              | ok stored =>
                  simp only [bind, Except.bind, found, Answer.during] at served
                  obtain ⟨seen, each, counted⟩ := Answer.bind_ok.1 served
                  obtain ⟨total, -, same⟩ := Answer.bind_ok.1 counted
                  cases same
                  intro w member
                  obtain ⟨s, there, seenAs⟩ := Page.mem_mapM (Answer.during_eq_ok.1 each) w member
                  refine ⟨s, ?_, seenAs⟩
                  rw [Wire.Schedule.ofStored_id seenAs]
                  exact sound.mem_page found s there

theorem run_displays (events : List Event) : ∀ {d : Deployment}, d.Reached →
    d.inventory.Displays tenant x →
    (∀ p ∈ events.zip (run backend events d).1, p.1.Aims tenant x.id → p.2.failed = true) →
    (run backend events d).2.inventory.Displays tenant x := by
  induction events with
  | nil => exact fun _ displays _ => displays
  | cons event rest ih =>
      intro d reached displays quiet
      have first := quiet ⟨event, (step backend d event).1⟩ List.mem_cons_self
      exact ih (reached.step event)
        (step_displays reached.mirrors.sound reached.narrow displays event first)
        fun p member => quiet p (List.mem_cons_of_mem _ member)

/-- What a write answers with is what is shown after it. -/
theorem Wrote.displays {inv next : Inventory} {now : String} (sound : inv.Sound) {cancelled : Bool}
    {request : Service.Request} (caller : ctx.tenant = some tenant)
    (wrote : Wrote inv next now (.serve set ctx cancelled request) (.served (.ok (.schedule x)))) :
    next.Displays tenant x := by
  cases wrote with
  | added owner converted asSent rewrites seenAs =>
      cases caller.symm.trans owner
      cases asSent
      exact Inventory.displays_stored rewrites.new seenAs
  | @replaced _ _ _ _ _ id _ _ old made _ owner changes sent converted asSent rewrites sameId _ _ seenAs =>
      cases caller.symm.trans owner
      have filed : made.id = id := sameId.trans ((sound tenant).filed id _ rewrites.old)
      subst filed
      exact Inventory.displays_stored rewrites.new seenAs

/-- The schedule that a write has answered with is what every get of it answers with from then on,
and what stands for it on every page, as long as no other write to it succeeds. -/
theorem written_stays (reached : d.Reached) {cancelled : Bool} {request : Service.Request} {after : Deployment}
    (caller : ctx.tenant = some tenant) (writes : request.writes = true)
    (wrote : step backend d (.serve set ctx cancelled request) = (.served (.ok (.schedule x)), after))
    (events : List Event)
    (quiet : ∀ p ∈ events.zip (run backend events after).1, p.1.Aims tenant x.id → p.2.failed = true) :
    let later := (run backend events after).2
    (∀ set ctx, ctx.tenant = some tenant → ctx.check false later.now = .ok () →
      (step backend later (.serve set ctx false (.get x.id))).1 = .served (.ok (.schedule x))) ∧
    ∀ set ctx cancelled r page, ctx.tenant = some tenant →
      (step backend later (.serve set ctx cancelled (.list r))).1 = .served (.ok (.page page)) →
      ∀ w ∈ page.items, w.id = x.id → w = x := by
  intro later
  have reachedAfter : after.Reached := by
    have next := reached.step (.serve set ctx cancelled request)
    rwa [wrote] at next
  have first : after.inventory.Displays tenant x := by
    have whole := @step_whole _ reached.mirrors.sound reached.narrow (.serve set ctx cancelled request) writes
    rcases whole with ⟨failed, -⟩ | whole
    · rw [wrote] at failed
      cases failed
    · rw [wrote] at whole
      exact whole.displays reached.mirrors.sound caller
  have reachedLater : later.Reached := reachedAfter.run events
  have displays : later.inventory.Displays tenant x := run_displays events reachedAfter first quiet
  have mirrors := reachedLater.mirrors
  constructor
  · intro set ctx caller live
    rw [(step_alike mirrors _).1]
    exact congrArg (fun ran => Outcome.served ran.1)
      (get_displayed (d := { later with cancelled := false }) set live caller
        (displays.named mirrors.sound) displays)
  · intro set ctx cancelled r page caller served w member same
    rw [(step_alike mirrors _).1] at served
    have page := list_displayed (d := { later with cancelled }) mirrors.sound caller
      (Outcome.served.inj served) w member
    exact displays.same page same

def weekly : Wire.Schedule :=
  let start : Wire.Times := { createdAt := some {}, updatedAt := some {} }
  { id := "singlesche-f0000001", scheduleId := "singlesche-f0000001", name := "weekly", times := start,
    hostId := "host-00000001",
    host := some { id := "host-00000001", hostId := "host-00000001", name := "h", times := start } }

/-- The host cannot go and a bad change is refused, and the schedule is shown as it was booked. -/
theorem written_stays_weekly :
    let ctx : Context := { tenant := some "a" }
    let booked := step backend housed (.serve {} ctx false
      (.create { name := "weekly", hostId := "host-00000001" }))
    let between : List Event :=
      [.wait 1000, .uproot ctx false "host-00000001" rfl,
        .serve {} ctx false (.patch weekly.id { start := 3, finish := 2 } none)]
    booked.1 = .served (.ok (.schedule weekly)) ∧
      (step backend (run backend between booked.2).2 (.serve {} ctx false (.get weekly.id))).1 =
        .served (.ok (.schedule weekly)) := by
  intro ctx booked between
  have wrote : booked.1 = .served (.ok (.schedule weekly)) := rfl
  refine ⟨wrote, ?_⟩
  refine (written_stays housed_reached rfl rfl (Prod.ext wrote rfl) between ?_).1 {} ctx rfl rfl
  intro p member aims
  rcases List.mem_cons.1 member with rfl | member
  · exact aims.elim
  rcases List.mem_cons.1 member with rfl | member
  · exact aims.elim
  rcases List.mem_cons.1 member with rfl | member
  · rfl
  · cases member

end Deployment
end Upkeep
