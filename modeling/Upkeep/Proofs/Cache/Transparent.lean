import Upkeep.Proofs.Cache.Mirror

/-! A cache in memory cannot be noticed. A deployment that reads through one, and one that
always loads, serve every run alike, as long as schedules are written through the service. -/
namespace Upkeep.Deployment
variable {d e : Deployment}

/-- What can happen in a run: a request to the service, a host, site or region that comes or
goes past it, and time that goes by. -/
inductive Event where
  | serve (set : ServiceSettings) (ctx : Context) (cancelled : Bool) (request : Service.Request)
  | plant (ctx : Context) (cancelled : Bool) (t : Target)
  | uproot (ctx : Context) (cancelled : Bool) (id : String) (outside : Kind.schedule.isId id = false)
  | wait (ms : Nat)

inductive Outcome where
  | served (a : Answer Service.Reply)
  | planted (a : Answer Resource)
  | uprooted (a : Answer Unit)
  | waited

def step (b : Backend Deployment) (d : Deployment) : Event → Outcome × Deployment
  | .serve set ctx cancelled request =>
    let (a, d) := (Service.serve b set ctx request).result { d with cancelled }
    (.served a, d)
  | .plant ctx cancelled t =>
    let (a, d) := (create ctx t.resource).result { d with cancelled }
    (.planted a, d)
  | .uproot ctx cancelled id _ =>
    let (a, d) := (delete ctx id).result { d with cancelled }
    (.uprooted a, d)
  | .wait ms => (.waited, { d with now := d.now + ms })

def run (b : Backend Deployment) : List Event → Deployment → List Outcome × Deployment
  | [], d => ([], d)
  | event :: rest, d =>
    let (outcome, d) := step b d event
    let (outcomes, d) := run b rest d
    (outcome :: outcomes, d)

theorem Mirrors.cancel (h : Mirrors d e) (cancelled : Bool) :
    Mirrors { d with cancelled } { e with cancelled } :=
  ⟨h.inventory, h.ids, h.now, rfl, h.sound, h.fresh⟩

theorem step_alike (h : Mirrors d e) (event : Event) :
    (step backend d event).1 = (step uncached e event).1 ∧
      Mirrors (step backend d event).2 (step uncached e event).2 := by
  cases event with
  | serve set ctx cancelled request =>
      have ends := Service.serve_alike (backend_alike ctx) set request _ _ (h.cancel cancelled)
      exact ⟨congrArg Outcome.served ends.same, ends.related⟩
  | plant ctx cancelled t =>
      have ends := plant_alike ctx t _ _ (h.cancel cancelled)
      exact ⟨congrArg Outcome.planted ends.same, ends.related⟩
  | uproot ctx cancelled id outside =>
      have ends := uproot_alike ctx id outside _ _ (h.cancel cancelled)
      exact ⟨congrArg Outcome.uprooted ends.same, ends.related⟩
  | wait ms =>
      exact ⟨rfl, h.inventory, h.ids, congrArg (· + ms) h.now, h.cancelled, h.sound, h.fresh⟩

theorem run_alike (events : List Event) : ∀ {d e : Deployment}, Mirrors d e →
    (run backend events d).1 = (run uncached events e).1 ∧
      Mirrors (run backend events d).2 (run uncached events e).2 := by
  induction events with
  | nil =>
      intro d e h
      exact ⟨rfl, h⟩
  | cons event rest ih =>
      intro d e h
      obtain ⟨same, after⟩ := step_alike h event
      obtain ⟨others, final⟩ := ih after
      exact ⟨List.cons_eq_cons.2 ⟨same, others⟩, final⟩

/-- From an empty inventory and an empty cache on, every run has the same outcomes as without
the cache, and leaves the same inventory. -/
theorem cache_unnoticed (events : List Event) (limits : CacheLimits) (ids : Ids) (now : Nat) :
    let start : Deployment := { ids, now, cache := .memory limits {} }
    (run backend events start).1 = (run uncached events start).1 ∧
      (run backend events start).2.inventory = (run uncached events start).2.inventory := by
  intro start
  have mirrors : Mirrors start start :=
    ⟨rfl, rfl, rfl, rfl, Inventory.sound_empty, limits, {}, rfl, Memory.fresh_empty _⟩
  obtain ⟨same, final⟩ := run_alike events mirrors
  exact ⟨same, final.inventory.symm⟩

end Upkeep.Deployment
