import Upkeep.Gateway.Basic
import Upkeep.Proofs.Schedule.Convert
import Upkeep.Proofs.Schedule.Mask
import Upkeep.Proofs.Service.Stable
import Upkeep.Proofs.Wire.Record

/-! What is got can be put back. The text of a schedule that a caller has got is good to replace
the schedule with, for everything in it is understood or passed over, and the schedule then is what it was,
but for the time of the change. -/
namespace Upkeep

namespace Partition
variable {tenant k now : String} {p : Partition} {s incoming : Schedule}

/-- What is kept has passed its checks, and would pass them again. -/
theorem Sound.checked (sound : p.Sound tenant) (found : p.find? k = some (.schedule s)) :
    s.check = .ok () := by
  have fits := sound.fits found
  refine Schedule.check_ok.2 ⟨fun _ => fits.named, fits.titled s rfl, ?_, Window.valid_iff.2 (fits.timed s rfl)⟩
  intro t target
  obtain ⟨r, there, kind⟩ := sound.anchored k s t found target
  exact kind ▸ sound.named t.id r there

/-- What is shown of a schedule passes them too. -/
theorem Sound.checked_hydrate (sound : p.Sound tenant) (found : p.find? k = some (.schedule s)) :
    (p.hydrate s).check = .ok () := by
  have fits := sound.fits found
  refine Schedule.check_ok.2 ⟨fun _ => fits.named, fits.titled s rfl, ?_, Window.valid_iff.2 (fits.timed s rfl)⟩
  intro t target
  have there := (sound.hydrate_shown found).full t target
  exact t.kind_resource ▸ sound.named t.id _ there

/-- The target that is shown is the one that is kept. -/
theorem Sound.stub_hydrate (sound : p.Sound tenant) (found : p.find? k = some (.schedule s)) :
    (p.hydrate s).target.map Target.stub = s.target := by
  have filed : s.id = k := sound.filed k _ found
  subst filed
  have same := found.symm.trans (sound.hydrate_shown found).kept
  exact (congrArg Schedule.target (Resource.schedule.inj (Option.some.inj same))).symm

theorem Sound.own_hydrate (sound : p.Sound tenant) (found : p.find? k = some (.schedule s)) :
    (p.hydrate s).own = { s.own with target := s.target } := by
  unfold Schedule.own
  rw [sound.stub_hydrate found]
  rfl

/-- An update that has the same to say of a schedule changes nothing but the time of the update. -/
theorem Sound.revise_same (sound : p.Sound tenant) (found : p.find? k = some (.schedule s)) :
    p.revise now Mask.full s (p.hydrate s).own = .ok { s with updatedAt := now } := by
  have stub : s.target.map Target.stub = s.target := by
    rw [← sound.stub_hydrate found, Option.map_map]
    exact congrArg (fun f => (p.hydrate s).target.map f) (funext Target.stub_stub)
  have same : s.applyMask (p.hydrate s).own Mask.full = .ok s := by
    rw [Schedule.applyMask_all (.inr rfl), sound.own_hydrate found]
    dsimp only
    rw [stub]
    rfl
  refine Answer.bind_ok.2 ⟨s, same, ?_⟩
  simp only [ne_eq, not_true_eq_false, if_false]
  exact Answer.after_ok.2 ⟨sound.checked found, rfl⟩

end Partition

/-- Times are not taken from callers. -/
theorem Wire.Schedule.toStored_normal (w : Wire.Schedule) : w.normal.toStored = w.toStored := rfl

/-- Whoever is answered with a schedule has been served one. -/
theorem Service.schedule_done {σ : Type} {a : Action σ Wire.Schedule} {s t : σ} {w : Wire.Schedule}
    (done : (do return Reply.schedule (← a) : Action σ Reply).result s = (.ok (.schedule w), t)) :
    a.result s = (.ok w, t) := by
  rw [Action.result_bind] at done
  rcases ran : a.result s with ⟨e | x, after⟩
  · rw [ran] at done
    cases done
  · rw [ran] at done
    cases done
    rfl

namespace Gateway
open Deployment (Reached)
variable {d later : Deployment} {reader writer : Context} {tenant id : String} {s : Schedule}
  {x : Wire.Schedule} {r : HttpRequest}

theorem bodySchedule_text (json : (r.header? "content-type").any isJsonType = true)
    (body : r.body = some x.json.write) : bodySchedule r = .ok x.normal := by
  unfold bodySchedule bodyText
  rw [if_pos json, body]
  refine Answer.bind_ok.2 ⟨_, rfl, ?_⟩
  rw [Option.getD_some, x.read_write]

theorem update_done {seen : Wire.Schedule} {after : Deployment}
    (json : (r.header? "content-type").any isJsonType = true) (body : r.body = some x.json.write)
    (done : (Service.update Deployment.backend writer id x.normal).result d = (.ok seen, after)) :
    (update writer r id).result d = (.ok seen.json, after) := by
  unfold update
  rw [bodySchedule_text json body]
  exact Action.result_map_ok done

/-- What is stored can be got, and to get it changes nothing that is stored. -/
theorem get_stored (reached : d.Reached) (owner : reader.tenant = some tenant)
    (live : reader.check d.cancelled d.now = .ok ())
    (found : (d.inventory.partition tenant).find? id = some (.schedule s)) :
    ∃ x, ((get reader id).result d).1 = .ok x.json ∧ ((get reader id).result d).2.inventory = d.inventory ∧
      Wire.Schedule.ofStored ((d.inventory.partition tenant).hydrate s) = .ok x := by
  have sound := reached.mirrors.sound
  obtain ⟨x, seenAs⟩ := reached.narrow.shown found
  have filed : s.id = id := (sound tenant).filed id _ found
  have displays : d.inventory.Displays tenant x :=
    Inventory.displays_stored (filed.symm ▸ found) seenAs
  have same : x.id = id := (Wire.Schedule.ofStored_id seenAs).trans filed
  have answered : ((Service.serve Deployment.backend {} reader (.get x.id)).result d).1 = .ok (.schedule x) := by
    rw [(Service.serve_alike (Deployment.backend_alike reader) {} (.get x.id) d d reached.mirrors).same,
      Deployment.get_displayed {} live owner (displays.named sound) displays]
  have kept : ((Service.serve Deployment.backend {} reader (.get x.id)).result d).2.inventory = d.inventory :=
    Deployment.serve_reads (P := fun e => e.inventory = d.inventory) (fun _ _ before => before) rfl d rfl
  have got : (Service.get Deployment.backend reader id).result d =
      (.ok x, ((Service.serve Deployment.backend {} reader (.get x.id)).result d).2) :=
    same ▸ Service.schedule_done (Prod.ext answered rfl)
  have shown : (get reader id).result d = _ := Action.result_map_ok got
  rw [shown]
  exact ⟨x, rfl, kept, seenAs⟩

/-- To put back what is shown of a schedule leaves the schedule as it is, but for the time. -/
theorem update_shown (sound : later.inventory.Sound) (narrow : later.inventory.Narrow)
    (owner : writer.tenant = some tenant) (live : writer.check later.cancelled later.now = .ok ())
    (found : (later.inventory.partition tenant).find? id = some (.schedule s))
    (seenAs : Wire.Schedule.ofStored ((later.inventory.partition tenant).hydrate s) = .ok x)
    (json : (r.header? "content-type").any isJsonType = true) (body : r.body = some x.json.write) :
    ∃ answer, ((update writer r id).result later).1 = .ok answer ∧
      ((update writer r id).result later).2.inventory =
        later.inventory.put tenant id (.schedule { s with updatedAt := later.time }) := by
  have good := sound tenant
  have converted : x.normal.toStored = .ok ((later.inventory.partition tenant).hydrate s).own := by
    rw [Wire.Schedule.toStored_normal]
    exact Wire.Schedule.toStored_ofStored (good.checked_hydrate found) seenAs
  have named : Kind.schedule.isId id = true := good.named id (.schedule s) found
  have planned := @Service.Planned.update {} writer tenant id _ _ owner named converted
  have bounds := narrow tenant id s found
  have fits : Schedule.Narrow { s with updatedAt := later.time } := ⟨bounds.start, bounds.finish⟩
  obtain ⟨seen, answered, next⟩ :=
    Deployment.carryOut_revised "UpdateSingleSchedule" live owner fits found (good.revise_same found)
  rw [← Service.serve_planned planned] at answered next
  have done := Service.schedule_done (a := Service.update Deployment.backend writer id x.normal)
    (Prod.ext answered rfl)
  rw [update_done json body done]
  exact ⟨_, rfl, next⟩

/-- The text of a schedule that was got can be put back, at whatever time, as long as nothing else has been
stored. The schedule has then been rewritten as it was before, but for the time of its last change. -/
theorem get_then_put (reader writer : Context) (tenant id : String) (reached : d.Reached)
    (reading : reader.tenant = some tenant) (readable : reader.check d.cancelled d.now = .ok ())
    (writing : writer.tenant = some tenant)
    (found : (d.inventory.partition tenant).find? id = some (.schedule s)) :
    ∃ j, ((get reader id).result d).1 = .ok j ∧ ((get reader id).result d).2.inventory = d.inventory ∧
      ∀ (later : Deployment) (r : HttpRequest), later.inventory = d.inventory →
        writer.check later.cancelled later.now = .ok () →
        (r.header? "content-type").any isJsonType = true → r.body = some j.write →
        ∃ answer, ((update writer r id).result later).1 = .ok answer ∧
          d.inventory.Rewrites ((update writer r id).result later).2.inventory tenant id
            (some (.schedule s)) (some (.schedule { s with updatedAt := later.time })) := by
  have sound := reached.mirrors.sound
  obtain ⟨x, got, kept, seenAs⟩ := get_stored reached reading readable found
  refine ⟨x.json, got, kept, ?_⟩
  intro later r same writable json body
  rw [← same] at sound found seenAs
  obtain ⟨answer, answered, next⟩ :=
    update_shown sound (same ▸ reached.narrow) writing writable found seenAs json body
  refine ⟨answer, answered, ?_⟩
  rw [next, ← same]
  exact sound.rewrites_revised _ found

/-- The schedule in `housed`, with its host, is put back from what its tenant gets. -/
theorem get_then_put_housed :
    let ctx : Context := { tenant := some "a" }
    ∃ s j, (Deployment.housed.inventory.partition "a").find? "singlesche-f0000000" = some (.schedule s) ∧
      ((get ctx "singlesche-f0000000").result .housed).1 = .ok j ∧
      let r : HttpRequest := { method := "PUT", headers := [("content-type", "application/json")], body := some j.write }
      ∃ answer, ((update ctx r "singlesche-f0000000").result .housed).1 = .ok answer ∧
        Deployment.housed.inventory.Rewrites ((update ctx r "singlesche-f0000000").result .housed).2.inventory "a"
          "singlesche-f0000000" (some (.schedule s))
          (some (.schedule { s with updatedAt := Deployment.housed.time })) := by
  intro ctx
  obtain ⟨j, got, -, put⟩ :=
    get_then_put ctx ctx "a" "singlesche-f0000000" Deployment.housed_reached rfl rfl rfl rfl
  exact ⟨_, j, rfl, got, put .housed _ rfl rfl rfl rfl⟩

end Gateway
end Upkeep
