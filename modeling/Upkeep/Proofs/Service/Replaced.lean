import Upkeep.Proofs.Service.Accepted

/-! Patches of everything. A patch without a mask, or with one that names all there is to name, comes to what
a replacement comes to, but for the name of the operation in a failure. What a patch comes to is up to the
fields that its mask names; and one that names none, or what it must not, is refused before anything is called. -/
namespace Upkeep
open Upkeep.Action (Alike answer during)

/-- The failure without the name of the operation in which it was seen. -/
def Failure.unnamed : Failure → Failure
  | .during _ cause => .during "" cause
  | e => e

theorem Context.requireTenant_unnamed (ctx : Context) :
    ctx.requireTenant.mapError Failure.unnamed = ctx.requireTenant := by
  unfold requireTenant
  split <;> rfl

namespace Action
variable {σ α β : Type}

/-- The action without the names of the operations in which it fails. -/
def unnamed (a : Action σ α) : Action σ α := fun s => ((a.result s).1.mapError Failure.unnamed, (a.result s).2)

theorem unnamed_bind (a : Action σ α) (f : α → Action σ β) :
    unnamed (a >>= f) = unnamed a >>= fun x => unnamed (f x) := by
  funext s
  change (((a >>= f).result s).1.mapError Failure.unnamed, ((a >>= f).result s).2) =
    (unnamed a >>= fun x => unnamed (f x)).result s
  rw [result_bind, result_bind, show (unnamed a).result s =
    ((a.result s).1.mapError Failure.unnamed, (a.result s).2) from rfl]
  rcases a.result s with ⟨e | x, t⟩
  · rfl
  · rfl

theorem unnamed_during (operation : String) (a : Action σ α) : unnamed (during operation a) = during "" a := by
  funext s
  change (((during operation a).result s).1.mapError Failure.unnamed, ((during operation a).result s).2) =
    (during "" a).result s
  rw [result_during, result_during]
  rcases a.result s with ⟨e | x, t⟩
  · rfl
  · rfl

theorem unnamed_answer (x : Answer α) : unnamed (answer x : Action σ α) = answer (x.mapError Failure.unnamed) := rfl

theorem unnamed_change (f : σ → σ) : unnamed (change f) = change f := rfl

theorem unnamed_pure (x : α) : unnamed (pure x : Action σ α) = pure x := rfl

end Action

namespace Service
variable {σ : Type} {b : Backend σ} {set : ServiceSettings} {ctx : Context} {id : String} {x : Wire.Schedule}

/-- Rewrites what a mask names of a schedule, in an operation of any name. -/
def rewrite (b : Backend σ) (operation : String) (ctx : Context) (id : String) (x : Wire.Schedule)
    (mask : Answer (List String)) : Action σ Reply := do
  let tenant ← answer ctx.requireTenant
  during operation (answer (Kind.schedule.checkId id))
  let stored ← during operation (answer x.toStored)
  let mask ← during operation (answer mask)
  return .schedule (← change b operation ctx tenant id mask stored)

theorem serve_update : serve b set ctx (.update id x) =
    rewrite b "UpdateSingleSchedule" ctx id x (.ok Mask.full) := by
  simp only [serve, update, rewrite, bind_assoc]
  rfl

theorem serve_patch (mask : Option (List String)) : serve b set ctx (.patch id x mask) =
    rewrite b "PatchSingleSchedule" ctx id x (Mask.translate mask set.strictMask) := by
  simp only [serve, patch, rewrite, bind_assoc]

theorem unnamed_rewrite (operation : String) (mask : Answer (List String)) :
    (rewrite b operation ctx id x mask).unnamed = rewrite b "" ctx id x mask := by
  simp only [rewrite, change, Action.unnamed_bind, Action.unnamed_during, Action.unnamed_answer,
    Action.unnamed_change, Action.unnamed_pure, Context.requireTenant_unnamed]

end Service

namespace Mask
variable {fields other : List String} {strict : Bool}

/-- Masks that come to the same, whatever they are applied to. -/
def Same (m n : List String) : Prop :=
  ∀ current incoming : Schedule, current.applyMask incoming m = current.applyMask incoming n

/-- What names all there is to name: no mask, the empty one, or one that lists every field. -/
inductive Whole (strict : Bool) : Option (List String) → Prop
  | none : Whole strict none
  | empty : Whole strict (some [])
  | listed {fields : List String} : (∀ p : Patchable, p.field ∈ fields) →
      (strict = true → ∀ field ∈ fields, ∃ p : Patchable, p.field = field) → Whole strict (some fields)

theorem translate_whole {mask : Option (List String)} (whole : Whole strict mask) :
    ∃ paths, translate mask strict = .ok paths ∧ Same paths full := by
  have empty : Same [] full := fun current incoming =>
    (Schedule.applyMask_all (.inl rfl) ..).trans (Schedule.applyMask_all (.inr rfl) ..).symm
  cases whole with
  | none => exact ⟨[], rfl, empty⟩
  | empty => exact ⟨[], rfl, empty⟩
  | @listed fields all known =>
      obtain ⟨paths, done, given, each⟩ := translate_allowed ⟨⟨.name, all .name⟩, known⟩
      have covered : ∀ q ∈ mutableFields, q ∈ named fields := by
        intro q mutable
        obtain ⟨p, rfl⟩ := exists_path mutable
        exact path_mem_named.2 (all p)
      refine ⟨paths, done, fun current incoming => ?_⟩
      rw [Schedule.applyMask_translated given each, Schedule.taken_all covered, Schedule.applyMask_all (.inr rfl)]

/-- Masks that name the same fields, and at least one, come to the same. -/
theorem translate_same (names : ∃ p : Patchable, p.field ∈ fields)
    (same : ∀ p : Patchable, p.field ∈ fields ↔ p.field ∈ other) :
    ∃ m n, translate (some fields) false = .ok m ∧ translate (some other) false = .ok n ∧ Same m n := by
  obtain ⟨p, listed⟩ := names
  have allowed : Allowed false fields := ⟨⟨p, listed⟩, nofun⟩
  have alsoAllowed : Allowed false other := ⟨⟨p, (same p).1 listed⟩, nofun⟩
  obtain ⟨m, first, given, each⟩ := translate_allowed allowed
  obtain ⟨n, second, alsoGiven, alsoEach⟩ := translate_allowed alsoAllowed
  refine ⟨m, n, first, second, fun current incoming => ?_⟩
  rw [Schedule.applyMask_translated given each, Schedule.applyMask_translated alsoGiven alsoEach, named_congr same]

end Mask

section Same
variable {m n : List String}

theorem Partition.revise_of_same (same : Mask.Same m n) (p : Partition) (now : String) (current incoming : Schedule) :
    p.revise now m current incoming = p.revise now n current incoming := by
  unfold revise
  rw [same]

theorem Inventory.update_of_same (same : Mask.Same m n) (inv : Inventory) (now tenant id : String) (r : Resource) :
    inv.update now tenant id m r = inv.update now tenant id n r := by
  unfold update
  simp only [Partition.revise_of_same same]

theorem Deployment.update_of_same (same : Mask.Same m n) (ctx : Context) (id : String) (r : Resource) :
    update ctx id m r = update ctx id n r := by
  unfold update
  simp only [Inventory.update_of_same same]

end Same

/-- Word to the cache. -/
def Service.Contact.tells : Service.Contact → Bool
  | .invalidate _ _ _ => true
  | _ => false

namespace Deployment
open Service (Contact Watched)
variable {α : Type} {d : Deployment} {set : ServiceSettings} {ctx : Context} {tenant id : String} {x : Wire.Schedule}

/-- Two deployments that are the same, and were watched to tell their caches the same. -/
structure Told (w v : Watched Deployment) : Prop where
  state : w.state = v.state
  told : w.contacts.filter (·.tells) = v.contacts.filter (·.tells)

theorem noting_told {first second : Contact} (quiet : first.tells = false) (alsoQuiet : second.tells = false)
    (call : Action Deployment α) : Alike Told Told (noting first call) (noting second call) fun _ => Told := by
  intro w v before
  have ran : call.result w.state = call.result v.state := congrArg call.result before.state
  have contacts : (w.contacts ++ [first]).filter (·.tells) = (v.contacts ++ [second]).filter (·.tells) := by
    simp [before.told, quiet, alsoQuiet]
  exact .of_same (congrArg Prod.fst ran :) ⟨(congrArg Prod.snd ran :), contacts⟩

theorem check_told (ctx : Context) : Alike Told Told (watched.check ctx) (watched.check ctx) fun _ => Told := by
  intro w v before
  exact .of_same (congrArg (fun d => ((check ctx).result d).1) before.state) before

theorem invalidate_told (id : String) (c : Change) :
    Alike Told Told (Action.change (watched.invalidate tenant id c)) (Action.change (watched.invalidate tenant id c))
      fun _ => Told := by
  intro w v before
  refine .ok ⟨congrArg (invalidate tenant id c) before.state, ?_⟩
  change (w.contacts ++ [_]).filter _ = (v.contacts ++ [_]).filter _
  rw [List.filter_append, List.filter_append, before.told]

/-- To rewrite by masks that come to the same comes to the same. -/
theorem rewrite_told (ctx : Context) (id : String) (x : Wire.Schedule) {m n : List String}
    (same : Mask.Same m n) (operation : String) :
    Alike Told Told (Service.rewrite watched operation ctx id x (.ok m))
      (Service.rewrite watched operation ctx id x (.ok n)) fun _ => Told := by
  apply Alike.answer.bind
  intro tenant
  apply (Alike.answer.during _).bind
  intro _
  apply (Alike.answer.during _).bind
  intro stored
  have call : Alike Told Told (watched.store.update ctx id m (.schedule stored))
      (watched.store.update ctx id n (.schedule stored)) fun _ => Told := by
    have calls : store.update ctx id m (.schedule stored) = store.update ctx id n (.schedule stored) :=
      update_of_same same ctx id _
    change Alike Told Told (noting _ (store.update ctx id m _)) (noting _ (store.update ctx id n _)) _
    rw [calls]
    exact noting_told rfl rfl _
  have made := (((check_told ctx).bind fun _ => call).bind fun r =>
    Alike.answer (x := r.expectSchedule)).during operation
  change Alike Told Told (Service.change watched operation ctx tenant id m stored >>= _)
    (Service.change watched operation ctx tenant id n stored >>= _) _
  refine Alike.bind ?_ fun _ => Alike.answer
  apply made.bind
  intro made
  exact (invalidate_told id .updated).bind fun _ => Alike.answer.during _

/-- What becomes of a request: the answer, the deployment after it, and word to the cache. -/
def upshot (d : Deployment) (set : ServiceSettings) (ctx : Context) (request : Service.Request) :
    Answer Service.Reply × Deployment × List Contact :=
  let ran := (Service.serve watched set ctx request).result ⟨d, []⟩
  (ran.1, ran.2.state, ran.2.contacts.filter (·.tells))

/-- A mask of everything is as good as none, and a patch by it as good as a replacement, whether it succeeds or
fails, and whatever is sent. By which fields a mask names a patch is decided; order, repetition and unknown names
are nothing to it. But where it names no field at all, or an unknown one that must not be named, it is refused as
an argument and nothing is called. -/
theorem patch_replaces (d : Deployment) (set : ServiceSettings) (ctx : Context) (id : String) (x : Wire.Schedule) :
    (∀ mask, Mask.Whole set.strictMask mask →
      let patched := d.upshot set ctx (.patch id x mask)
      let put := d.upshot set ctx (.update id x)
      patched.1.mapError Failure.unnamed = put.1.mapError Failure.unnamed ∧ patched.2 = put.2) ∧
    (∀ fields other : List String, set.strictMask = false → (∃ p : Patchable, p.field ∈ fields) →
      (∀ p : Patchable, p.field ∈ fields ↔ p.field ∈ other) →
      d.upshot set ctx (.patch id x (some fields)) = d.upshot set ctx (.patch id x (some other))) ∧
    ∀ fields : List String, ctx.tenant ≠ none → fields ≠ [] → Mask.Refused set.strictMask fields →
      ∃ e, (Service.serve watched set ctx (.patch id x (some fields))).result ⟨d, []⟩ = (.error e, ⟨d, []⟩) ∧
        e.code = .invalidArgument := by
  have start : Told ⟨d, []⟩ ⟨d, []⟩ := ⟨rfl, rfl⟩
  refine ⟨?_, ?_, ?_⟩
  · intro mask whole patched put
    obtain ⟨paths, translated, same⟩ := Mask.translate_whole whole
    have ends := rewrite_told ctx id x same "" _ _ start
    rw [← Service.unnamed_rewrite "PatchSingleSchedule", ← Service.unnamed_rewrite "UpdateSingleSchedule",
      ← translated, ← Service.serve_patch, ← Service.serve_update] at ends
    exact ⟨ends.same, Prod.ext ends.related.state ends.related.told⟩
  · intro fields other lenient names same
    obtain ⟨m, n, first, second, agree⟩ := Mask.translate_same names same
    have ends := rewrite_told ctx id x agree "PatchSingleSchedule" _ _ start
    rw [← first, ← second, ← lenient, ← Service.serve_patch, ← Service.serve_patch] at ends
    exact Prod.ext ends.same (Prod.ext ends.related.state ends.related.told)
  · intro fields caller given refused
    obtain ⟨tenant, caller⟩ := Option.ne_none_iff_exists'.1 caller
    obtain ⟨e, failed, -⟩ := Mask.translate_refused given refused
    cases fit : Service.plan set ctx (.patch id x (some fields)) with
    | error e => exact ⟨e, Service.serve_unplanned fit, Service.plan_fails set caller _ e fit⟩
    | ok p =>
        cases Service.plan_ok.1 fit with
        | patch _ _ _ translated => cases failed.symm.trans translated

/-- A mask of everything, in a caller's own order. -/
def everything : List String :=
  ["end_seconds", "colour", "name", "target_site_id", "target_host_id", "start_seconds", "name", "target_region_id",
    "schedule_status"]

/-- The schedule in `housed` is patched from end to end, in part, and not at all. -/
theorem patch_replaces_housed :
    let ctx : Context := { tenant := some "a" }
    let patch (fields : List String) : Service.Request :=
      .patch "singlesche-f0000000" (sentFor "host-00000001") (some fields)
    let put : Service.Request := .update "singlesche-f0000000" (sentFor "host-00000001")
    (housed.upshot {} ctx (patch everything)).2 = (housed.upshot {} ctx put).2 ∧
    housed.upshot {} ctx (patch ["name", "colour"]) = housed.upshot {} ctx (patch ["name"]) ∧
    ∃ e, (Service.serve watched {} ctx (patch ["colour"])).result ⟨housed, []⟩ = (.error e, ⟨housed, []⟩) ∧
      e.code = .invalidArgument := by
  intro ctx patch put
  have whole : Mask.Whole false (some everything) := .listed (fun p => by cases p <;> decide) nofun
  have same (p : Patchable) : p.field ∈ ["name", "colour"] ↔ p.field ∈ ["name"] := by cases p <;> decide
  have refused : Mask.Refused false ["colour"] := .nothing fun p => by cases p <;> decide
  obtain ⟨full, part, none⟩ :=
    patch_replaces housed {} ctx "singlesche-f0000000" (sentFor "host-00000001")
  exact ⟨(full _ whole).2, part _ _ rfl ⟨.name, by decide⟩ same, none _ nofun nofun refused⟩

end Deployment

end Upkeep
