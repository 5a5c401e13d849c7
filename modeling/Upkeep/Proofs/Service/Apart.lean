import Mathlib.Data.List.Pairwise
import Upkeep.Proofs.Schedule.Convert
import Upkeep.Proofs.Schedule.Mask
import Upkeep.Proofs.Service.Write

/-! Patches that do not meet. Patches of a schedule that name different fields, and of which one at most names
a target, leave it the same in whatever order they come, but for the time of the last change. None of them is
lost, for the schedule then has from each what it named. -/
namespace Upkeep

/-- The part of a schedule that a field is in. The three fields for targets are one part. -/
def Patchable.part : Patchable → Patchable
  | .host | .site | .region => .host
  | f => f

/-- Masks of which nothing that one takes over is taken over by the other. -/
structure Mask.Apart (first second : List String) : Prop where
  fields : ∀ q ∈ first, q ∉ second
  targets : (∀ t : Target, t.edge ∉ first) ∨ ∀ t : Target, t.edge ∉ second

theorem Patchable.part_of_edge {f : Patchable} {t : Target} (edge : f.path = t.edge) : f.part = .host := by
  cases f <;> cases t <;> first | rfl | exact absurd edge (by simp [path, Target.edge])

theorem Mask.apart_named {fields other : List String}
    (apart : ∀ f g : Patchable, f.field ∈ fields → g.field ∈ other → f.part ≠ g.part) :
    Apart (named fields) (named other) where
  fields := by
    intro q first second
    obtain ⟨f, path, listed⟩ := mem_named.1 first
    obtain ⟨g, again, alsoListed⟩ := mem_named.1 second
    exact apart f g listed alsoListed (congrArg Patchable.part (path_inj (path.trans again.symm)))
  targets := by
    by_cases edges : ∃ t : Target, t.edge ∈ named fields
    · obtain ⟨t, first⟩ := edges
      obtain ⟨f, path, listed⟩ := mem_named.1 first
      refine .inr fun u second => ?_
      obtain ⟨g, again, alsoListed⟩ := mem_named.1 second
      exact apart f g listed alsoListed
        ((Patchable.part_of_edge path).trans (Patchable.part_of_edge again).symm)
    · exact .inl fun t first => edges ⟨t, first⟩

namespace Schedule
variable {stored : Schedule} {m n fields : List String} {w : Wire.Schedule}

/-- What is taken by masks that are apart may be taken in either order. -/
theorem taken_comm (apart : Mask.Apart m n) (s first second : Schedule) :
    (s.taken first m).taken second n = (s.taken second n).taken first m := by
  have swap {α : Type} (q : String) (a b old : α) :
      (if q ∈ n then b else if q ∈ m then a else old) = if q ∈ m then a else if q ∈ n then b else old := by
    by_cases named : q ∈ m
    · rw [if_neg (apart.fields q named), if_pos named, if_pos named]
    · rw [if_neg named, if_neg named]
  have target : takenTarget n second.target (takenTarget m first.target s.target) =
      takenTarget m first.target (takenTarget n second.target s.target) := by
    rcases apart.targets with none | none
    · rw [takenTarget_other none, takenTarget_other none]
    · rw [takenTarget_other none, takenTarget_other none]
  simp only [taken, swap, target]

/-- What a schedule has from one that was sent, in one field. -/
def Carries (s : Schedule) (w : Wire.Schedule) : Patchable → Prop
  | .name => s.name = w.name
  | .status => s.status.number = w.status.number
  | .start => s.start = w.start.toUInt64
  | .finish => s.finish = w.finish.toUInt64
  | .host => Target.shownId s.target .host = w.hostId
  | .site => Target.shownId s.target .site = w.siteId
  | .region => Target.shownId s.target .region = w.regionId

theorem shownId_stub (t : Target) (k : Kind) : Target.shownId (some t.stub) k = Target.shownId (some t) k := by
  cases t <;> cases k <;> rfl

/-- If the edge of a kind is named, what is shown of the target for the kind is what was sent for it. -/
theorem shownId_taken {k : Kind} (named : ∀ t : Target, t.kind = k → t.edge ∈ m) (incoming current : Option Target) :
    Target.shownId (takenTarget m incoming current) k = Target.shownId incoming k := by
  have other (o : Option Target) (unnamed : ∀ t, o = some t → t.edge ∉ m) : Target.shownId o k = "" := by
    have none : o.filter (·.kind = k) = none :=
      Option.filter_eq_none_iff.2 fun t held => by simpa using fun kind => unnamed t held (named t kind)
    rw [Target.shownId, none]
    rfl
  by_cases given : ∃ t, incoming = some t ∧ t.edge ∈ m
  · obtain ⟨t, rfl, listed⟩ := given
    rw [takenTarget_set rfl listed, shownId_stub]
  · have unnamed : ∀ t, incoming = some t → t.edge ∉ m := fun t held listed => given ⟨t, held, listed⟩
    rw [takenTarget_unset unnamed, other incoming unnamed]
    refine other _ fun t held => ?_
    simpa using (Option.filter_eq_some_iff.1 held).2

theorem taken_carries (converted : w.toStored = .ok stored) {f : Patchable} (listed : f.field ∈ fields)
    (s : Schedule) : (s.taken stored (Mask.named fields)).Carries w f := by
  have filed := Wire.Schedule.toStored_ok converted
  obtain ⟨host, site, region⟩ := filed.target.shownId
  have named : f.path ∈ Mask.named fields := Mask.path_mem_named.2 listed
  have edge {k : Kind} (only : ∀ t : Target, t.kind = k → t.edge = f.path) (t : Target) (kind : t.kind = k) :
      t.edge ∈ Mask.named fields := only t kind ▸ named
  cases f with
  | name => exact (if_pos named).trans filed.name
  | status => exact (congrArg Status.number (if_pos named)).trans filed.status
  | start => exact (if_pos named).trans filed.start
  | finish => exact (if_pos named).trans filed.finish
  | host => exact (shownId_taken (edge fun t kind => by cases t <;> first | rfl | cases kind) _ _).trans host
  | site => exact (shownId_taken (edge fun t kind => by cases t <;> first | rfl | cases kind) _ _).trans site
  | region => exact (shownId_taken (edge fun t kind => by cases t <;> first | rfl | cases kind) _ _).trans region

end Schedule

namespace Deployment

/-- A patch that is to come, some time after what came before it. -/
structure Patch where
  pause : Nat := 0
  set : ServiceSettings := {}
  ctx : Context
  cancelled : Bool := false
  body : Wire.Schedule
  fields : List String

namespace Patch

def events (id : String) (p : Patch) : List Event :=
  [.wait p.pause, .serve p.set p.ctx p.cancelled (.patch id p.body (some p.fields))]

/-- What a patch that succeeds makes of a schedule, but for the time. -/
def applyTo (s : Schedule) (p : Patch) : Schedule :=
  match p.body.toStored with
  | .ok stored => s.taken stored (Mask.named p.fields)
  | .error _ => s

/-- Patches that name no part of a schedule in common. -/
def Apart (p q : Patch) : Prop :=
  ∀ f g : Patchable, f.field ∈ p.fields → g.field ∈ q.fields → f.part ≠ g.part

variable {p q : Patch} {s : Schedule} {patches order : List Patch}

theorem applyTo_comm (apart : Apart p q) (s : Schedule) : applyTo (applyTo s p) q = applyTo (applyTo s q) p := by
  unfold applyTo
  split
  · split
    · exact Schedule.taken_comm (Mask.apart_named apart) ..
    · rfl
  · split <;> rfl

/-- In every order patches that are apart make the same of a schedule. -/
theorem foldl_perm (apart : patches.Pairwise Apart) (perm : order.Perm patches) (s : Schedule) :
    order.foldl applyTo s = patches.foldl applyTo s := by
  let Commute (p q : Patch) : Prop := ∀ s, applyTo (applyTo s p) q = applyTo (applyTo s q) p
  have : Std.Symm Commute := ⟨fun _ _ commute s => (commute s).symm⟩
  have all : ∀ p ∈ patches, ∀ q ∈ patches, Commute p q :=
    (apart.imp fun apart => applyTo_comm apart).forall_of_forall fun _ _ _ => rfl
  exact (perm.symm.foldl_eq' (fun p first q second s => all p first q second s) s).symm

/-- The time of the last change is nothing to a patch. -/
theorem foldl_updatedAt (patches : List Patch) (s : Schedule) (at_ : String) :
    patches.foldl applyTo { s with updatedAt := at_ } = { patches.foldl applyTo s with updatedAt := at_ } := by
  have one (s : Schedule) (p : Patch) :
      applyTo { s with updatedAt := at_ } p = { applyTo s p with updatedAt := at_ } := by
    unfold applyTo
    split <;> rfl
  induction patches generalizing s with
  | nil => rfl
  | cons p rest ih => rw [List.foldl_cons, List.foldl_cons, one, ih]

/-- What a patch named stays as it was sent. -/
theorem foldl_carries (apart : patches.Pairwise Apart) (member : p ∈ patches) {stored : Schedule}
    (converted : p.body.toStored = .ok stored) {f : Patchable} (listed : f.field ∈ p.fields) (s : Schedule) :
    (patches.foldl applyTo s).Carries p.body f := by
  obtain ⟨before, after, rfl⟩ := List.append_of_mem member
  -- it may as well have come last
  have last : ((before ++ after) ++ [p]).Perm (before ++ p :: after) :=
    (List.perm_append_singleton p _).trans List.perm_middle.symm
  rw [← foldl_perm apart last, List.foldl_append, List.foldl_cons, List.foldl_nil, applyTo, converted]
  exact Schedule.taken_carries converted listed _

end Patch

variable {d : Deployment} {tenant id : String} {s : Schedule}

/-- A patch that succeeds has stored what it takes over. -/
theorem serve_patched {set : ServiceSettings} {ctx : Context} {body : Wire.Schedule} {fields : List String}
    (caller : ctx.tenant = some tenant) (given : fields ≠ [])
    (found : (d.inventory.partition tenant).find? id = some (.schedule s)) :
    let ran := (Service.serve backend set ctx (.patch id body (some fields))).result d
    (Outcome.served ran.1).failed = false → ∃ stored, body.toStored = .ok stored ∧
      (ran.2.inventory.partition tenant).find? id =
        some (.schedule { s.taken stored (Mask.named fields) with updatedAt := d.time }) := by
  intro ran done
  obtain ⟨e, failed, -⟩ | ⟨owner, stored, paths, old, made, again, converted, translated, there, revised, next⟩ :=
    @patch_cases d ctx id set body (some fields)
  · have failed : ran.1 = .error e := failed
    rw [failed] at done
    cases done
  · cases caller.symm.trans again
    cases found.symm.trans there
    obtain ⟨masked, applied, -, -, rfl⟩ := Partition.revise_steps revised
    obtain ⟨nonempty, each⟩ := Mask.translate_ok given translated
    rw [Schedule.applyMask_translated nonempty each] at applied
    cases applied
    refine ⟨stored, converted, ?_⟩
    rw [next, Inventory.find?_put, if_pos ⟨rfl, rfl⟩]

/-- A run of patches that all succeed stores what they make of the schedule one after the other. -/
theorem run_patches (order : List Patch) : ∀ {d : Deployment} {s : Schedule},
    (∀ p ∈ order, p.ctx.tenant = some tenant ∧ p.fields ≠ []) →
    (d.inventory.partition tenant).find? id = some (.schedule s) →
    let ran := run backend (order.flatMap (Patch.events id)) d
    (∀ outcome ∈ ran.1, outcome.failed = false) →
      (∀ p ∈ order, ∃ stored, p.body.toStored = .ok stored) ∧
      ∃ at_, (ran.2.inventory.partition tenant).find? id =
        some (.schedule { order.foldl Patch.applyTo s with updatedAt := at_ }) := by
  induction order with
  | nil =>
      intro d s good found ran done
      exact ⟨fun p member => absurd member List.not_mem_nil, s.updatedAt, found⟩
  | cons p rest ih =>
      intro d s good found ran done
      obtain ⟨caller, given⟩ := good p List.mem_cons_self
      let between : Deployment := { d with now := d.now + p.pause }
      let patched := step backend between (.serve p.set p.ctx p.cancelled (.patch id p.body (some p.fields)))
      let others := run backend (rest.flatMap (Patch.events id)) patched.2
      have split : ran = (.waited :: patched.1 :: others.1, others.2) := rfl
      rw [split] at done ⊢
      have first : patched.1.failed = false := done _ (List.mem_cons_of_mem _ List.mem_cons_self)
      obtain ⟨stored, converted, there⟩ :=
        serve_patched (d := { between with cancelled := p.cancelled }) caller given found first
      have next : p.applyTo s = s.taken stored (Mask.named p.fields) := by
        rw [Patch.applyTo, converted]
      rw [← next] at there
      have goodLater : ∀ q ∈ rest, q.ctx.tenant = some tenant ∧ q.fields ≠ [] :=
        fun q member => good q (List.mem_cons_of_mem _ member)
      obtain ⟨sent, at_, final⟩ := ih goodLater there fun outcome member =>
        done outcome (List.mem_cons_of_mem _ (List.mem_cons_of_mem _ member))
      refine ⟨List.forall_mem_cons.2 ⟨⟨stored, converted⟩, sent⟩, at_, final.trans ?_⟩
      rw [Patch.foldl_updatedAt, List.foldl_cons]

/-- Of patches of one schedule that are apart none is lost. In every order in which all of them succeed the
schedule comes out the same, but for the time of its last change, and has from each patch what that named. -/
theorem patches_kept (id : String) {patches : List Patch} (apart : patches.Pairwise Patch.Apart)
    (good : ∀ p ∈ patches, p.ctx.tenant = some tenant ∧ p.fields ≠ [])
    (found : (d.inventory.partition tenant).find? id = some (.schedule s)) :
    ∃ final : Schedule, ∀ order : List Patch, order.Perm patches →
      let ran := run backend (order.flatMap (Patch.events id)) d
      (∀ outcome ∈ ran.1, outcome.failed = false) →
        (∃ at_, (ran.2.inventory.partition tenant).find? id = some (.schedule { final with updatedAt := at_ })) ∧
        ∀ p ∈ patches, ∀ f : Patchable, f.field ∈ p.fields → final.Carries p.body f := by
  refine ⟨patches.foldl Patch.applyTo s, ?_⟩
  intro order perm ran done
  obtain ⟨sent, at_, stored⟩ := run_patches order (fun p member => good p (perm.mem_iff.1 member)) found done
  rw [Patch.foldl_perm apart perm] at stored
  refine ⟨⟨at_, stored⟩, fun p member f listed => ?_⟩
  obtain ⟨_, converted⟩ := sent p (perm.mem_iff.2 member)
  exact Patch.foldl_carries apart member converted listed s

/-- A patch of the name, and one of the target and the hours. -/
def renamed : Patch where
  ctx := { tenant := some "a" }
  body := { name := "weekly", finish := 3 }
  fields := ["name"]

def rescheduled : Patch where
  pause := 1000
  ctx := { tenant := some "a" }
  body := { start := 7, finish := 8 }
  fields := ["target_host_id", "start_seconds", "end_seconds", "start_seconds"]

/-- The schedule in `housed` is patched in some order. -/
def patched (order : List Patch) : List Outcome × Deployment :=
  run backend (order.flatMap (Patch.events "singlesche-f0000000")) housed

/-- To rename and to reschedule is to reschedule and to rename. -/
theorem patches_kept_housed :
    let orders := [[renamed, rescheduled], [rescheduled, renamed]]
    (∀ order ∈ orders, ∀ outcome ∈ (patched order).1, outcome.failed = false) ∧
    ∃ final : Schedule, final.name = "weekly" ∧ final.start = 7 ∧ final.finish = 8 ∧
      Target.shownId final.target .host = "" ∧ ∀ order ∈ orders, ∃ at_,
        ((patched order).2.inventory.partition "a").find? "singlesche-f0000000" =
          some (.schedule { final with updatedAt := at_ }) := by
  intro orders
  have settled : ∀ order ∈ orders, ∀ outcome ∈ (patched order).1, outcome.failed = false := by
    have first : (patched [renamed, rescheduled]).1.all (!·.failed) = true := rfl
    have second : (patched [rescheduled, renamed]).1.all (!·.failed) = true := rfl
    simp only [List.all_eq_true, Bool.not_eq_true'] at first second
    exact List.forall_mem_cons.2 ⟨first, List.forall_mem_singleton.2 second⟩
  have perms : ∀ order ∈ orders, order.Perm [renamed, rescheduled] :=
    List.forall_mem_cons.2 ⟨.refl _, List.forall_mem_singleton.2 (.swap ..)⟩
  have apart : Patch.Apart renamed rescheduled := by
    intro f g
    cases f <;> cases g <;> decide
  have good : ∀ p ∈ [renamed, rescheduled], p.ctx.tenant = some "a" ∧ p.fields ≠ [] :=
    List.forall_mem_cons.2 ⟨⟨rfl, nofun⟩, List.forall_mem_singleton.2 ⟨rfl, nofun⟩⟩
  obtain ⟨final, each⟩ := patches_kept "singlesche-f0000000" (List.pairwise_pair.2 apart) good (d := housed) rfl
  have carries := (each _ (.refl _) (settled _ List.mem_cons_self)).2
  have named := carries renamed List.mem_cons_self .name (by decide)
  have timed (f : Patchable) := carries rescheduled (List.mem_cons_of_mem _ List.mem_cons_self) f
  refine ⟨settled, final, named, timed .start (by decide), timed .finish (by decide), timed .host (by decide), ?_⟩
  intro order listed
  exact (each order (perms order listed) (settled order listed)).1

end Deployment
end Upkeep
