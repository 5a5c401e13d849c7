import Upkeep.Proofs.Filter.Laws
import Upkeep.Proofs.Inventory.Page

/-! Lists under a filter. A list looks at the resources of a kind one after the other, so a fault of the
filter comes to light where one of them leads to it, and not otherwise. Under a filter that is well typed the
page is cut out of the resources of which the filter is true. -/
namespace Upkeep
open Upkeep.Filter (Expr EvalFault parse)

namespace Filter
variable {α ε : Type} {p : α → Except ε Bool} {a : α} {l : List α} {e : ε}

/-- Some item has the second property, and all items before it have the first one. -/
def Reaches (pass stop : α → Prop) (l : List α) : Prop :=
  ∃ before a after, l = before ++ a :: after ∧ (∀ b ∈ before, pass b) ∧ stop a

theorem not_reaches_nil {pass stop : α → Prop} : ¬ Reaches pass stop [] := by
  rintro ⟨before, a, after, whole, -⟩
  cases before <;> cases whole

theorem reaches_cons {pass stop : α → Prop} :
    Reaches pass stop (a :: l) ↔ stop a ∨ pass a ∧ Reaches pass stop l := by
  constructor
  · rintro ⟨before, b, after, whole, passed, stopped⟩
    cases before with
    | nil =>
        cases whole
        exact .inl stopped
    | cons c before =>
        cases whole
        obtain ⟨first, rest⟩ := List.forall_mem_cons.1 passed
        exact .inr ⟨first, before, b, after, rfl, rest, stopped⟩
  · rintro (stopped | ⟨first, before, b, after, rfl, rest, stopped⟩)
    · exact ⟨[], a, l, rfl, List.forall_mem_nil _, stopped⟩
    · exact ⟨a :: before, b, after, rfl, List.forall_mem_cons.2 ⟨first, rest⟩, stopped⟩

theorem filterAuxM_error {kept : List α} :
    l.filterAuxM p kept = .error e ↔ Reaches (fun b => ∃ x, p b = .ok x) (fun b => p b = .error e) l := by
  induction l generalizing kept with
  | nil =>
      refine iff_of_false ?_ not_reaches_nil
      intro failed
      cases failed
  | cons a l ih =>
      rw [reaches_cons, List.filterAuxM]
      cases p a with
      | error f => simp [bind, Except.bind]
      | ok x => simp [bind, Except.bind, ih]

/-- Items are looked at in their order, up to the first that cannot be judged. -/
theorem filterM_error :
    l.filterM p = .error e ↔ Reaches (fun b => ∃ x, p b = .ok x) (fun b => p b = .error e) l := by
  rw [← @filterAuxM_error _ _ p l e []]
  unfold List.filterM
  cases l.filterAuxM p [] with
  | error f => rfl
  | ok kept => exact ⟨nofun, nofun⟩

theorem filterM_congr {p' : α → Except ε Bool} (alike : ∀ b ∈ l, p' b = p b) : l.filterM p' = l.filterM p := by
  have run : ∀ kept, l.filterAuxM p' kept = l.filterAuxM p kept := by
    induction l with
    | nil => exact fun _ => rfl
    | cons b l ih =>
        intro kept
        have rest := ih fun c member => alike c (List.mem_cons_of_mem b member)
        simp only [List.filterAuxM, alike b List.mem_cons_self, rest]
  unfold List.filterM
  rw [run]

end Filter

namespace Partition

/-- Where an expression meets no fault, it picks out the resources of which it is true. -/
theorem filterM_of_clear {p : Partition} {k : Kind} {e : Expr} (clear : ∀ r ∈ p.ofKind k, ∀ f, ¬ e.Meets r f) :
    ((p.ofKind k).filterM fun r => e.eval r.field) = .ok ((p.ofKind k).filter fun r => e.Holds r) :=
  Filter.filterM_settled fun r member => Expr.eval_of_clear (clear r member)

theorem clear_of_wellTyped {p : Partition} {k : Kind} {e : Expr} (typed : e.WellTyped k) :
    ∀ r ∈ p.ofKind k, ∀ f, ¬ e.Meets r f := by
  intro r member
  rw [← kind_of_mem member] at typed
  exact typed.clear

end Partition

/-- Two filters by which each resource of the kind is judged alike list the same. -/
theorem Inventory.list_alike {inv : Inventory} {tenant : String} {q : Query} {filter : String} {e e' : Expr}
    (read : parse q.filter = .ok e) (read' : parse filter = .ok e')
    (alike : ∀ r : Resource, r.kind = q.kind → e'.eval r.field = e.eval r.field) :
    inv.list tenant { q with filter } = inv.list tenant q := by
  have found : (((inv.partition tenant).ofKind q.kind).filterM fun r => e'.eval r.field) =
      ((inv.partition tenant).ofKind q.kind).filterM fun r => e.eval r.field :=
    Filter.filterM_congr fun r member => alike r (Partition.kind_of_mem member)
  unfold Partition.ofKind at found
  unfold Inventory.list
  rw [read, read']
  dsimp only [bind, Except.bind, Except.mapError]
  rw [found]

namespace Deployment

/-- A call for a list that is let in, with a filter that is read as an expression. -/
structure Asks (d : Deployment) (ctx : Context) (tenant : String) (q : Query) (e : Expr) : Prop where
  admitted : d.caller ctx = .ok tenant
  ordered : q.orderBy = "" ∨ q.orderBy = "resource_id"
  read : parse q.filter = .ok e

variable {d : Deployment} {ctx : Context} {tenant : String} {q : Query} {e : Expr}

theorem list_inventory (ctx : Context) (q : Query) (d : Deployment) :
    (list ctx q).result d = (d.caller ctx >>= fun tenant => d.inventory.list tenant q, d) := by
  unfold list
  rw [entered_result]
  cases d.caller ctx <;> rfl

theorem Asks.result (asks : d.Asks ctx tenant q e) :
    let p := d.inventory.partition tenant
    (list ctx q).result d = (match (p.ofKind q.kind).filterM fun r => e.eval r.field with
      | .ok found => .ok (p.page q found)
      | .error f => .error f.failure, d) := by
  intro p
  rw [list_inventory, asks.admitted]
  exact congrArg (·, d) (Inventory.list_read asks.ordered asks.read)

/-- Where the filter meets no fault, the list is the page of what it is true of. -/
theorem Asks.page (asks : d.Asks ctx tenant q e)
    (clear : ∀ r ∈ (d.inventory.partition tenant).ofKind q.kind, ∀ f, ¬ e.Meets r f) :
    let p := d.inventory.partition tenant
    (list ctx q).result d = (.ok (p.page q ((p.ofKind q.kind).filter fun r => e.Holds r)), d) := by
  intro p
  rw [asks.result, Partition.filterM_of_clear clear]

/-- A filter that is well typed for the kind comes to its truth value on every resource of the kind. No list
fails under it, and no law of Boolean logic changes what is listed. -/
theorem list_of_wellTyped {k : Kind} {e : Expr} (typed : e.WellTyped k) :
    (∀ r : Resource, r.kind = k → e.eval r.field = .ok (decide (e.Holds r))) ∧
    (∀ d ctx tenant q, q.kind = k → Asks d ctx tenant q e →
      let p := d.inventory.partition tenant
      (list ctx q).result d = (.ok (p.page q ((p.ofKind k).filter fun r => e.Holds r)), d)) ∧
    (∀ e' filter d ctx q, e.Equivalent e' → q.kind = k → parse q.filter = .ok e → parse filter = .ok e' →
      (list ctx { q with filter }).result d = (list ctx q).result d) := by
  refine ⟨?_, ?_, ?_⟩
  · rintro r rfl
    exact Expr.eval_of_clear typed.clear
  · rintro d ctx tenant q rfl asks
    exact asks.page (Partition.clear_of_wellTyped typed)
  · rintro e' filter d ctx q same rfl read read'
    rw [list_inventory, list_inventory]
    refine congrArg (·, d) (congrArg (d.caller ctx >>= ·) (funext fun tenant => ?_))
    refine Inventory.list_alike read read' ?_
    intro r kind
    rw [← kind] at typed
    exact same.eval typed

theorem list_of_wellTyped_sheltered :
    let e : Expr := .not (.or (.has "target_site") (.compare "name" .ne (.text "")))
    let ctx : Context := { tenant := some "a" }
    let q : Query := { filter := "NOT (has(target_site) OR name != \"\")" }
    e.WellTyped .schedule ∧ e.eval (Resource.schedule shelteredSchedule).field = .ok true ∧
      ((list ctx q).result sheltered).1 = .ok { items := [.schedule shelteredSchedule], total := 1 } ∧
      (list ctx { filter := "NOT name != \"\" AND NOT has(target_site)" }).result sheltered =
        (list ctx q).result sheltered := by
  intro e ctx q
  have typed : e.WellTyped .schedule := by decide
  obtain ⟨truth, listed, alike⟩ := list_of_wellTyped typed
  have asks : sheltered.Asks ctx "a" q e := ⟨rfl, .inl rfl, by decide +kernel⟩
  have same : e.Equivalent (.and (.not (.compare "name" .ne (.text ""))) (.not (.has "target_site"))) :=
    .trans (.notOr _ _) (.swapAnd _ _)
  exact ⟨typed, truth _ rfl, congrArg (·.1) (listed sheltered ctx "a" q rfl asks),
    alike _ _ sheltered ctx q same rfl asks.read (by decide +kernel)⟩

/-- The fault of a list is the one that the first resource leads to which leads to any. -/
theorem Asks.error_iff (asks : d.Asks ctx tenant q e) {failure : Failure} :
    ((list ctx q).result d).1 = .error failure ↔ ∃ f : EvalFault, failure = .invalidArgument f.message ∧
      Filter.Reaches (fun r => ∀ g, ¬ e.Meets r g) (fun r => e.Meets r f)
        ((d.inventory.partition tenant).ofKind q.kind) := by
  have first (f : EvalFault) := Filter.filterM_error (p := fun r : Resource => e.eval r.field)
    (l := (d.inventory.partition tenant).ofKind q.kind) (e := f)
  simp only [Expr.eval_ok_iff, Expr.eval_error] at first
  rw [asks.result]
  cases judged : ((d.inventory.partition tenant).ofKind q.kind).filterM fun r => e.eval r.field with
  | ok found =>
      refine iff_of_false nofun ?_
      rintro ⟨f, -, reached⟩
      cases judged.symm.trans ((first f).2 reached)
  | error f =>
      constructor
      · intro told
        exact ⟨f, (Except.error.inj told).symm, (first f).1 judged⟩
      · rintro ⟨g, rfl, reached⟩
        cases judged.symm.trans ((first g).2 reached)
        rfl

/-- A list fails for its filter exactly if judging the filter on some resource of the kind meets a path that
is unknown or a literal of another type, and tells the fault that the first of these resources meets. -/
theorem list_faults (asks : d.Asks ctx tenant q e) :
    let p := d.inventory.partition tenant
    (∀ failure, ((list ctx q).result d).1 = .error failure ↔ ∃ f : EvalFault, failure = .invalidArgument f.message ∧
      ∃ before r after, p.ofKind q.kind = before ++ r :: after ∧ (∀ b ∈ before, ∀ g, ¬ e.Meets b g) ∧ e.Meets r f) ∧
    ((∀ r ∈ p.ofKind q.kind, ∀ f, ¬ e.Meets r f) →
      (list ctx q).result d = (.ok (p.page q ((p.ofKind q.kind).filter fun r => e.Holds r)), d)) ∧
    (∀ r ∈ p.ofKind q.kind, ∀ f, e.Meets r f → ¬ e.WellTyped q.kind) ∧
    (∀ path, e.firstPath? = some path → path ∉ q.kind.paths → p.ofKind q.kind ≠ [] →
      (list ctx q).result d = (.error (.invalidArgument (EvalFault.unknownField path).message), d)) := by
  intro p
  refine ⟨fun failure => asks.error_iff, asks.page, ?_, ?_⟩
  · intro r member f met typed
    exact Partition.clear_of_wellTyped typed r member f met
  · intro path first unlisted some
    obtain ⟨r, after, whole⟩ := List.exists_cons_of_ne_nil some
    have kind : r.kind = q.kind := Partition.kind_of_mem (whole ▸ List.mem_cons_self)
    rw [← kind] at unlisted
    have met := Expr.meets_of_firstPath first unlisted
    have told := asks.error_iff.2 ⟨_, rfl, [], r, after, whole, List.forall_mem_nil _, met⟩
    rw [list_inventory] at told ⊢
    exact congrArg (·, d) told

theorem list_faults_sheltered :
    let e : Expr := .or (.has "target_site") (.compare "name" .eq (.number 3))
    let ctx : Context := { tenant := some "a" }
    let q : Query := { filter := "has(target_site) OR name = 3" }
    sheltered.Asks ctx "a" q e ∧
      ((list ctx q).result sheltered).1 = .error (.invalidArgument "filter: type mismatch comparing field name") := by
  intro e ctx q
  have asks : sheltered.Asks ctx "a" q e := ⟨rfl, .inl rfl, by decide +kernel⟩
  let kept : Resource := .schedule { shelteredSchedule with target := some (.host { id := "host-00000001" }) }
  have known : ∀ f, ¬ (Expr.has "target_site").Meets kept f := fun f met => met.1 (by decide)
  have met : e.Meets kept (.typeMismatch "name") :=
    .inr ⟨known, by decide, .inr ⟨by decide, by decide, by decide, rfl⟩⟩
  exact ⟨asks, ((list_faults asks).1 _).2 ⟨_, rfl, [], kept, [], rfl, List.forall_mem_nil _, met⟩⟩

/-- Nothing of the tenant's is there to be judged by an unknown path; the path is not got to; the edge that
is compared with a number is unset. -/
theorem list_accepts_ill_typed :
    let color : Expr := .compare "color" .eq (.text "red")
    let unreached : Expr := .or (.compare "name" .eq (.text "")) color
    let unset : Expr := .compare "target_site" .eq (.number 3)
    let ask := fun tenant filter => ((list { tenant := some tenant } { filter }).result sheltered).1
    (¬ color.WellTyped .schedule ∧ parse "color = \"red\"" = .ok color ∧ ask "b" "color = \"red\"" = .ok {}) ∧
    (¬ unreached.WellTyped .schedule ∧ parse "name = \"\" OR color = \"red\"" = .ok unreached ∧
      ask "a" "name = \"\" OR color = \"red\"" = .ok { items := [.schedule shelteredSchedule], total := 1 }) ∧
    (¬ unset.WellTyped .schedule ∧ parse "target_site = 3" = .ok unset ∧ ask "a" "target_site = 3" = .ok {}) := by
  intro color unreached unset ask
  have empty : sheltered.Asks { tenant := some "b" } "b" { filter := "color = \"red\"" } color :=
    ⟨rfl, .inl rfl, by decide +kernel⟩
  have early : sheltered.Asks { tenant := some "a" } "a" { filter := "name = \"\" OR color = \"red\"" } unreached :=
    ⟨rfl, .inl rfl, by decide +kernel⟩
  have without : sheltered.Asks { tenant := some "a" } "a" { filter := "target_site = 3" } unset :=
    ⟨rfl, .inl rfl, by decide +kernel⟩
  exact ⟨⟨by decide, empty.read, congrArg (·.1) empty.result⟩, ⟨by decide, early.read, congrArg (·.1) early.result⟩,
    ⟨by decide, without.read, congrArg (·.1) without.result⟩⟩

end Deployment
end Upkeep
