import Upkeep.Proofs.Inventory.Change

/-! What an inventory lists: resources of the caller's partition, each as it is shown. -/
namespace Upkeep

namespace Filter
variable {α ε : Type} {p : α → Except ε Bool}

theorem mem_of_filterAuxM {l before kept : List α} (h : l.filterAuxM p before = .ok kept) :
    ∀ a ∈ kept, a ∈ before ∨ a ∈ l := by
  induction l generalizing before with
  | nil =>
      cases h
      exact fun a member => Or.inl member
  | cons x l ih =>
      intro a member
      cases judged : p x with
      | error e => simp [List.filterAuxM, judged, bind, Except.bind] at h
      | ok b =>
          simp only [List.filterAuxM, judged, bind, Except.bind] at h
          rcases ih h a member with early | late
          · cases b with
            | false => exact Or.inl early
            | true => exact (List.mem_cons.1 early).elim (fun same => Or.inr (same ▸ List.mem_cons_self)) Or.inl
          · exact Or.inr (List.mem_cons_of_mem x late)

theorem mem_of_filterM {l kept : List α} (h : l.filterM p = .ok kept) : ∀ a ∈ kept, a ∈ l := by
  intro a member
  unfold List.filterM at h
  cases run : l.filterAuxM p [] with
  | error e => simp [run, bind, Except.bind] at h
  | ok found =>
      simp only [run, bind, Except.bind, pure, Except.pure, Except.ok.injEq] at h
      subst h
      exact (mem_of_filterAuxM run a (List.mem_reverse.1 member)).resolve_left List.not_mem_nil

end Filter

theorem Page.mem_cut {α : Type} {offset limit : Nat} {all : List α} {a : α}
    (member : a ∈ (Page.cut offset limit all).items) : a ∈ all :=
  List.mem_of_mem_drop (List.mem_of_mem_take member)

namespace Answer

theorem mapError_eq_ok {ε α : Type} {f : ε → Failure} {a : Except ε α} {x : α} :
    a.mapError f = .ok x ↔ a = .ok x := by
  cases a with
  | error e => constructor <;> exact nofun
  | ok y =>
      constructor
      · intro h
        exact congrArg Except.ok (Except.ok.inj h)
      · intro h
        exact congrArg Except.ok (Except.ok.inj h)

end Answer

namespace Partition

/-- The resources of a kind, in the order in which they are listed. -/
def ofKind (p : Partition) (k : Kind) : List Resource := p.values.filter (·.kind = k)

/-- The page of a query, cut out of the resources that it finds. -/
def page (p : Partition) (q : Query) (found : List Resource) : Page Resource :=
  let page := Page.cut q.offset q.limit found
  { page with items := page.items.map p.view }

theorem kind_of_mem {p : Partition} {k : Kind} {r : Resource} (member : r ∈ p.ofKind k) : r.kind = k :=
  of_decide_eq_true (List.mem_filter.1 member).2

end Partition

namespace Inventory
variable {inv : Inventory} {tenant id : String}

/-- All that a list makes of its filter is to judge the resources of the kind by it. -/
theorem list_read {q : Query} {e : Filter.Expr} (ordered : q.orderBy = "" ∨ q.orderBy = "resource_id")
    (read : Filter.parse q.filter = .ok e) :
    let p := inv.partition tenant
    inv.list tenant q = match (p.ofKind q.kind).filterM fun r => e.eval r.field with
      | .ok found => .ok (p.page q found)
      | .error f => .error f.failure := by
  intro p
  have supported : ¬ (q.orderBy ≠ "" ∧ q.orderBy ≠ "resource_id") :=
    fun other => ordered.elim other.1 other.2
  unfold list
  rw [if_neg supported, read]
  show ((p.ofKind q.kind).filterM fun r => e.eval r.field).mapError (·.failure) >>=
    (fun found => pure (p.page q found)) = _
  cases (p.ofKind q.kind).filterM fun r => e.eval r.field with
  | ok found => rfl
  | error f => rfl

/-- Everything on a page stands in the partition, and is shown. -/
theorem mem_list {q : Query} {page : Page Resource} (done : inv.list tenant q = .ok page) :
    ∀ r ∈ page.items, ∃ kept ∈ (inv.partition tenant).values, kept.kind = q.kind ∧
      r = (inv.partition tenant).view kept := by
  unfold list at done
  by_cases ordered : q.orderBy ≠ "" ∧ q.orderBy ≠ "resource_id"
  · rw [if_pos ordered] at done
    cases done
  · rw [if_neg ordered] at done
    obtain ⟨expr, -, done⟩ := Answer.bind_ok.1 done
    obtain ⟨matched, judged, done⟩ := Answer.bind_ok.1 done
    cases done
    intro r member
    obtain ⟨kept, cut, rfl⟩ := List.mem_map.1 member
    have passed := Filter.mem_of_filterM (Answer.mapError_eq_ok.1 judged) kept (Page.mem_cut cut)
    obtain ⟨there, kind⟩ := List.mem_filter.1 passed
    exact ⟨kept, there, of_decide_eq_true kind, rfl⟩

theorem get_ok {r : Resource} : inv.get tenant id = .ok r ↔
    ∃ kept, (inv.partition tenant).find? id = some kept ∧ r = (inv.partition tenant).view kept := by
  unfold get
  dsimp only
  split
  · next kept found => simp [found, eq_comm]
  · next missing => simp [missing]

end Inventory
end Upkeep
