import Upkeep.Proofs.Cache.Inquiry
import Upkeep.Proofs.Inventory.Reachable

/-! Answers that last. A change to one resource leaves every answer as it was that has nothing
to do with it: a schedule shows its target, but a target cannot go while a schedule has it. -/
namespace Upkeep

namespace Partition
variable {tenant id k : String} {p q : Partition}

/-- A partition that can differ in what stands under an ID, which is no schedule's target. -/
structure Beside (id : String) (p q : Partition) : Prop where
  others : ∀ k, k ≠ id → q.find? k = p.find? k
  free : ∀ k s t, p.find? k = some (.schedule s) → s.target = some t → t.id ≠ id

theorem Beside.view {r : Resource} (beside : Beside id p q) (found : p.find? k = some r) :
    q.view r = p.view r := by
  cases r with
  | schedule s =>
      have same : q.hydrate s = p.hydrate s :=
        hydrate_congr fun t target => beside.others _ (beside.free k s t found target)
      simp only [Partition.view, same]
  | host h => rfl
  | site s => rfl
  | region r => rfl

/-- A resource may be new, or take the place of a schedule. -/
theorem Sound.beside_insert (sound : p.Sound tenant)
    (old : ∀ r, p.find? id = some r → r.kind = .schedule) (r : Resource) :
    Beside id p (Table.insert p id r) where
  others k apart := by rw [Table.find?_insert, if_neg apart]
  free k s t found target same := by
    obtain ⟨r, there, kind⟩ := sound.anchored k s t found target
    exact t.kind_ne_schedule (kind.symm.trans (old r (same ▸ there)))

theorem Sound.beside_erase (sound : p.Sound tenant) (free : p.targeting? id = none) :
    Beside id p (Table.erase p id) where
  others k apart := by rw [Table.find?_erase, if_neg apart]
  free k s t found target :=
    targeting?_eq_none.1 free s (sound.ordered.mem_values.2 ⟨k, found⟩) t target

end Partition

namespace Inventory
variable {inv next : Inventory} {tenant id k : String}

theorem get_congr (found : (next.partition tenant).find? k = (inv.partition tenant).find? k)
    (view : ∀ r, (inv.partition tenant).find? k = some r →
      (next.partition tenant).view r = (inv.partition tenant).view r) :
    next.get tenant k = inv.get tenant k := by
  unfold get
  dsimp only
  rw [found]
  split
  · next r there => rw [view r there]
  · rfl

theorem list_congr {q : Query}
    (same : (next.partition tenant).values.filter (·.kind = q.kind) =
      (inv.partition tenant).values.filter (·.kind = q.kind))
    (view : ∀ r ∈ (inv.partition tenant).values,
      (next.partition tenant).view r = (inv.partition tenant).view r) :
    next.list tenant q = inv.list tenant q := by
  unfold list
  by_cases ordered : q.orderBy ≠ "" ∧ q.orderBy ≠ "resource_id"
  · rw [if_pos ordered, if_pos ordered]
    rfl
  · rw [if_neg ordered, if_neg ordered]
    cases (Filter.parse q.filter).mapError (·.failure) with
    | error e => rfl
    | ok expr =>
        dsimp only [bind, Except.bind]
        rw [same]
        cases judged : (((inv.partition tenant).values.filter (·.kind = q.kind)).filterM
            fun r => expr.eval r.field).mapError (·.failure) with
        | error e => rfl
        | ok kept =>
            have alike : ∀ r ∈ (Page.cut q.offset q.limit kept).items,
                (next.partition tenant).view r = (inv.partition tenant).view r := by
              intro r member
              have passed := Filter.mem_of_filterM (Answer.mapError_eq_ok.1 judged) r
                (Page.mem_cut member)
              exact view r (List.mem_filter.1 passed).1
            dsimp only
            rw [List.map_congr_left alike]

/-- An answer looks at the partition of its tenant only. -/
theorem answer_congr (same : next.partition tenant = inv.partition tenant) (q : Inquiry) :
    next.answer tenant q = inv.answer tenant q := by
  cases q with
  | one id =>
      have got : next.get tenant id = inv.get tenant id :=
        get_congr (by rw [same]) fun r _ => by rw [same]
      change next.schedule tenant id = inv.schedule tenant id
      simp only [schedule, got]
  | page key =>
      have listed (q : Query) : next.list tenant q = inv.list tenant q :=
        list_congr (by rw [same]) fun r _ => by rw [same]
      change next.page tenant key = inv.page tenant key
      simp only [page, listed]

theorem schedule_beside (beside : Partition.Beside id (inv.partition tenant) (next.partition tenant))
    (apart : k ≠ id) : next.schedule tenant k = inv.schedule tenant k := by
  have got : next.get tenant k = inv.get tenant k :=
    get_congr (beside.others k apart) fun r found => beside.view found
  simp only [schedule, got]

theorem page_beside (ordered : (inv.partition tenant).Ordered)
    (beside : Partition.Beside id (inv.partition tenant) (next.partition tenant))
    (same : (next.partition tenant).values.filter (·.kind = .schedule) =
      (inv.partition tenant).values.filter (·.kind = .schedule))
    (key : PageKey) : next.page tenant key = inv.page tenant key := by
  have view : ∀ r ∈ (inv.partition tenant).values,
      (next.partition tenant).view r = (inv.partition tenant).view r := by
    intro r member
    obtain ⟨k, found⟩ := ordered.mem_values.1 member
    exact beside.view found
  unfold page
  rw [list_congr same view]

end Inventory
end Upkeep
