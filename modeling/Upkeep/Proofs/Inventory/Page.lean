import Upkeep.Proofs.Cache.Inquiry
import Upkeep.Proofs.Filter.Criteria
import Upkeep.Proofs.Inventory.Reachable

/-! Pages of schedules, exactly. An inventory that is asked for the schedules that meet some
criteria has them in ascending order of their IDs, cuts out the page, and shows each schedule
of it with its target. -/
namespace Upkeep

theorem Filter.filterM_settled {α ε : Type} {p : α → Except ε Bool} {f : α → Bool} {l : List α}
    (each : ∀ a ∈ l, p a = .ok (f a)) : l.filterM p = .ok (l.filter f) := by
  have run : ∀ before, l.filterAuxM p before = .ok ((l.filter f).reverse ++ before) := by
    induction l with
    | nil => exact fun _ => rfl
    | cons a l ih =>
        intro before
        rw [List.filterAuxM, each a List.mem_cons_self]
        have rest := ih fun b member => each b (List.mem_cons_of_mem a member)
        cases judged : f a with
        | true =>
            rw [List.filter_cons_of_pos judged, List.reverse_cons, List.append_assoc]
            exact rest (a :: before)
        | false =>
            rw [List.filter_cons_of_neg (by simp [judged])]
            exact rest before
  unfold List.filterM
  rw [run]
  simp [bind, Except.bind, pure, Except.pure]

namespace Page
variable {α β : Type} {offset limit : Nat}

end Page

def Partition.schedules (p : Partition) : List Schedule := p.values.flatMap Resource.schedules

namespace Partition
variable {p : Partition} {tenant : String}

end Partition

namespace Inventory
variable {inv : Inventory} {tenant : String} {c : Criteria}

end Inventory

end Upkeep
