import Upkeep.Proofs.Cache.Lasting

/-! One entry rewritten. A write that succeeds puts a resource where none was, puts a schedule in
the place of another, or takes a resource out, and all other entries stay as they are. The entry
is no schedule's target, before or after. -/
namespace Upkeep

/-- Of a resource that is no schedule everything is shown as it is kept. -/
theorem Partition.view_bare {r : Resource} (other : r.kind ≠ .schedule) (p : Partition) : p.view r = r := by
  cases r with
  | schedule s => exact absurd rfl other
  | host h => rfl
  | site s => rfl
  | region r => rfl

namespace Inventory

/-- Under one ID of a tenant's, `new` has come for `old`. -/
structure Rewrites (inv next : Inventory) (tenant id : String) (old new : Option Resource) : Prop where
  old : (inv.partition tenant).find? id = old
  new : (next.partition tenant).find? id = new
  beside : Partition.Beside id (inv.partition tenant) (next.partition tenant)
  others : ∀ other, other ≠ tenant → next.partition other = inv.partition other

variable {inv next : Inventory} {ids rest : Ids} {now tenant other id k : String}

theorem Sound.rewrites_put (sound : inv.Sound) {old : Option Resource} (r : Resource)
    (found : (inv.partition tenant).find? id = old)
    (schedule : ∀ o, old = some o → o.kind = .schedule) :
    inv.Rewrites (inv.put tenant id r) tenant id old (some r) where
  old := found
  new := by rw [partition_put, Table.find?_insert, if_pos rfl]
  beside := by
    rw [partition_put]
    exact (sound tenant).beside_insert (fun o there => schedule o (found.symm.trans there)) r
  others _ := partition_put_ne

theorem Sound.rewrites_created (sound : inv.Sound) {r filed : Resource}
    (created : Created inv ids now tenant r filed rest) :
    inv.Rewrites (inv.put tenant filed.id filed) tenant filed.id none (some filed) :=
  sound.rewrites_put filed (Partition.newId_ok created.named).1 fun _ none => by cases none

theorem Sound.rewrites_revised (sound : inv.Sound) {current : Schedule} (updated : Schedule)
    (found : (inv.partition tenant).find? id = some (.schedule current)) :
    inv.Rewrites (inv.put tenant id (.schedule updated)) tenant id (some (.schedule current))
      (some (.schedule updated)) :=
  sound.rewrites_put _ found fun _ same => by cases same; rfl

theorem Sound.rewrites_erased (sound : inv.Sound) {old : Resource}
    (found : (inv.partition tenant).find? id = some old)
    (free : (inv.partition tenant).targeting? id = none) :
    inv.Rewrites (inv.setPartition tenant ((inv.partition tenant).erase id)) tenant id (some old) none where
  old := found
  new := by rw [partition_setPartition_self, Table.find?_erase, if_pos rfl]
  beside := by
    rw [partition_setPartition_self]
    exact (sound tenant).beside_erase free
  others _ := partition_setPartition_ne

/-- What is shown of a schedule stays, unless it is the one that is rewritten. -/
theorem Rewrites.schedule {old new : Option Resource} (h : inv.Rewrites next tenant id old new)
    (apart : other = tenant → k ≠ id) : next.schedule other k = inv.schedule other k := by
  by_cases same : other = tenant
  · subst same
    exact schedule_beside h.beside (apart rfl)
  · exact answer_congr (h.others other same) (.one k)

end Inventory
end Upkeep
