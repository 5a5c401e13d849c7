import Upkeep.Proofs.Inventory.Change

/-! One tenant's part of an inventory. A call looks at the partition of its tenant and at nothing
else, and leaves the partitions of all others as they are, so tenants cannot tell whether there
are any others. -/
namespace Upkeep.Inventory
variable {inv next : Inventory} {tenant other : String}

theorem create_same (same : next.partition tenant = inv.partition tenant) (ids : Ids) (now : String)
    (r : Resource) :
    (next.create ids now tenant r).1 = (inv.create ids now tenant r).1 ∧
      (next.create ids now tenant r).2.2 = (inv.create ids now tenant r).2.2 ∧
      (next.create ids now tenant r).2.1.partition tenant =
        (inv.create ids now tenant r).2.1.partition tenant := by
  unfold create
  rw [same]
  rcases (inv.partition tenant).newId ids r with ⟨id, rest⟩
  dsimp only
  split
  · exact ⟨rfl, rfl, same⟩
  · refine ⟨rfl, rfl, ?_⟩
    rw [partition_setPartition_self, partition_setPartition_self]

theorem update_same (same : next.partition tenant = inv.partition tenant) (now id : String)
    (mask : List String) (r : Resource) :
    (next.update now tenant id mask r).1 = (inv.update now tenant id mask r).1 ∧
      (next.update now tenant id mask r).2.partition tenant =
        (inv.update now tenant id mask r).2.partition tenant := by
  unfold update
  rw [same]
  dsimp only
  split
  · exact ⟨rfl, same⟩
  · split
    · exact ⟨rfl, same⟩
    · refine ⟨rfl, ?_⟩
      rw [partition_setPartition_self, partition_setPartition_self]
  · exact ⟨rfl, same⟩

theorem delete_same (same : next.partition tenant = inv.partition tenant) (id : String) :
    (next.delete tenant id).1 = (inv.delete tenant id).1 ∧
      (next.delete tenant id).2.partition tenant = (inv.delete tenant id).2.partition tenant := by
  unfold delete
  rw [same]
  dsimp only
  split
  · split
    · exact ⟨rfl, same⟩
    · refine ⟨rfl, ?_⟩
      rw [partition_setPartition_self, partition_setPartition_self]
  · exact ⟨rfl, same⟩

theorem get_same (same : next.partition tenant = inv.partition tenant) (id : String) :
    next.get tenant id = inv.get tenant id := by
  unfold get
  rw [same]

theorem list_same (same : next.partition tenant = inv.partition tenant) (q : Query) :
    next.list tenant q = inv.list tenant q := by
  unfold list
  rw [same]

theorem partition_create_ne (apart : other ≠ tenant) (ids : Ids) (now : String) (r : Resource) :
    (inv.create ids now tenant r).2.1.partition other = inv.partition other := by
  obtain ⟨e, rest, failed⟩ | ⟨filed, rest, -, done⟩ := create_cases inv ids now tenant r
  · rw [failed]
  · rw [done]
    exact partition_put_ne apart

theorem partition_update_ne (apart : other ≠ tenant) (now id : String) (mask : List String)
    (r : Resource) : (inv.update now tenant id mask r).2.partition other = inv.partition other := by
  obtain ⟨e, failed⟩ | ⟨current, incoming, updated, -, -, -, done⟩ :=
    update_cases inv now tenant id mask r
  · rw [failed]
  · rw [done]
    exact partition_put_ne apart

theorem partition_delete_ne (apart : other ≠ tenant) (id : String) :
    (inv.delete tenant id).2.partition other = inv.partition other := by
  obtain ⟨e, failed⟩ | ⟨old, -, -, done⟩ := delete_cases inv tenant id
  · rw [failed]
  · rw [done]
    exact partition_setPartition_ne apart

end Upkeep.Inventory
