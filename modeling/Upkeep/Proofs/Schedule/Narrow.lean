import Upkeep.Proofs.Inventory.Partition
import Upkeep.Proofs.Schedule.Status

/-! Narrow schedules: those whose bounds have 32 bits. What callers send is stored as a narrow
schedule, an update from one leaves a narrow one, and every narrow schedule can be shown. -/
namespace Upkeep

theorem Window.narrow_ok {field : String} {n : UInt64} (small : n.toNat < twoTo 32) :
    narrow field n = .ok n.toUInt32 :=
  if_pos small

theorem Window.widen_small (n : UInt32) : n.toUInt64.toNat < twoTo 32 := by
  rw [UInt32.toNat_toUInt64]
  exact n.toNat_lt

namespace Schedule

structure Narrow (s : Schedule) : Prop where
  start : s.start.toNat < twoTo 32
  finish : s.finish.toNat < twoTo 32

variable {current incoming updated next : Schedule}

theorem Narrow.assignEdge (narrow : current.Narrow) (incoming : Schedule) (edge : String) :
    (assignEdge incoming current edge).Narrow := by
  obtain ⟨target, eq, -⟩ := assignEdge_cases incoming current edge
  rw [eq]
  exact ⟨narrow.start, narrow.finish⟩

theorem Narrow.assign {path : String} (narrow : current.Narrow) (source : incoming.Narrow)
    (done : assign incoming current path = .ok next) : next.Narrow := by
  unfold Schedule.assign at done
  split at done <;> cases done
  · exact ⟨narrow.start, narrow.finish⟩
  · exact ⟨narrow.start, narrow.finish⟩
  · exact ⟨source.start, narrow.finish⟩
  · exact ⟨narrow.start, source.finish⟩
  · exact narrow.assignEdge incoming _
  · exact narrow.assignEdge incoming _
  · exact narrow.assignEdge incoming _

theorem Narrow.applyMask {mask : List String} (narrow : current.Narrow) (source : incoming.Narrow)
    (done : current.applyMask incoming mask = .ok updated) : updated.Narrow :=
  applyMask_keeps narrow (fun _ _ _ _ before first => Narrow.assign before source first) done

end Schedule

theorem Partition.revise_narrow {p : Partition} {now : String} {mask : List String}
    {current incoming updated : Schedule} (narrow : current.Narrow) (source : incoming.Narrow)
    (done : p.revise now mask current incoming = .ok updated) : updated.Narrow := by
  obtain ⟨masked, applied, -, -, rfl⟩ := revise_steps done
  have kept := narrow.applyMask source applied
  exact ⟨kept.start, kept.finish⟩

namespace Wire.Schedule

theorem toStored_narrow {w : Wire.Schedule} {stored : Upkeep.Schedule} (done : w.toStored = .ok stored) :
    stored.Narrow := by
  obtain ⟨target, -, done⟩ := Answer.bind_ok.1 done
  obtain ⟨window, bounded, done⟩ := Answer.bind_ok.1 done
  obtain ⟨status, -, done⟩ := Answer.bind_ok.1 done
  obtain ⟨-, done⟩ := Answer.after_ok.1 done
  obtain ⟨-, widened⟩ := Answer.after_ok.1 bounded
  cases widened
  cases done
  exact ⟨Window.widen_small w.start, Window.widen_small w.finish⟩

theorem ofStored_ok {s : Upkeep.Schedule} (narrow : s.Narrow) : ∃ w, ofStored s = .ok w := by
  have words : s.window.toWords = .ok (s.start.toUInt32, s.finish.toUInt32) := by
    unfold Window.toWords Upkeep.Schedule.window
    rw [Window.narrow_ok narrow.start, Window.narrow_ok narrow.finish]
    rfl
  obtain ⟨status, known⟩ := Status.exists_ofStored s.status
  exact ⟨_, Answer.bind_ok.2 ⟨_, words, Answer.bind_ok.2 ⟨status, known, rfl⟩⟩⟩

end Wire.Schedule
end Upkeep
