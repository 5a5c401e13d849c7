import Upkeep.Proofs.Cache.Lasting

/-! A cache that is fresh holds nothing but what its inventory would answer. It stays fresh
under every change of a schedule that it is told of, and under changes of other resources,
of which it is never told. -/
namespace Upkeep

namespace Inventory
variable {inv next : Inventory} {tenant id : String} {c : Change} {q : Inquiry} {a : q.Item}

theorem schedule_ok {s : Schedule} (h : inv.schedule tenant id = .ok s) :
    ∃ kept, (inv.partition tenant).find? id = some (.schedule kept) := by
  obtain ⟨r, got, expected⟩ := Answer.bind_ok.1 h
  obtain ⟨kept, found, rfl⟩ := get_ok.1 got
  cases kept with
  | schedule kept => exact ⟨kept, found⟩
  | host h => cases expected
  | site s => cases expected
  | region r => cases expected

/-- What a change of a schedule cannot touch is answered as before. -/
theorem lasting_untouched
    (beside : Partition.Beside id (inv.partition tenant) (next.partition tenant))
    (new : c.dropsEntry = false → (inv.partition tenant).find? id = none)
    (untouched : ¬ q.Touched id c) (h : inv.answer tenant q = .ok a) :
    next.answer tenant q = .ok a := by
  cases q with
  | page key => exact absurd trivial untouched
  | one other =>
      by_cases same : other = id
      · subst same
        have kept : c.dropsEntry = false := by
          cases drops : c.dropsEntry with
          | false => rfl
          | true => exact absurd ⟨rfl, drops⟩ untouched
        obtain ⟨s, found⟩ := schedule_ok h
        rw [new kept] at found
        cases found
      · exact (schedule_beside beside same).trans h

/-- A change of a resource that is no schedule touches no answer. -/
theorem lasting_outside (ordered : (inv.partition tenant).Ordered)
    (beside : Partition.Beside id (inv.partition tenant) (next.partition tenant))
    (outside : ∀ r, (inv.partition tenant).find? id = some r → r.kind ≠ .schedule)
    (same : (next.partition tenant).values.filter (·.kind = .schedule) =
      (inv.partition tenant).values.filter (·.kind = .schedule))
    (h : inv.answer tenant q = .ok a) : next.answer tenant q = .ok a := by
  cases q with
  | page key => exact (page_beside ordered beside same key).trans h
  | one other =>
      obtain ⟨s, found⟩ := schedule_ok h
      have apart : other ≠ id := fun same => outside _ (same ▸ found) rfl
      exact (schedule_beside beside apart).trans h

end Inventory

namespace Memory
variable {m : Memory} {limits : CacheLimits} {now : Nat} {inv next : Inventory} {tenant id : String}
  {c : Change}

def Fresh (m : Memory) (inv : Inventory) : Prop :=
  ∀ tenant q a, m.Holds tenant q a → inv.answer tenant q = .ok a

theorem fresh_empty (inv : Inventory) : ({} : Memory).Fresh inv :=
  fun _ q a held => absurd held (not_holds_empty q a)

theorem Fresh.file (fresh : m.Fresh inv) {g : UInt64} {q : Inquiry} {a : q.Item}
    (loaded : inv.answer tenant q = .ok a) : (m.file limits now tenant g q a).Fresh inv := by
  intro other r b held
  rcases held_file held with ⟨-, rfl, new⟩ | ⟨-, old⟩
  · cases new
    exact loaded
  · exact fresh other r b old

theorem Fresh.lasting (fresh : m.Fresh inv)
    (others : ∀ other, other ≠ tenant → next.partition other = inv.partition other)
    (lasting : ∀ q a, inv.answer tenant q = .ok a → next.answer tenant q = .ok a) : m.Fresh next := by
  intro other q a held
  by_cases same : other = tenant
  · subst same
    exact lasting q a (fresh other q a held)
  · exact (Inventory.answer_congr (others other same) q).trans (fresh other q a held)

theorem Fresh.told (fresh : m.Fresh inv)
    (others : ∀ other, other ≠ tenant → next.partition other = inv.partition other)
    (beside : Partition.Beside id (inv.partition tenant) (next.partition tenant))
    (new : c.dropsEntry = false → (inv.partition tenant).find? id = none) :
    (m.invalidate tenant id c).Fresh next := by
  intro other q a held
  obtain ⟨old, untouched⟩ := held_invalidate held
  by_cases same : other = tenant
  · subst same
    exact Inventory.lasting_untouched beside new (untouched rfl) (fresh other q a old)
  · exact (Inventory.answer_congr (others other same) q).trans (fresh other q a old)

end Memory
end Upkeep
