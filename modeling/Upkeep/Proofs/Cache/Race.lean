import Upkeep.Proofs.Cache.Timeline
import Upkeep.Proofs.Cache.Traffic

/-! Reads and writes that race for a cache in memory. A read visits the cache and loads from the inventory as
it stands then; a write is committed, and later the cache is told of it. Moves of all reads and writes come
in any order. -/
namespace Upkeep

/-- Visits of a cache begin at a moment, and what they load is marked with the moment. -/
structure Race extends Timeline, Traffic

namespace Race

inductive Move where
  /-- A new read looks in the cache. -/
  | look (now : Nat) (tenant : String) (q : Inquiry)
  | proceed (now i : Nat)
  | commit (order : Order)
  | tell (j : Nat)
  /-- Something else happens to the inventory. -/
  | alter (inventory : Inventory)

def tell (j : Nat) (w : Write) (s : Race) : Race :=
  { s with
    toTimeline := s.toTimeline.tell j w
    memory := s.memory.invalidate w.tenant w.id w.change }

/-- A move that cannot be made changes nothing. -/
def act (limits : CacheLimits) (s : Race) : Move → Race
  | .look now tenant q => { s with toTraffic := s.toTraffic.look limits now s.moment tenant q }
  | .proceed now i => { s with toTraffic := s.toTraffic.proceed limits now i s.moment s.inventory.answer }
  | .commit order => { s with toTimeline := s.toTimeline.commit order }
  | .tell j =>
    match s.writes[j]? with
    | some w => if w.told = none then s.tell j w else s
    | none => s
  | .alter inventory => { s with inventory }

def tick (before : Inventory) (s : Race) : Race :=
  { s with toTimeline := s.toTimeline.tick before }

def step (limits : CacheLimits) (s : Race) (move : Move) : Race :=
  (s.act limits move).tick s.inventory

def run (limits : CacheLimits) (s : Race) (moves : List Move) : Race := moves.foldl (step limits) s

theorem act_cases (limits : CacheLimits) (s : Race) (move : Move) :
    s.Quiet (s.act limits move).toTimeline ∨
      ∃ j w, (s.act limits move).toTimeline = s.toTimeline.tell j w := by
  have idle := Timeline.Quiet.refl s.toTimeline
  cases move with
  | look now tenant q => exact Or.inl idle
  | proceed now i => exact Or.inl idle
  | commit order => exact Or.inl (Timeline.quiet_commit order)
  | tell j =>
      unfold act
      dsimp only
      split
      · next w found =>
        split
        · exact Or.inr ⟨j, w, rfl⟩
        · exact Or.inl idle
      · exact Or.inl idle
  | alter inventory => exact Or.inl (Timeline.quiet_alter inventory)

theorem next_step (limits : CacheLimits) (s : Race) (move : Move) :
    s.Next (s.step limits move).toTimeline :=
  ⟨_, act_cases limits s move, rfl⟩

/-- A read that is left alone is answered as a deployment answers, and leaves the same cache. -/
theorem read_alone {s : Race} {limits : CacheLimits} {d : Deployment} {ctx : Context} {tenant : String}
    (cached : d.cache = .memory limits s.memory)
    (same : d.inventory = s.inventory) (admitted : d.caller ctx = .ok tenant) (q : Inquiry) :
    let next : Move := .proceed d.now s.visits.length
    let t := s.run limits [.look d.now tenant q, next, next, next]
    ∃ stage, t.visits = s.visits ++ [⟨tenant, q, s.moment, stage⟩] ∧
      stage.answer? = some ((Deployment.seek ctx tenant q).result d).1 ∧
      ((Deployment.seek ctx tenant q).result d).2 = { d with cache := .memory limits t.memory } := by
  -- The inventory stays as it is, for nobody else makes a move.
  rcases d with ⟨inventory, ids, now, cache, cancelled⟩
  cases same
  exact Traffic.look_alone limits cached admitted q s.moment _ _ _

end Race
end Upkeep
