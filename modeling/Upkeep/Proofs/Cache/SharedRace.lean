import Upkeep.Proofs.Cache.Shared
import Upkeep.Proofs.Cache.Timeline

/-! Reads and writes of any number of services that race for one shared cache. A read is three
commands to the server and a load from the inventory, a write is a commit and two commands; they
come in any order, and the server may refuse any command and lose any entry. -/
namespace Upkeep

structure Conditions where
  now : Nat
  failing : List String := []

/-- How far a read has come. It has no generation where the server did not tell it. -/
inductive Fetch.Stage (α : Type) where
  | keyed (g : UInt64)
  | missed (g : Option UInt64)
  | loaded (g : Option UInt64) (a : α)
  | done (a : α)
  | failed (e : Failure)

namespace Fetch.Stage
variable {α : Type}

def asked : Option UInt64 → Fetch.Stage α
  | some g => .keyed g
  | none => .missed none

def looked (g : UInt64) : Option α → Fetch.Stage α
  | some a => .done a
  | none => .missed (some g)

def answered (g : Option UInt64) : Answer α → Fetch.Stage α
  | .ok a => .loaded g a
  | .error e => .failed e

end Fetch.Stage

structure Fetch where
  tenant : String
  inquiry : Inquiry
  began : Nat
  stage : Fetch.Stage inquiry.Item

/-- The service lets no write through whose ID is no ID of a schedule. -/
def Order.isValid : Order → Bool
  | .create .. => true
  | .update _ _ id .. => Kind.schedule.isId id
  | .delete _ id => Kind.schedule.isId id

structure SharedRace extends Timeline where
  server : Server := {}
  fetches : List Fetch := []

namespace SharedRace

inductive Move where
  /-- A new read asks for the tenant's generation. -/
  | ask (at_ : Conditions) (tenant : String) (q : Inquiry)
  | proceed (at_ : Conditions) (i : Nat)
  | commit (order : Order)
  /-- The generation is raised for a write. -/
  | raise (at_ : Conditions) (j : Nat)
  /-- The entry is dropped that a write has left behind. -/
  | drop (at_ : Conditions) (j : Nat)
  /-- The server loses an entry. -/
  | expire (tenant : String) (g : UInt64) (q : Inquiry)
  /-- Something else happens to the inventory. -/
  | alter (inventory : Inventory)

def put (s : SharedRace) (i : Nat) (f : Fetch) : SharedRace := { s with fetches := s.fetches.set i f }

def serverAt (at_ : Conditions) (s : SharedRace) : Server := { s.server with failing := at_.failing }

def ask (set : SharedSettings) (at_ : Conditions) (tenant : String) (q : Inquiry) (s : SharedRace) :
    SharedRace :=
  let reply := Shared.generation set at_.now tenant (s.serverAt at_)
  { s with server := reply.2, fetches := s.fetches ++ [⟨tenant, q, s.moment, .asked reply.1⟩] }

def look (set : SharedSettings) (at_ : Conditions) (i : Nat) (f : Fetch) (g : UInt64) (s : SharedRace) :
    SharedRace :=
  let reply := Shared.entry f.inquiry.ofJson? at_.now (f.inquiry.key set.stem f.tenant g)
    (s.serverAt at_)
  { s with server := reply.2 }.put i { f with stage := .looked g reply.1 }

def load (i : Nat) (f : Fetch) (g : Option UInt64) (s : SharedRace) : SharedRace :=
  s.put i { f with stage := .answered g (s.inventory.answer f.tenant f.inquiry) }

def keep (set : SharedSettings) (at_ : Conditions) (i : Nat) (f : Fetch) (g : UInt64)
    (a : f.inquiry.Item) (s : SharedRace) : SharedRace :=
  let server := Shared.keep set at_.now (f.inquiry.key set.stem f.tenant g) (f.inquiry.json a)
    (s.serverAt at_)
  { s with server }.put i { f with stage := .done a }

def proceed (set : SharedSettings) (at_ : Conditions) (i : Nat) (f : Fetch) (s : SharedRace) :
    SharedRace :=
  match f.stage with
  | .keyed g => s.look set at_ i f g
  | .missed g => s.load i f g
  | .loaded (some g) a => s.keep set at_ i f g a
  | .loaded none a => s.put i { f with stage := .done a }
  | .done _ => s
  | .failed _ => s

/-- The cache is told of the write if the server raises the generation. -/
def raise (set : SharedSettings) (at_ : Conditions) (j : Nat) (w : Write) (s : SharedRace) :
    SharedRace :=
  match (s.serverAt at_).increment at_.now (Shared.generationKey set.stem w.tenant) with
  | (.ok _, server) => { s with toTimeline := s.toTimeline.tell j w, server }
  | (.error _, server) => { s with server }

def drop (set : SharedSettings) (at_ : Conditions) (w : Write) (s : SharedRace) : SharedRace :=
  let key := Shared.scheduleKey set.stem w.tenant (UInt64.ofNat (w.rank - 1)) w.id
  { s with server := ((s.serverAt at_).delete key).2 }

def expire (key : String) (s : SharedRace) : SharedRace :=
  { s with server := { s.server with cells := s.server.cells.erase key } }

/-- A move that cannot be made changes nothing. -/
def act (set : SharedSettings) (s : SharedRace) : Move → SharedRace
  | .ask at_ tenant q => if q.isValid then s.ask set at_ tenant q else s
  | .proceed at_ i =>
    match s.fetches[i]? with
    | some f => s.proceed set at_ i f
    | none => s
  | .commit order => if order.isValid then { s with toTimeline := s.toTimeline.commit order } else s
  | .raise at_ j =>
    match s.writes[j]? with
    | some w => if w.told = none then s.raise set at_ j w else s
    | none => s
  | .drop at_ j =>
    match s.writes[j]? with
    | some w => if w.told ≠ none ∧ w.change.dropsEntry then s.drop set at_ w else s
    | none => s
  | .expire tenant g q => if q.isValid then s.expire (q.key set.stem tenant g) else s
  | .alter inventory => { s with inventory }

def tick (before : Inventory) (s : SharedRace) : SharedRace :=
  { s with toTimeline := s.toTimeline.tick before }

def step (set : SharedSettings) (s : SharedRace) (move : Move) : SharedRace :=
  (s.act set move).tick s.inventory

def run (set : SharedSettings) (s : SharedRace) (moves : List Move) : SharedRace :=
  moves.foldl (step set) s

theorem timeline_proceed (set : SharedSettings) (at_ : Conditions) (i : Nat) (f : Fetch)
    (s : SharedRace) :
    (s.proceed set at_ i f).toTimeline = s.toTimeline := by
  unfold proceed
  split <;> rfl

theorem timeline_raise (set : SharedSettings) (at_ : Conditions) (j : Nat) (w : Write)
    (s : SharedRace) :
    (s.raise set at_ j w).toTimeline = s.toTimeline ∨
      (s.raise set at_ j w).toTimeline = s.toTimeline.tell j w := by
  unfold raise
  split
  · exact Or.inr rfl
  · exact Or.inl rfl

inductive Acted (set : SharedSettings) (s : SharedRace) : SharedRace → Prop
  | idle : Acted set s s
  | ask {at_ tenant} {q : Inquiry} : q.isValid = true → Acted set s (s.ask set at_ tenant q)
  | proceed {at_ i f} : f ∈ s.fetches → Acted set s (s.proceed set at_ i f)
  | commit {order : Order} : order.isValid = true →
      Acted set s { s with toTimeline := s.toTimeline.commit order }
  | raise {at_ j w} : w ∈ s.writes → Acted set s (s.raise set at_ j w)
  | drop {at_ w} : w ∈ s.writes → w.change.dropsEntry = true → Acted set s (s.drop set at_ w)
  | expire {tenant g} {q : Inquiry} : q.isValid = true →
      Acted set s (s.expire (q.key set.stem tenant g))
  | alter {inventory} : Acted set s { s with inventory }

theorem acted (set : SharedSettings) (s : SharedRace) (move : Move) : Acted set s (s.act set move) := by
  cases move with
  | ask at_ tenant q =>
      unfold act
      dsimp only
      split
      · next valid => exact .ask valid
      · exact .idle
  | proceed at_ i =>
      unfold act
      dsimp only
      split
      · next f found => exact .proceed (List.mem_of_getElem? found)
      · exact .idle
  | commit order =>
      unfold act
      dsimp only
      split
      · next valid => exact .commit valid
      · exact .idle
  | raise at_ j =>
      unfold act
      dsimp only
      split
      · next w found =>
        split
        · exact .raise (List.mem_of_getElem? found)
        · exact .idle
      · exact .idle
  | drop at_ j =>
      unfold act
      dsimp only
      split
      · next w found =>
        split
        · next drops => exact .drop (List.mem_of_getElem? found) drops.2
        · exact .idle
      · exact .idle
  | expire tenant g q =>
      unfold act
      dsimp only
      split
      · next valid => exact .expire valid
      · exact .idle
  | alter inventory => exact .alter

theorem Acted.timeline {set : SharedSettings} {s t : SharedRace} (h : Acted set s t) :
    s.Quiet t.toTimeline ∨ ∃ j w, t.toTimeline = s.toTimeline.tell j w := by
  have idle := Timeline.Quiet.refl s.toTimeline
  cases h with
  | idle => exact Or.inl idle
  | ask valid => exact Or.inl idle
  | proceed member =>
      rw [timeline_proceed]
      exact Or.inl idle
  | commit valid => exact Or.inl (Timeline.quiet_commit _)
  | @raise at_ j w made =>
      rcases timeline_raise set at_ j w s with refused | raised
      · rw [refused]
        exact Or.inl idle
      · exact Or.inr ⟨j, w, raised⟩
  | drop made drops => exact Or.inl idle
  | expire valid => exact Or.inl idle
  | alter => exact Or.inl (Timeline.quiet_alter _)

theorem next_step (set : SharedSettings) (s : SharedRace) (move : Move) :
    s.Next (s.step set move).toTimeline :=
  ⟨_, (acted set s move).timeline, rfl⟩

end SharedRace
end Upkeep
