import Upkeep.Failure

/-! Actions: what is done with a state and may fail. A failed action may have changed the
state all the same. -/
namespace Upkeep

abbrev Action (σ : Type) := ExceptT Failure (StateM σ)

namespace Action
variable {σ α β : Type}

/-- An action from what it does to a state. -/
def of (f : σ → Answer α × σ) : Action σ α := f

/-- The answer in a state, and the state after it. -/
def result (a : Action σ α) (s : σ) : Answer α × σ := a s

/-- An answer that is there already. -/
def answer (a : Answer α) : Action σ α := fun s => (a, s)

def change (f : σ → σ) : Action σ Unit := fun s => (.ok (), f s)

/-- Names the operation in which the action fails. -/
def during (operation : String) (a : Action σ α) : Action σ α := fun s =>
  let (r, s) := a.result s
  (r.during operation, s)

end Action

/-- What a cache knows: the value, or a ticket with which the value can be handed in later. -/
inductive Consulted (α τ : Type) where
  | hit (value : α)
  | miss (ticket : τ)

/-- Answers from a cache, or else loads the value and hands it in. -/
def Action.readThrough {σ α τ : Type} (consult : σ → Consulted α τ × σ) (load : Action σ α)
    (take : τ → α → σ → σ) : Action σ α := fun s =>
  match consult s with
  | (.hit a, s) => (.ok a, s)
  | (.miss ticket, s) =>
    match load.result s with
    | (.ok a, s) => (.ok a, take ticket a s)
    | (.error e, s) => (.error e, s)

end Upkeep
