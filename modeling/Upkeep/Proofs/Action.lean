import Upkeep.Action

/-! Running actions. Each way to put actions together has one equation for its result, and
all proofs about what an action does go through these. Two actions on states of different
kinds are alike if, from related states, they give the same answer and end in related ones. -/
namespace Upkeep.Action
variable {σ τ α β : Type}

@[simp] theorem result_pure (a : α) (s : σ) : (pure a : Action σ α).result s = (.ok a, s) := rfl

@[simp] theorem result_of (f : σ → Answer α × σ) (s : σ) : (Action.of f).result s = f s := rfl

@[simp] theorem result_answer (a : Answer α) (s : σ) : (answer a : Action σ α).result s = (a, s) := rfl

@[simp] theorem result_change (f : σ → σ) (s : σ) : (change f).result s = (.ok (), f s) := rfl

theorem result_bind (a : Action σ α) (f : α → Action σ β) (s : σ) :
    (a >>= f).result s = match a.result s with
      | (.ok x, s) => (f x).result s
      | (.error e, s) => (.error e, s) := by
  change (match a s with | (r, s) => ExceptT.bindCont f r s) = _
  unfold result
  rcases a s with ⟨e | x, s⟩
  · rfl
  · rfl

theorem result_map (f : α → β) (a : Action σ α) (s : σ) :
    (f <$> a).result s = (f <$> (a.result s).1, (a.result s).2) := by
  rw [show f <$> a = a >>= fun x => pure (f x) from rfl, result_bind]
  rcases a.result s with ⟨e | x, t⟩
  · rfl
  · rfl

theorem result_map_ok {f : α → β} {a : Action σ α} {s t : σ} {x : α} (done : a.result s = (.ok x, t)) :
    (f <$> a).result s = (.ok (f x), t) := by
  rw [result_map, done]
  rfl

@[simp] theorem result_during (operation : String) (a : Action σ α) (s : σ) :
    (during operation a).result s = ((a.result s).1.during operation, (a.result s).2) := rfl

theorem during_answer (operation : String) (a : Answer α) :
    (during operation (answer a) : Action σ α) = answer (a.during operation) := rfl

theorem answer_pure (x : α) : (answer (pure x) : Action σ α) = pure x := rfl

theorem answer_bind (a : Answer α) (f : α → Answer β) :
    (answer (a >>= f) : Action σ β) = answer a >>= fun x => answer (f x) := by
  cases a with
  | error e => rfl
  | ok x => rfl

theorem readThrough_hit {consult : σ → Consulted α β × σ} {load : Action σ α} {take : β → α → σ → σ}
    {s t : σ} {a : α} (known : consult s = (.hit a, t)) :
    (readThrough consult load take).result s = (.ok a, t) := by
  unfold readThrough result
  dsimp only
  rw [known]

theorem readThrough_miss {consult : σ → Consulted α β × σ} {load : Action σ α} {take : β → α → σ → σ}
    {s t : σ} {ticket : β} (unknown : consult s = (.miss ticket, t)) :
    (readThrough consult load take).result s = match load.result t with
      | (.ok a, t) => (.ok a, take ticket a t)
      | (.error e, t) => (.error e, t) := by
  unfold readThrough result
  dsimp only
  rw [unknown]
  rfl

/-- Two runs have ended with the same answer, a value in states related by `Q`, a failure in
states related by `R`. -/
inductive Ends (R : σ → τ → Prop) (Q : α → σ → τ → Prop) : Answer α × σ → Answer α × τ → Prop
  | ok {x s t} : Q x s t → Ends R Q (.ok x, s) (.ok x, t)
  | error {e s t} : R s t → Ends R Q (.error e, s) (.error e, t)

theorem Ends.same {R : σ → τ → Prop} {Q : α → σ → τ → Prop} {u : Answer α × σ} {v : Answer α × τ}
    (h : Ends R Q u v) : u.1 = v.1 := by
  cases h with
  | ok post => rfl
  | error back => rfl

theorem Ends.related {R : σ → τ → Prop} {u : Answer α × σ} {v : Answer α × τ}
    (h : Ends R (fun _ => R) u v) : R u.2 v.2 := by
  cases h with
  | ok post => exact post
  | error back => exact back

theorem Ends.of_same {R : σ → τ → Prop} {u : Answer α × σ} {v : Answer α × τ} (same : u.1 = v.1)
    (related : R u.2 v.2) : Ends R (fun _ => R) u v := by
  obtain ⟨a, s⟩ := u
  obtain ⟨_, t⟩ := v
  cases same
  cases a with
  | ok x => exact .ok related
  | error e => exact .error related

/-- From states related by `P`, both actions end alike. -/
def Alike (R P : σ → τ → Prop) (a : Action σ α) (b : Action τ α) (Q : α → σ → τ → Prop) : Prop :=
  ∀ s t, P s t → Ends R Q (a.result s) (b.result t)

namespace Alike
variable {R P : σ → τ → Prop} {a : Action σ α} {b : Action τ α} {Q : α → σ → τ → Prop}

theorem bind {f : α → Action σ β} {g : α → Action τ β} {S : β → σ → τ → Prop}
    (first : Alike R P a b Q) (rest : ∀ x, Alike R (Q x) (f x) (g x) S) :
    Alike R P (a >>= f) (b >>= g) S := by
  intro s t related
  have ends := first s t related
  rw [result_bind, result_bind]
  generalize a.result s = left at ends ⊢
  generalize b.result t = right at ends ⊢
  cases ends with
  | ok post => exact rest _ _ _ post
  | error back => exact .error back

theorem post {S : α → σ → τ → Prop} (h : Alike R P a b Q) (weaker : ∀ x s t, Q x s t → S x s t) :
    Alike R P a b S := by
  intro s t related
  have ends := h s t related
  generalize a.result s = left at ends ⊢
  generalize b.result t = right at ends ⊢
  cases ends with
  | ok post => exact .ok (weaker _ _ _ post)
  | error back => exact .error back

/-- What is known of the answers of the first action is known of the answers of both. -/
theorem answers {F : α → Prop} (h : Alike R P a b Q) (known : ∀ s x, (a.result s).1 = .ok x → F x) :
    Alike R P a b fun x s t => F x ∧ Q x s t := by
  intro s t related
  have ends := h s t related
  have fact := known s
  generalize a.result s = left at ends fact ⊢
  generalize b.result t = right at ends ⊢
  cases ends with
  | ok post => exact .ok ⟨fact _ rfl, post⟩
  | error back => exact .error back

/-- An answer that is there already is part of what is known from then on. -/
theorem answer_bind {f : α → Action σ β} {g : α → Action τ β} {S : β → σ → τ → Prop} {x : Answer α}
    (rest : ∀ y, x = .ok y → Alike R R (f y) (g y) S) :
    Alike R R (answer x >>= f) (answer x >>= g) S := by
  intro s t related
  rw [result_bind, result_bind]
  cases x with
  | ok y => exact rest y rfl s t related
  | error e => exact .error related

theorem answer {x : Answer α} : Alike R R (Action.answer x) (Action.answer x) fun _ => R := by
  intro s t related
  cases x with
  | ok y => exact .ok related
  | error e => exact .error related

theorem during (operation : String) (h : Alike R P a b Q) :
    Alike R P (Action.during operation a) (Action.during operation b) Q := by
  intro s t related
  have ends := h s t related
  rw [result_during, result_during]
  generalize a.result s = left at ends ⊢
  generalize b.result t = right at ends ⊢
  cases ends with
  | ok post => exact .ok post
  | error back => exact .error back

/-- Caches that know the same, and load alike, answer alike. -/
theorem readThrough {ι : Type} {consult : σ → Consulted α ι × σ} {ask : τ → Consulted α ι × τ}
    {take : ι → α → σ → σ} {put : ι → α → τ → τ}
    (consulted : ∀ s t, P s t → (consult s).1 = (ask t).1 ∧ R (consult s).2 (ask t).2)
    (loaded : Alike R R a b fun _ => R)
    (taken : ∀ ticket x s t, R s t → R (take ticket x s) (put ticket x t)) :
    Alike R P (readThrough consult a take) (readThrough ask b put) fun _ => R := by
  intro s t related
  obtain ⟨same, between⟩ := consulted s t related
  rcases known : consult s with ⟨x | ticket, u⟩
  · rcases asked : ask t with ⟨y, v⟩
    rw [known, asked] at same between
    cases same
    rw [readThrough_hit known, readThrough_hit asked]
    exact .ok between
  · rcases asked : ask t with ⟨y, v⟩
    rw [known, asked] at same between
    cases same
    rw [readThrough_miss known, readThrough_miss asked]
    have ends := loaded u v between
    generalize a.result u = left at ends ⊢
    generalize b.result v = right at ends ⊢
    cases ends with
    | ok post => exact .ok (taken _ _ _ _ post)
    | error back => exact .error back

theorem change (f : σ → σ) (g : τ → τ) :
    Alike R (fun s t => P (f s) (g t)) (Action.change f) (Action.change g) fun _ => P :=
  fun _ _ related => .ok related

end Alike

/-- What holds before the action holds after it, whether it succeeds or fails. -/
def Keeps (P : σ → Prop) (a : Action σ α) : Prop := ∀ s, P s → P (a.result s).2

namespace Keeps
variable {P : σ → Prop} {a : Action σ α}

theorem bind {f : α → Action σ β} (first : Keeps P a) (rest : ∀ x, Keeps P (f x)) :
    Keeps P (a >>= f) := by
  intro s before
  have between := first s before
  rw [result_bind]
  generalize a.result s = ran at between ⊢
  rcases ran with ⟨e | x, t⟩
  · exact between
  · exact rest x t between

theorem answer {x : Answer α} : Keeps P (Action.answer x) := fun _ before => before

theorem answer_bind {x : Answer α} {f : α → Action σ β} (rest : ∀ y, x = .ok y → Keeps P (f y)) :
    Keeps P (Action.answer x >>= f) := by
  cases x with
  | ok y => exact rest y rfl
  | error e => exact fun _ before => before

theorem pure {x : α} : Keeps P (Pure.pure x) := fun _ before => before

theorem during (operation : String) (h : Keeps P a) : Keeps P (Action.during operation a) := h

theorem change {f : σ → σ} (h : ∀ s, P s → P (f s)) : Keeps P (Action.change f) := h

theorem readThrough {consult : σ → Consulted α β × σ} {take : β → α → σ → σ}
    (consulted : ∀ s, P s → P (consult s).2) (loaded : Keeps P a)
    (taken : ∀ ticket x s, P s → P (take ticket x s)) :
    Keeps P (Action.readThrough consult a take) := by
  intro s before
  have asked := consulted s before
  rcases known : consult s with ⟨x | ticket, t⟩
  · rw [known] at asked
    rw [readThrough_hit known]
    exact asked
  · rw [known] at asked
    have after := loaded t asked
    rw [readThrough_miss known]
    generalize a.result t = ran at after ⊢
    rcases ran with ⟨e | x, u⟩
    · exact after
    · exact taken ticket x u after

end Keeps

end Upkeep.Action
