import Upkeep.Filter.Parser

/-! The grammar of the filter language, and that a sentence of it is read as the expression it
stands for. NOT binds tighter than AND, and AND tighter than OR. -/
namespace Upkeep.Filter

/-- What a run of words can be a part of without parentheses around it. -/
inductive Rank where
  | operand
  | conjunction
  | disjunction

def Value.word : Value → Token
  | .text s => .text s
  | .number n => .number n

/-- The words of each rank, with the expressions that they stand for. -/
inductive Sentence : Rank → List Token → Expr → Prop where
  | compare {path : String} (op : Comparison) (v : Value)
      (plain : Text.sameWord path "NOT" = false) :
      Sentence .operand [.ident path, .op op, v.word] (.compare path op v)
  | has {name : String} (path : String) (keyword : Text.sameWord name "has" = true) :
      Sentence .operand [.ident name, .leftParen, .ident path, .rightParen] (.has path)
  | not {t : Token} {ts : List Token} {e : Expr} (keyword : isKeyword "NOT" t = true)
      (inner : Sentence .operand ts e) : Sentence .operand (t :: ts) (.not e)
  | parens {ts : List Token} {e : Expr} (inner : Sentence .disjunction ts e) :
      Sentence .operand (.leftParen :: (ts ++ [.rightParen])) e
  | operand {ts : List Token} {e : Expr} (alone : Sentence .operand ts e) :
      Sentence .conjunction ts e
  | and {t : Token} {ts us : List Token} {l r : Expr} (left : Sentence .conjunction ts l)
      (keyword : isKeyword "AND" t = true) (right : Sentence .operand us r) :
      Sentence .conjunction (ts ++ t :: us) (.and l r)
  | conjunction {ts : List Token} {e : Expr} (alone : Sentence .conjunction ts e) :
      Sentence .disjunction ts e
  | or {t : Token} {ts us : List Token} {l r : Expr} (left : Sentence .disjunction ts l)
      (keyword : isKeyword "OR" t = true) (right : Sentence .conjunction us r) :
      Sentence .disjunction (ts ++ t :: us) (.or l r)

theorem sameWord_other {name a b : String} (same : Text.sameWord name a = true)
    (different : Text.sameWord a b = false) : Text.sameWord name b = false := by
  unfold Text.sameWord at *
  rw [beq_iff_eq] at same
  rw [same, different]

theorem isKeyword_ident {t : Token} {keyword : String} (is : isKeyword keyword t = true) :
    ∃ name, t = .ident name ∧ Text.sameWord name keyword = true := by
  cases t with
  | ident name => exact ⟨name, rfl, is⟩
  | _ => cases is

theorem isKeyword_other {t : Token} {a b : String} (is : isKeyword a t = true)
    (different : Text.sameWord a b = false) : isKeyword b t = false := by
  obtain ⟨name, rfl, same⟩ := isKeyword_ident is
  exact sameWord_other same different

theorem afterKeyword?_is {keyword : String} {t : Token} (is : isKeyword keyword t = true)
    (ts : List Token) : afterKeyword? keyword (t :: ts) = some ts :=
  if_pos is

theorem afterKeyword?_not {keyword : String} {t : Token} (not : isKeyword keyword t = false)
    (ts : List Token) : afterKeyword? keyword (t :: ts) = none := by
  simp only [afterKeyword?, not, Bool.false_eq_true, if_false]

section Chain
variable {keyword : String} {join : Expr → Expr → Expr} {p : Parse} {l r : Expr} {n : Nat}
  {ts rest : List Token} {t : Token}

theorem chain_stop (stop : afterKeyword? keyword ts = none) : chain keyword join p n l ts = .ok (l, ts) := by
  cases n with
  | zero => rfl
  | succ n => rw [chain, stop]

theorem chain_step (is : isKeyword keyword t = true) (right : p ts = .ok (r, rest)) :
    chain keyword join p (n + 1) l (t :: ts) = chain keyword join p n (join l r) rest := by
  rw [chain, afterKeyword?_is is]
  dsimp only
  rw [right]
  rfl

/-- A chain that can go on for all the words that are left takes one more operand, and can still
go on for the words after it. -/
theorem chain_more {us : List Token} (is : isKeyword keyword t = true)
    (right : p (us ++ rest) = .ok (r, rest)) (enough : (t :: (us ++ rest)).length ≤ n) :
    ∃ m, rest.length ≤ m ∧
      chain keyword join p n l (t :: (us ++ rest)) = chain keyword join p m (join l r) rest := by
  rw [List.length_cons, List.length_append] at enough
  obtain ⟨m, rfl⟩ : ∃ m, n = m + 1 := ⟨n - 1, by omega⟩
  exact ⟨m, by omega, chain_step is right⟩

end Chain

/-- What the reader of a rank does where words of the rank stand first: operands are taken as a
whole, and of the other ranks the reader is left with the chain to go on with. -/
def Rank.Reads : Rank → List Token → Expr → Prop
  | .operand, ts, e => ∀ depth rest, ts.length < depth →
      Filter.operand depth (ts ++ rest) = .ok (e, rest)
  | .conjunction, ts, e => ∀ depth rest, ts.length < depth → ∃ n, rest.length ≤ n ∧
      Filter.conjunction (Filter.operand depth) (ts ++ rest) =
        chain "AND" .and (Filter.operand depth) n e rest
  | .disjunction, ts, e => ∀ depth rest, ts.length < depth → afterKeyword? "AND" rest = none →
      ∃ n, rest.length ≤ n ∧
        Filter.disjunction (Filter.operand depth) (ts ++ rest) =
          chain "OR" .or (Filter.conjunction (Filter.operand depth)) n e rest

/-- An operand has a word at least, so there is depth to read it. -/
theorem reads_operand {ts : List Token} {e : Expr}
    (read : ∀ depth rest, ts.length ≤ depth →
      Filter.operand (depth + 1) (ts ++ rest) = .ok (e, rest)) : Rank.operand.Reads ts e := by
  intro depth rest deep
  obtain ⟨depth, rfl⟩ : ∃ k, depth = k + 1 := ⟨depth - 1, by omega⟩
  exact read depth rest (Nat.le_of_lt_succ deep)

theorem Sentence.reads {rank : Rank} {ts : List Token} {e : Expr} (s : Sentence rank ts e) :
    rank.Reads ts e := by
  induction s with
  | compare op v plain =>
      apply reads_operand
      intro depth rest _
      simp only [List.cons_append, List.nil_append, Filter.operand, plain, Bool.false_eq_true, if_false]
      cases v <;> rfl
  | has path keyword =>
      apply reads_operand
      intro depth rest _
      have plain := sameWord_other keyword (b := "NOT") (by decide)
      simp only [List.cons_append, List.nil_append, Filter.operand, plain, Bool.false_eq_true,
        if_false, named, keyword, if_true]
      rfl
  | not keyword _ ih =>
      apply reads_operand
      intro depth rest deep
      obtain ⟨name, rfl, same⟩ := isKeyword_ident keyword
      rw [List.cons_append, Filter.operand, if_pos same, ih depth rest deep]
      rfl
  | parens _ ih =>
      apply reads_operand
      intro depth rest deep
      rw [List.length_cons, List.length_append] at deep
      obtain ⟨n, -, read⟩ := ih depth (.rightParen :: rest) (by omega) rfl
      rw [List.cons_append, List.append_assoc, List.singleton_append, Filter.operand, read,
        chain_stop rfl]
      rfl
  | operand _ ih =>
      intro depth rest deep
      refine ⟨rest.length, Nat.le_refl _, ?_⟩
      unfold Filter.conjunction
      rw [ih depth rest deep]
      rfl
  | @and t ts us l r _ keyword _ ihl ihr =>
      intro depth rest deep
      rw [List.length_append, List.length_cons] at deep
      obtain ⟨n, enough, read⟩ := ihl depth (t :: (us ++ rest)) (by omega)
      rw [List.append_assoc, List.cons_append, read]
      exact chain_more keyword (ihr depth rest (by omega)) enough
  | conjunction _ ih =>
      intro depth rest deep stop
      refine ⟨rest.length, Nat.le_refl _, ?_⟩
      obtain ⟨n, -, read⟩ := ih depth rest deep
      unfold Filter.disjunction
      rw [read, chain_stop stop]
      rfl
  | @or t ts us l r _ keyword _ ihl ihr =>
      intro depth rest deep stop
      rw [List.length_append, List.length_cons] at deep
      have other : afterKeyword? "AND" (t :: (us ++ rest)) = none :=
        afterKeyword?_not (isKeyword_other keyword (by decide)) _
      obtain ⟨n, enough, read⟩ := ihl depth (t :: (us ++ rest)) (by omega) other
      -- What the last conjunction leaves begins with no AND, so its own chain ends there.
      obtain ⟨k, -, last⟩ := ihr depth rest (by omega)
      rw [chain_stop stop] at last
      rw [List.append_assoc, List.cons_append, read]
      exact chain_more keyword last enough

/-- A sentence is read as the expression that it stands for. -/
theorem Sentence.read {ts : List Token} {e : Expr} (s : Sentence .disjunction ts e) :
    sentence ts = .ok e := by
  obtain ⟨n, -, read⟩ := s.reads (ts.length + 1) [] (Nat.lt_succ_self _) rfl
  rw [List.append_nil, chain_stop rfl] at read
  unfold sentence
  rw [read]
  rfl

theorem Sentence.ne_nil {rank : Rank} {ts : List Token} {e : Expr} (s : Sentence rank ts e) :
    ts ≠ [] := by
  induction s with
  | operand _ ih | conjunction _ ih => exact ih
  | _ => simp

end Upkeep.Filter
