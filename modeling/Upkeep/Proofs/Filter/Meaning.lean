import Mathlib.Data.List.Forall2
import Upkeep.Proofs.Filter.Grammar
import Upkeep.Proofs.Filter.Written

/-! Texts and the expressions that they mean. Texts that mean something can be put together by
the connectives, in parentheses where they have to be, and what is put together is read back
as the expressions put together. -/
namespace Upkeep.Filter

/-- A text whose words make an expression. -/
def Means (rank : Rank) (s : String) (e : Expr) : Prop :=
  ∃ ts, Sentence rank ts e ∧ Written ts s.toList

theorem parse_of_means {s : String} {e : Expr} (meant : Means .disjunction s e) : parse s = .ok e := by
  obtain ⟨ts, sentence, written⟩ := meant
  unfold parse Text.allBlank
  rw [written.not_blank sentence.ne_nil, if_neg Bool.false_ne_true, written.tokenize]
  exact sentence.read

namespace Means
variable {a b s : String} {l r e : Expr}

theorem alone (meant : Means .operand s e) : Means .conjunction s e :=
  meant.imp fun _ ⟨sentence, written⟩ => ⟨.operand sentence, written⟩

theorem conjunction (meant : Means .conjunction s e) : Means .disjunction s e :=
  meant.imp fun _ ⟨sentence, written⟩ => ⟨.conjunction sentence, written⟩

theorem separate_cons {c : Char} {cs : List Char} (separate : ∀ t : Token, t.growsBy c = false) :
    Separate (c :: cs) := by
  rintro _ ⟨rfl⟩ t
  exact separate t

theorem growsBy_blank (t : Token) : t.growsBy ' ' = false := by
  cases t with
  | op op => cases op <;> rfl
  | _ => rfl

theorem growsBy_rightParen (t : Token) : t.growsBy ')' = false := by
  cases t with
  | op op => cases op <;> rfl
  | _ => rfl

/-- A word between two blanks, and more words after it. -/
theorem written_spaced {t : Token} {ts : List Token} {w cs : List Char} (spelled : Spells t w)
    (rest : Written ts cs) : Written (t :: ts) (' ' :: (w ++ ' ' :: cs)) := by
  refine .blank rfl (.word spelled ?_ (.blank rfl rest))
  rintro _ ⟨rfl⟩
  exact growsBy_blank t

theorem written_joined {ts us : List Token} {t : Token} {w : String} (front : Written ts a.toList)
    (spelled : Spells t w.toList) (back : Written us b.toList) :
    Written (ts ++ t :: us) (a ++ (" " ++ w ++ " ") ++ b).toList := by
  have spaced := front.append (written_spaced spelled back) (separate_cons growsBy_blank)
  simpa [String.toList_append] using spaced

theorem and (left : Means .conjunction a l) (right : Means .operand b r) :
    Means .conjunction (a ++ " AND " ++ b) (.and l r) := by
  obtain ⟨ts, before, front⟩ := left
  obtain ⟨us, after, back⟩ := right
  have keyword : Spells (.ident "AND") "AND".toList := .ident (by decide)
  have spaced : " AND " = " " ++ "AND" ++ " " := by decide
  rw [spaced]
  exact ⟨_, before.and (by decide) after, written_joined front keyword back⟩

theorem or (left : Means .disjunction a l) (right : Means .conjunction b r) :
    Means .disjunction (a ++ " OR " ++ b) (.or l r) := by
  obtain ⟨ts, before, front⟩ := left
  obtain ⟨us, after, back⟩ := right
  have keyword : Spells (.ident "OR") "OR".toList := .ident (by decide)
  have spaced : " OR " = " " ++ "OR" ++ " " := by decide
  rw [spaced]
  exact ⟨_, before.or (by decide) after, written_joined front keyword back⟩

theorem parens (meant : Means .disjunction s e) : Means .operand ("(" ++ s ++ ")") e := by
  obtain ⟨ts, sentence, written⟩ := meant
  have closed := written.append (.one .rightParen) (separate_cons growsBy_rightParen)
  refine ⟨_, sentence.parens, ?_⟩
  rw [String.toList_append, String.toList_append, List.append_assoc]
  exact .word .leftParen (fun _ _ => rfl) closed

theorem compare {path w : String} (op : Comparison) {v : Value} (name : Spells (.ident path) path.toList)
    (plain : Text.sameWord path "NOT" = false) (value : Spells v.word w.toList) :
    Means .operand (path ++ (" " ++ op.symbol ++ " ") ++ w) (.compare path op v) :=
  ⟨_, .compare op v plain, written_joined (.one name) (.op op) (.one value)⟩

theorem intercalate_merge (sep a b : String) (ss : List String) :
    sep.intercalate (a :: b :: ss) = sep.intercalate ((a ++ sep ++ b) :: ss) := by
  rw [String.intercalate_cons_append, String.intercalate_cons_cons]

/-- Where two texts can be joined, so can any number of them; the expressions are joined from
the left. -/
theorem chain {rank inner : Rank} {sep : String} {join : Expr → Expr → Expr}
    (two : ∀ {a b l r}, Means rank a l → Means inner b r → Means rank (a ++ sep ++ b) (join l r))
    {ss : List String} {es : List Expr} (rest : List.Forall₂ (Means inner) ss es) :
    ∀ {a l}, Means rank a l → Means rank (sep.intercalate (a :: ss)) (es.foldl join l) := by
  induction rest with
  | nil =>
      intro a l first
      rwa [String.intercalate_singleton]
  | cons next _ ih =>
      intro a l first
      rw [intercalate_merge]
      exact ih (two first next)

end Means

/-- Expressions that one connective joins, where there are any. -/
def joined (join : Expr → Expr → Expr) : List Expr → Option Expr
  | [] => none
  | e :: es => some (es.foldl join e)

/-- A last text that is itself two texts joined counts as the two. -/
theorem intercalate_last (sep a b : String) (ss : List String) :
    sep.intercalate (ss ++ [a ++ sep ++ b]) = sep.intercalate (ss ++ [a, b]) := by
  induction ss with
  | nil => rw [List.nil_append, List.nil_append, ← Means.intercalate_merge]
  | cons s ss ih =>
      cases ss with
      | nil => simp only [List.cons_append, List.nil_append, String.intercalate_cons_cons, String.intercalate_singleton]
      | cons t ss =>
          simp only [List.cons_append, String.intercalate_cons_cons] at ih ⊢
          rw [ih]

/-- Texts of which each means something, joined by AND. -/
theorem Means.conjoined {ss : List String} {es : List Expr}
    (each : List.Forall₂ (Means .operand) ss es) :
    (ss = [] ∧ joined .and es = none) ∨
      ∃ e, joined .and es = some e ∧ Means .disjunction (" AND ".intercalate ss) e := by
  cases each with
  | nil => exact .inl ⟨rfl, rfl⟩
  | cons first rest => exact .inr ⟨_, rfl, (chain and rest first.alone).conjunction⟩

theorem holds_le (n m : UInt64) :
    Comparison.le.holds (if n = m then .eq else if n < m then .lt else .gt) = decide (n ≤ m) := by
  split
  · next same => simp [Comparison.holds, same]
  · split
    · next less => simp [Comparison.holds, UInt64.le_of_lt less]
    · simp only [Comparison.holds]
      grind

theorem holds_gt (n m : UInt64) :
    Comparison.gt.holds (if n = m then .eq else if n < m then .lt else .gt) = decide (m < n) := by
  split
  · next same => simp [Comparison.holds, same]
  · split
    · simp only [Comparison.holds]
      grind
    · simp only [Comparison.holds]
      grind

theorem holds_eq {p q : Prop} [Decidable p] [Decidable q] :
    Comparison.eq.holds (if p then .eq else if q then .lt else .gt) = decide p := by
  by_cases same : p
  · simp [Comparison.holds, same]
  · by_cases less : q <;> simp [Comparison.holds, same, less]

/-- What expressions come to for the fields of one resource, none of them failing. -/
def Judged (field : String → Field) : List Expr → List Bool → Prop :=
  List.Forall₂ fun e b => e.eval field = .ok b

section Judged
variable {field : String → Field} {path : String} {es : List Expr} {bs : List Bool} {l r e : Expr} {x y : Bool}

theorem eval_text {a : String} (known : field path = Field.value (.text a)) (op : Comparison) (b : String) :
    (Expr.compare path op (.text b)).eval field =
      .ok (op.holds (if a = b then .eq else if a < b then .lt else .gt)) := by
  rw [Expr.eval, known]
  rfl

theorem eval_number {n : UInt64} (known : field path = Field.value (.number n)) (op : Comparison) (m : UInt64) :
    (Expr.compare path op (.number m)).eval field =
      .ok (op.holds (if n = m then .eq else if n < m then .lt else .gt)) := by
  rw [Expr.eval, known]
  rfl

theorem eval_unset (known : field path = .unset) (op : Comparison) (v : Value) :
    (Expr.compare path op v).eval field = .ok (op == .ne) := by
  rw [Expr.eval, known]

theorem eval_or (left : l.eval field = .ok x) (right : r.eval field = .ok y) :
    (Expr.or l r).eval field = .ok (x || y) := by
  rw [Expr.eval, left, right]
  cases x <;> rfl

theorem eval_and (left : l.eval field = .ok x) (right : r.eval field = .ok y) :
    (Expr.and l r).eval field = .ok (x && y) := by
  rw [Expr.eval, left, right]
  cases x <;> rfl

theorem Judged.foldl_or (judged : Judged field es bs) :
    ∀ {l : Expr} {x : Bool}, l.eval field = .ok x → (es.foldl .or l).eval field = .ok (x || bs.any id) := by
  induction judged with
  | nil =>
      intro l x first
      rw [List.any_nil, Bool.or_false]
      exact first
  | cons next _ ih =>
      intro l x first
      rw [List.any_cons, ← Bool.or_assoc]
      exact ih (eval_or first next)

theorem Judged.foldl_and (judged : Judged field es bs) :
    ∀ {l : Expr} {x : Bool}, l.eval field = .ok x → (es.foldl .and l).eval field = .ok (x && bs.all id) := by
  induction judged with
  | nil =>
      intro l x first
      rw [List.all_nil, Bool.and_true]
      exact first
  | cons next _ ih =>
      intro l x first
      rw [List.all_cons, ← Bool.and_assoc]
      exact ih (eval_and first next)

/-- Alternatives hold where one of them does. -/
theorem Judged.joined_or (judged : Judged field es bs) :
    Judged field (joined .or es).toList (if bs.isEmpty then [] else [bs.any id]) := by
  cases judged with
  | nil => exact .nil
  | cons first rest => exact .cons (Judged.foldl_or rest first) .nil

/-- Terms hold together where all of them do; no terms always do. -/
theorem Judged.joined_and (judged : Judged field es bs) :
    ((joined .and es).getD .all).eval field = .ok (bs.all id) := by
  cases judged with
  | nil => rfl
  | cons first rest => exact Judged.foldl_and rest first

end Judged

end Upkeep.Filter
