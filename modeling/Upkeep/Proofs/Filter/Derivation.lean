import Upkeep.Proofs.Filter.Grammar

/-! Derivations in the filter language, as trees. Words have at most one derivation, since no operand
is the beginning of another and a chain goes on for as long as its keyword follows. The reader accepts
just the words that have one, and answers with the expression that the derivation stands for. -/
namespace Upkeep.Filter

/-- A name that is a keyword, in whatever case. -/
@[ext] structure Keyword (keyword : String) where
  name : String
  is : Text.sameWord name keyword = true

/-- The places of the grammar. The operands of a chain after its first have a place of their own. -/
inductive Place where
  | operand
  | conjunction
  | conjuncts
  | disjunction
  | disjuncts

/-- What a derivation stands for; further operands stand for what becomes of those before them. -/
abbrev Place.Meaning : Place → Type
  | .operand | .conjunction | .disjunction => Expr
  | .conjuncts | .disjuncts => Expr → Expr

inductive Derivation : Place → Type where
  | compare (path : String) (plain : Text.sameWord path "NOT" = false) (op : Comparison) (v : Value) :
      Derivation .operand
  | has (keyword : Keyword "has") (path : String) : Derivation .operand
  | not (keyword : Keyword "NOT") (inner : Derivation .operand) : Derivation .operand
  | parens (inner : Derivation .disjunction) : Derivation .operand
  | conjunction (first : Derivation .operand) (more : Derivation .conjuncts) : Derivation .conjunction
  | noConjunct : Derivation .conjuncts
  | conjunct (keyword : Keyword "AND") (next : Derivation .operand) (more : Derivation .conjuncts) :
      Derivation .conjuncts
  | disjunction (first : Derivation .conjunction) (more : Derivation .disjuncts) : Derivation .disjunction
  | noDisjunct : Derivation .disjuncts
  | disjunct (keyword : Keyword "OR") (next : Derivation .conjunction) (more : Derivation .disjuncts) :
      Derivation .disjuncts

namespace Derivation

def words : {p : Place} → Derivation p → List Token
  | _, .compare path _ op v => [.ident path, .op op, v.word]
  | _, .has keyword path => [.ident keyword.name, .leftParen, .ident path, .rightParen]
  | _, .not keyword inner => .ident keyword.name :: inner.words
  | _, .parens inner => .leftParen :: (inner.words ++ [.rightParen])
  | _, .conjunction first more => first.words ++ more.words
  | _, .noConjunct => []
  | _, .conjunct keyword next more => .ident keyword.name :: (next.words ++ more.words)
  | _, .disjunction first more => first.words ++ more.words
  | _, .noDisjunct => []
  | _, .disjunct keyword next more => .ident keyword.name :: (next.words ++ more.words)

attribute [simp] words

/-- Chains group to the left. -/
def meaning : {p : Place} → Derivation p → p.Meaning
  | _, .compare path _ op v => .compare path op v
  | _, .has _ path => .has path
  | _, .not _ inner => .not inner.meaning
  | _, .parens inner => inner.meaning
  | _, .conjunction first more => more.meaning first.meaning
  | _, .noConjunct => fun left => left
  | _, .conjunct _ next more => fun left => more.meaning (.and left next.meaning)
  | _, .disjunction first more => more.meaning first.meaning
  | _, .noDisjunct => fun left => left
  | _, .disjunct _ next more => fun left => more.meaning (.or left next.meaning)

end Derivation

theorem Value.word_inj {v w : Value} (same : v.word = w.word) : v = w := by
  cases v <;> cases w <;> cases same <;> rfl

theorem Keyword.is_word {keyword : String} (k : Keyword keyword) : isKeyword keyword (.ident k.name) = true :=
  k.is

/-- No name is two keywords. -/
theorem Keyword.apart {a b : String} (different : Text.sameWord a b = false) (k : Keyword a) (l : Keyword b) :
    k.name ≠ l.name := by
  intro same
  have other := sameWord_other k.is different
  rw [same, l.is] at other
  cases other

/-- The words that do not go on with what is derived at a place before them. -/
def Place.Ends : Place → List Token → Prop
  | .operand, _ => True
  | .conjunction, rest | .conjuncts, rest => afterKeyword? "AND" rest = none
  | .disjunction, rest | .disjuncts, rest => afterKeyword? "AND" rest = none ∧ afterKeyword? "OR" rest = none

namespace Derivation

/-- A conjunction is followed by OR or by what ends the disjunction. -/
theorem ends_disjuncts (more : Derivation .disjuncts) {rest : List Token} (ends : Place.disjuncts.Ends rest) :
    Place.conjunction.Ends (more.words ++ rest) := by
  cases more with
  | noDisjunct => exact ends.1
  | disjunct keyword next more =>
      exact afterKeyword?_not (isKeyword_other keyword.is_word (by decide)) _

/-- Words can be divided in one way only into the derivation and words that do not go on with it. -/
def Divides {p : Place} (d : Derivation p) : Prop :=
  ∀ (e : Derivation p) (rest more : List Token), d.words ++ rest = e.words ++ more → p.Ends rest → p.Ends more →
    d = e ∧ rest = more

theorem divides_compare (path : String) (plain : Text.sameWord path "NOT" = false) (op : Comparison)
    (v : Value) : (compare path plain op v).Divides := by
  intro e rest more same _ _
  cases e with
  | compare other otherPlain op' w =>
      simp only [words, List.cons_append, List.nil_append, List.cons.injEq, Token.ident.injEq,
        Token.op.injEq] at same
      obtain ⟨rfl, rfl, value, rfl⟩ := same
      cases Value.word_inj value
      exact ⟨rfl, rfl⟩
  | not keyword inner =>
      simp only [words, List.cons_append, List.cons.injEq, Token.ident.injEq] at same
      rw [same.1, keyword.is] at plain
      cases plain
  | has keyword other => simp [words] at same
  | parens inner => simp [words] at same

theorem divides_has (keyword : Keyword "has") (path : String) : (has keyword path).Divides := by
  intro e rest more same _ _
  cases e with
  | has keyword' other =>
      simp only [words, List.cons_append, List.nil_append, List.cons.injEq, Token.ident.injEq] at same
      obtain ⟨name, -, rfl, -, rfl⟩ := same
      cases Keyword.ext name
      exact ⟨rfl, rfl⟩
  | not keyword' inner =>
      simp only [words, List.cons_append, List.cons.injEq, Token.ident.injEq] at same
      exact absurd same.1 (keyword.apart (by decide) keyword')
  | compare other plain op v => simp [words] at same
  | parens inner => simp [words] at same

theorem divides_not (keyword : Keyword "NOT") {inner : Derivation .operand} (ih : inner.Divides) :
    (not keyword inner).Divides := by
  intro e rest more same _ _
  cases e with
  | not keyword' inner' =>
      simp only [words, List.cons_append, List.cons.injEq, Token.ident.injEq] at same
      cases Keyword.ext same.1
      obtain ⟨rfl, rfl⟩ := ih inner' rest more same.2 trivial trivial
      exact ⟨rfl, rfl⟩
  | compare other plain op v =>
      simp only [words, List.cons_append, List.cons.injEq, Token.ident.injEq] at same
      rw [← same.1, keyword.is] at plain
      cases plain
  | has keyword' other =>
      simp only [words, List.cons_append, List.cons.injEq, Token.ident.injEq] at same
      exact absurd same.1.symm (keyword'.apart (by decide) keyword)
  | parens inner' => simp [words] at same

theorem divides_parens {inner : Derivation .disjunction} (ih : inner.Divides) : (parens inner).Divides := by
  intro e rest more same _ _
  cases e with
  | parens inner' =>
      simp only [words, List.cons_append, List.append_assoc, List.nil_append, List.cons.injEq,
        true_and] at same
      obtain ⟨rfl, after⟩ := ih inner' _ _ same ⟨rfl, rfl⟩ ⟨rfl, rfl⟩
      cases after
      exact ⟨rfl, rfl⟩
  | compare other plain op v => simp [words] at same
  | has keyword other => simp [words] at same
  | not keyword inner' => simp [words] at same

theorem divides_conjunction {first : Derivation .operand} {tail : Derivation .conjuncts}
    (ihf : first.Divides) (iht : tail.Divides) : (conjunction first tail).Divides := by
  intro e rest more same ends endsToo
  cases e with
  | conjunction first' tail' =>
      simp only [words, List.append_assoc] at same
      obtain ⟨rfl, after⟩ := ihf first' _ _ same trivial trivial
      obtain ⟨rfl, rfl⟩ := iht tail' _ _ after ends endsToo
      exact ⟨rfl, rfl⟩

theorem divides_disjunction {first : Derivation .conjunction} {tail : Derivation .disjuncts}
    (ihf : first.Divides) (iht : tail.Divides) : (disjunction first tail).Divides := by
  intro e rest more same ends endsToo
  cases e with
  | disjunction first' tail' =>
      simp only [words, List.append_assoc] at same
      obtain ⟨rfl, after⟩ := ihf first' _ _ same (tail.ends_disjuncts ends) (tail'.ends_disjuncts endsToo)
      obtain ⟨rfl, rfl⟩ := iht tail' _ _ after ends endsToo
      exact ⟨rfl, rfl⟩

/-- Where a chain has come to its end, its keyword does not follow. -/
theorem not_ended {keyword : String} (k : Keyword keyword) {ts : List Token} :
    afterKeyword? keyword (.ident k.name :: ts) ≠ none := by
  rw [afterKeyword?_is k.is_word]
  exact Option.some_ne_none _

theorem divides_noConjunct : noConjunct.Divides := by
  intro e rest more same ends _
  cases e with
  | noConjunct => exact ⟨rfl, same⟩
  | conjunct keyword next tail =>
      have follows : rest = .ident keyword.name :: (next.words ++ tail.words ++ more) := same
      rw [follows] at ends
      exact absurd ends (not_ended keyword)

theorem divides_conjunct (keyword : Keyword "AND") {next : Derivation .operand} {tail : Derivation .conjuncts}
    (ihn : next.Divides) (iht : tail.Divides) : (conjunct keyword next tail).Divides := by
  intro e rest more same ends endsToo
  cases e with
  | noConjunct =>
      have follows : .ident keyword.name :: (next.words ++ tail.words ++ rest) = more := same
      rw [← follows] at endsToo
      exact absurd endsToo (not_ended keyword)
  | conjunct keyword' next' tail' =>
      simp only [words, List.cons_append, List.append_assoc, List.cons.injEq, Token.ident.injEq] at same
      cases Keyword.ext same.1
      obtain ⟨rfl, after⟩ := ihn next' _ _ same.2 trivial trivial
      obtain ⟨rfl, rfl⟩ := iht tail' _ _ after ends endsToo
      exact ⟨rfl, rfl⟩

theorem divides_noDisjunct : noDisjunct.Divides := by
  intro e rest more same ends _
  cases e with
  | noDisjunct => exact ⟨rfl, same⟩
  | disjunct keyword next tail =>
      have follows : rest = .ident keyword.name :: (next.words ++ tail.words ++ more) := same
      rw [follows] at ends
      exact absurd ends.2 (not_ended keyword)

theorem divides_disjunct (keyword : Keyword "OR") {next : Derivation .conjunction}
    {tail : Derivation .disjuncts} (ihn : next.Divides) (iht : tail.Divides) :
    (disjunct keyword next tail).Divides := by
  intro e rest more same ends endsToo
  cases e with
  | noDisjunct =>
      have follows : .ident keyword.name :: (next.words ++ tail.words ++ rest) = more := same
      rw [← follows] at endsToo
      exact absurd endsToo.2 (not_ended keyword)
  | disjunct keyword' next' tail' =>
      simp only [words, List.cons_append, List.append_assoc, List.cons.injEq, Token.ident.injEq] at same
      cases Keyword.ext same.1
      obtain ⟨rfl, after⟩ := ihn next' _ _ same.2 (tail.ends_disjuncts ends) (tail'.ends_disjuncts endsToo)
      obtain ⟨rfl, rfl⟩ := iht tail' _ _ after ends endsToo
      exact ⟨rfl, rfl⟩

theorem divides {p : Place} (d : Derivation p) : d.Divides := by
  induction d with
  | compare path plain op v => exact divides_compare path plain op v
  | has keyword path => exact divides_has keyword path
  | not keyword inner ih => exact divides_not keyword ih
  | parens inner ih => exact divides_parens ih
  | conjunction first tail ihf iht => exact divides_conjunction ihf iht
  | noConjunct => exact divides_noConjunct
  | conjunct keyword next tail ihn iht => exact divides_conjunct keyword ihn iht
  | disjunction first tail ihf iht => exact divides_disjunction ihf iht
  | noDisjunct => exact divides_noDisjunct
  | disjunct keyword next tail ihn iht => exact divides_disjunct keyword ihn iht

/-- Words have one derivation at most. -/
theorem words_inj {d e : Derivation .disjunction} (same : d.words = e.words) : d = e :=
  (divides d e [] [] (congrArg (· ++ []) same) ⟨rfl, rfl⟩ ⟨rfl, rfl⟩).1

/-- What a derivation says of the words that the grammar has at its place. -/
def Grammatical : {p : Place} → Derivation p → Prop
  | .operand, d => Sentence .operand d.words d.meaning
  | .conjunction, d => Sentence .conjunction d.words d.meaning
  | .disjunction, d => Sentence .disjunction d.words d.meaning
  | .conjuncts, d => ∀ ts left, Sentence .conjunction ts left →
      Sentence .conjunction (ts ++ d.words) (d.meaning left)
  | .disjuncts, d => ∀ ts left, Sentence .disjunction ts left →
      Sentence .disjunction (ts ++ d.words) (d.meaning left)

theorem grammatical {p : Place} (d : Derivation p) : d.Grammatical := by
  induction d with
  | compare path plain op v => exact .compare op v plain
  | has keyword path => exact .has path keyword.is
  | not keyword inner ih => exact .not keyword.is_word ih
  | parens inner ih => exact .parens ih
  | conjunction first tail ihf iht => exact iht _ _ (.operand ihf)
  | noConjunct =>
      intro ts left before
      rwa [words, List.append_nil]
  | conjunct keyword next tail ihn iht =>
      intro ts left before
      have longer := iht _ _ (.and before keyword.is_word ihn)
      rwa [List.append_assoc] at longer
  | disjunction first tail ihf iht => exact iht _ _ (.conjunction ihf)
  | noDisjunct =>
      intro ts left before
      rwa [words, List.append_nil]
  | disjunct keyword next tail ihn iht =>
      intro ts left before
      have longer := iht _ _ (.or before keyword.is_word ihn)
      rwa [List.append_assoc] at longer

end Derivation

/-- What a chain has read, operand by operand. -/
inductive Chained (keyword : String) (join : Expr → Expr → Expr) (p : Parse) :
    Expr → List Token → Expr → List Token → Prop where
  | stop {left : Expr} {ts : List Token} : Chained keyword join p left ts left ts
  | next (k : Keyword keyword) {left right e : Expr} {ts us rest : List Token} (read : p ts = .ok (right, us))
      (more : Chained keyword join p (join left right) us e rest) :
      Chained keyword join p left (.ident k.name :: ts) e rest

theorem afterKeyword?_eq_some {keyword : String} {ts us : List Token} (h : afterKeyword? keyword ts = some us) :
    ∃ k : Keyword keyword, ts = .ident k.name :: us := by
  cases ts with
  | nil => cases h
  | cons t ts =>
      cases is : isKeyword keyword t with
      | true =>
          obtain ⟨name, rfl, same⟩ := isKeyword_ident is
          cases (afterKeyword?_is is ts).symm.trans h
          exact ⟨⟨name, same⟩, rfl⟩
      | false => cases (afterKeyword?_not is ts).symm.trans h

theorem bind_read {α β : Type} {a : Except ParseFault α} {f : α → Except ParseFault β} {b : β}
    (done : (a >>= f) = .ok b) : ∃ x, a = .ok x ∧ f x = .ok b := by
  cases a with
  | error fault => cases done
  | ok x => exact ⟨x, rfl, done⟩

theorem chained {keyword : String} {join : Expr → Expr → Expr} {p : Parse} {n : Nat} {left e : Expr}
    {ts rest : List Token} (done : chain keyword join p n left ts = .ok (e, rest)) :
    Chained keyword join p left ts e rest := by
  induction n generalizing left ts with
  | zero =>
      cases done
      exact .stop
  | succ n ih =>
      unfold chain at done
      split at done
      · cases done
        exact .stop
      · next us follows =>
        obtain ⟨k, rfl⟩ := afterKeyword?_eq_some follows
        obtain ⟨⟨right, after⟩, read, done⟩ := bind_read done
        exact .next k read (ih done)

/-- A reader takes words off the front only if they have a derivation, and answers with its meaning. -/
def Derives {p : Place} (meaning : Derivation p → Expr) (read : Parse) : Prop :=
  ∀ ts e rest, read ts = .ok (e, rest) → ∃ d : Derivation p, ts = d.words ++ rest ∧ meaning d = e

section
variable {operand : Parse}

theorem Chained.conjuncts {left e : Expr} {ts rest : List Token}
    (sound : Derives (p := .operand) Derivation.meaning operand)
    (read : Chained "AND" .and operand left ts e rest) :
    ∃ d : Derivation .conjuncts, ts = d.words ++ rest ∧ d.meaning left = e := by
  induction read with
  | stop => exact ⟨.noConjunct, rfl, rfl⟩
  | next k read _ ih =>
      obtain ⟨next, rfl, rfl⟩ := sound _ _ _ read
      obtain ⟨more, rfl, meant⟩ := ih
      refine ⟨.conjunct k next more, ?_, meant⟩
      simp only [Derivation.words, List.cons_append, List.append_assoc]

theorem derives_conjunction (sound : Derives (p := .operand) Derivation.meaning operand) :
    Derives (p := .conjunction) Derivation.meaning (conjunction operand) := by
  intro ts e rest done
  obtain ⟨⟨left, us⟩, first, done⟩ := bind_read done
  obtain ⟨d, rfl, rfl⟩ := sound _ _ _ first
  obtain ⟨more, rfl, meant⟩ := (chained done).conjuncts sound
  refine ⟨.conjunction d more, ?_, meant⟩
  simp only [Derivation.words, List.append_assoc]

theorem Chained.disjuncts {left e : Expr} {ts rest : List Token}
    (sound : Derives (p := .conjunction) Derivation.meaning operand)
    (read : Chained "OR" .or operand left ts e rest) :
    ∃ d : Derivation .disjuncts, ts = d.words ++ rest ∧ d.meaning left = e := by
  induction read with
  | stop => exact ⟨.noDisjunct, rfl, rfl⟩
  | next k read _ ih =>
      obtain ⟨next, rfl, rfl⟩ := sound _ _ _ read
      obtain ⟨more, rfl, meant⟩ := ih
      refine ⟨.disjunct k next more, ?_, meant⟩
      simp only [Derivation.words, List.cons_append, List.append_assoc]

theorem derives_disjunction (sound : Derives (p := .operand) Derivation.meaning operand) :
    Derives (p := .disjunction) Derivation.meaning (disjunction operand) := by
  intro ts e rest done
  obtain ⟨⟨left, us⟩, first, done⟩ := bind_read done
  obtain ⟨d, rfl, rfl⟩ := derives_conjunction sound _ _ _ first
  obtain ⟨more, rfl, meant⟩ := (chained done).disjuncts (derives_conjunction sound)
  refine ⟨.disjunction d more, ?_, meant⟩
  simp only [Derivation.words, List.append_assoc]

end

theorem closing_ok {e f : Expr} {ts rest : List Token} (done : closing e ts = .ok (f, rest)) :
    ts = .rightParen :: rest ∧ e = f := by
  unfold closing at done
  split at done
  · cases done
    exact ⟨rfl, rfl⟩
  · cases done

theorem comparison_ok {path : String} {ts rest : List Token} {e : Expr}
    (done : comparison path ts = .ok (e, rest)) :
    ∃ op v, ts = .op op :: v.word :: rest ∧ e = .compare path op v := by
  unfold comparison at done
  split at done
  · next op us =>
    unfold literal at done
    split at done
    · cases done
      exact ⟨op, .text _, rfl, rfl⟩
    · cases done
      exact ⟨op, .number _, rfl, rfl⟩
    · cases done
  · cases done

theorem hasOperand_ok {ts rest : List Token} {e : Expr} (done : hasOperand ts = .ok (e, rest)) :
    ∃ path, ts = .ident path :: .rightParen :: rest ∧ e = .has path := by
  unfold hasOperand at done
  split at done
  · next path us =>
    obtain ⟨rfl, rfl⟩ := closing_ok done
    exact ⟨path, rfl, rfl⟩
  · cases done

/-- A name that is not NOT begins a test for a field or a comparison. -/
theorem named_derives {name : String} {ts rest : List Token} {e : Expr}
    (plain : Text.sameWord name "NOT" = false) (done : named name ts = .ok (e, rest)) :
    ∃ d : Derivation .operand, .ident name :: ts = d.words ++ rest ∧ d.meaning = e := by
  have compared : comparison name ts = .ok (e, rest) →
      ∃ d : Derivation .operand, .ident name :: ts = d.words ++ rest ∧ d.meaning = e := by
    intro done
    obtain ⟨op, v, rfl, rfl⟩ := comparison_ok done
    exact ⟨.compare name plain op v, rfl, rfl⟩
  unfold named at done
  split at done
  · split at done
    · next keyword =>
      obtain ⟨path, rfl, rfl⟩ := hasOperand_ok done
      exact ⟨.has ⟨name, keyword⟩ path, rfl, rfl⟩
    · exact compared done
  · exact compared done

theorem derives_operand (depth : Nat) : Derives (p := .operand) Derivation.meaning (operand depth) := by
  induction depth with
  | zero =>
      intro ts e rest done
      cases done
  | succ depth ih =>
      intro ts e rest done
      cases ts with
      | nil => cases done
      | cons t ts =>
          cases t with
          | ident name =>
              rw [operand] at done
              cases keyword : Text.sameWord name "NOT" with
              | true =>
                  rw [if_pos keyword] at done
                  obtain ⟨⟨inner, us⟩, read, done⟩ := bind_read done
                  obtain ⟨d, rfl, rfl⟩ := ih _ _ _ read
                  cases done
                  exact ⟨.not ⟨name, keyword⟩ d, rfl, rfl⟩
              | false =>
                  rw [keyword] at done
                  exact named_derives keyword done
          | leftParen =>
              obtain ⟨⟨inner, us⟩, read, done⟩ := bind_read done
              obtain ⟨d, rfl, rfl⟩ := derives_disjunction ih _ _ _ read
              obtain ⟨rfl, rfl⟩ := closing_ok done
              refine ⟨.parens d, ?_, rfl⟩
              simp only [Derivation.words, List.cons_append, List.append_assoc, List.nil_append]
          | rightParen | text s | number n | op c => cases done

/-- The reader accepts the words that have a derivation, and no others. -/
theorem sentence_ok {ts : List Token} {e : Expr} :
    sentence ts = .ok e ↔ ∃ d : Derivation .disjunction, d.words = ts ∧ d.meaning = e := by
  constructor
  · intro done
    obtain ⟨⟨f, rest⟩, read, done⟩ := bind_read done
    obtain ⟨d, rfl, rfl⟩ := derives_disjunction (derives_operand _) _ _ _ read
    cases rest with
    | nil =>
        cases done
        exact ⟨d, (List.append_nil _).symm, rfl⟩
    | cons t ts => cases done
  · rintro ⟨d, rfl, rfl⟩
    exact d.grammatical.read

theorem ParseFault.code_failure (f : ParseFault) : f.failure.code = .invalidArgument := rfl

/-- An expression is read from the words of a text exactly if they have a derivation, of which there is one
at most, and it is the one that the derivation stands for. All else is refused as a bad argument. -/
theorem parse_iff_derivation (s : String) {ts : List Token} (visible : Text.allBlank s = false)
    (words : tokenize s = .ok ts) :
    (∀ e, parse s = .ok e ↔ ∃ d : Derivation .disjunction, d.words = ts ∧ d.meaning = e) ∧
    (∀ d d' : Derivation .disjunction, d.words = ts → d'.words = ts → d = d') ∧
    ((∀ d : Derivation .disjunction, d.words ≠ ts) →
      ∃ f : ParseFault, parse s = .error f ∧ f.failure.code = .invalidArgument) := by
  have read : parse s = sentence ts := by
    unfold parse
    rw [visible, words]
    rfl
  rw [read]
  refine ⟨fun e => sentence_ok, fun d d' of of' => Derivation.words_inj (of.trans of'.symm), ?_⟩
  intro none
  cases answer : sentence ts with
  | ok e =>
      obtain ⟨d, of, -⟩ := sentence_ok.1 answer
      exact absurd of (none d)
  | error f => exact ⟨f, rfl, f.code_failure⟩

/-- Names of fields may be keywords elsewhere, and AND is joined before OR. -/
theorem parse_iff_derivation_contextual :
    let s := "has = 1 or and = 2 And Not has(c)"
    let ts : List Token := [.ident "has", .op .eq, .number 1, .ident "or", .ident "and", .op .eq, .number 2,
      .ident "And", .ident "Not", .ident "has", .leftParen, .ident "c", .rightParen]
    Text.allBlank s = false ∧ tokenize s = .ok ts ∧
      parse s = .ok (.or (.compare "has" .eq (.number 1)) (.and (.compare "and" .eq (.number 2)) (.not (.has "c")))) := by
  intro s ts
  have visible : Text.allBlank s = false := by decide
  have read : (tokenize s).toOption = some ts := by decide +kernel
  have words : tokenize s = .ok ts := by
    cases scanned : tokenize s with
    | ok words => exact congrArg Except.ok (Option.some.inj ((congrArg Except.toOption scanned).symm.trans read))
    | error f => cases (congrArg Except.toOption scanned).symm.trans read
  let test : Derivation .operand := .not ⟨"Not", rfl⟩ (.has ⟨"has", rfl⟩ "c")
  let first : Derivation .conjunction := .conjunction (.compare "has" rfl .eq (.number 1)) .noConjunct
  let second : Derivation .conjunction :=
    .conjunction (.compare "and" rfl .eq (.number 2)) (.conjunct ⟨"And", rfl⟩ test .noConjunct)
  refine ⟨visible, words, ((parse_iff_derivation s visible words).1 _).2 ?_⟩
  exact ⟨.disjunction first (.disjunct ⟨"or", rfl⟩ second .noDisjunct), rfl, rfl⟩

end Upkeep.Filter
