import Mathlib.Data.List.Chain
import Upkeep.Proofs.Filter.Derivation
import Upkeep.Proofs.Filter.Meaning

/-! Expressions laid out as text. The operands of every connective stand in parentheses, keywords
are in any case, and any blanks stand between the words, at least one where two names or numbers
would run together. Whoever reads such a text gets the expression back. -/
namespace Upkeep.Filter
open Upkeep.Text (isBlank not_blank)
open Upkeep.Decimal (digit_toNat)

namespace Token

/-- The text of a word. -/
def chars : Token → List Char
  | .leftParen => ['(']
  | .rightParen => [')']
  | .ident name => name.toList
  | .text s => (quote s).toList
  | .number n => Decimal.digits n.toNat
  | .op c => c.symbol.toList

/-- Whether the word is a name, a keyword or a number. -/
def isPlain : Token → Bool
  | .ident _ | .number _ => true
  | _ => false

def isOp : Token → Bool
  | .op _ => true
  | _ => false

/-- A name is one of the language; all other words are proper. -/
def Proper : Token → Prop
  | .ident name => isIdent name.toList = true
  | _ => True

theorem Proper.spells {t : Token} (proper : t.Proper) : Spells t t.chars := by
  cases t with
  | leftParen => exact .leftParen
  | rightParen => exact .rightParen
  | ident name => exact .ident proper
  | text s => exact .text s
  | number n => exact .number n
  | op c => exact .op c

/-- What a word begins with that is no name and no number. -/
theorem head_mark {t : Token} (plain : t.isPlain = false) {c : Char} {cs : List Char}
    (text : t.chars = c :: cs) : c ∈ marks := by
  cases t with
  | leftParen | rightParen => cases text; decide
  | ident name | number n => cases plain
  | text s =>
      rw [chars, quote_toList] at text
      cases text
      decide
  | op o => cases o <;> cases text <;> decide

/-- Only a comparison begins with an equals sign. -/
theorem head_ne_equals {t : Token} (proper : t.Proper) (other : t.isOp = false) {c : Char}
    {cs : List Char} (text : t.chars = c :: cs) : c ≠ '=' := by
  rintro rfl
  cases t with
  | leftParen | rightParen => cases text
  | ident name =>
      rw [Proper, show name.toList = _ from text] at proper
      cases proper
  | text s =>
      rw [chars, quote_toList] at text
      cases text
  | number n =>
      have digits := Decimal.digits_all n.toNat
      rw [show Decimal.digits n.toNat = _ from text] at digits
      cases digits
  | op o => cases other

theorem visible_of_growsBy {t : Token} {c : Char} (grows : t.growsBy c = true) : isBlank c = false := by
  have seen : 33 ≤ c.toNat ∧ c.toNat ≤ 122 := by
    cases t with
    | ident name =>
        have rest : (isIdentStart c || Decimal.isDigit c || c == '.') = true := grows
        simp only [Bool.or_eq_true] at rest
        rcases rest with (start | digit) | dot
        · have := identStart_toNat start
          omega
        · have := digit_toNat digit
          omega
        · rw [eq_of_beq dot]
          decide
    | number n =>
        have := digit_toNat grows
        omega
    | op o =>
        cases o with
        | lt | gt =>
            cases eq_of_beq grows
            decide
        | eq | ne | le | ge => cases grows
    | leftParen | rightParen | text => cases grows
  exact not_blank seen.1 seen.2

theorem not_mark_of_growsBy {t : Token} (plain : t.isPlain = true) {c : Char}
    (grows : t.growsBy c = true) : c ∉ marks := by
  cases t with
  | ident name => exact not_mark (p := isIdentRest) rfl grows
  | number n => exact not_mark (p := Decimal.isDigit) rfl grows
  | leftParen | rightParen | text | op => cases plain

/-- Two words that can stand with nothing between them. -/
theorem not_growsBy {t u : Token} (proper : u.Proper) (plain : ¬ (t.isPlain = true ∧ u.isPlain = true))
    (ops : ¬ (t.isOp = true ∧ u.isOp = true)) {c : Char} {cs : List Char} (text : u.chars = c :: cs) :
    t.growsBy c = false := by
  by_contra grows
  rw [Bool.not_eq_false] at grows
  cases kind : t.isPlain with
  | true =>
      have mark := head_mark (by simpa [kind] using plain) text
      exact not_mark_of_growsBy kind grows mark
  | false =>
      cases t with
      | op o =>
          have other := head_ne_equals proper (by simpa [isOp] using ops) text
          cases o with
          | lt | gt => exact other (eq_of_beq grows)
          | eq | ne | le | ge => cases grows
      | ident | number => cases kind
      | leftParen | rightParen | text => cases grows

end Token

/-- A text that is laid out from words. -/
inductive Spaced : List Token → List Char → Prop where
  | nil : Spaced [] []
  | blank {ts : List Token} {c : Char} {cs : List Char} (blank : isBlank c = true)
      (rest : Spaced ts cs) : Spaced ts (c :: cs)
  | word {t : Token} {ts : List Token} {cs : List Char}
      (gap : t.isPlain = true → ∀ u ∈ ts.head?, u.isPlain = true → ∃ c ∈ cs.head?, isBlank c = true)
      (rest : Spaced ts cs) : Spaced (t :: ts) (t.chars ++ cs)

/-- A text begins with a blank or with its first word. -/
theorem Spaced.head {ts : List Token} {c : Char} {cs : List Char} (spaced : Spaced ts (c :: cs))
    (proper : ∀ t ∈ ts, t.Proper) :
    isBlank c = true ∨ ∃ t us w, ts = t :: us ∧ t.chars = c :: w := by
  generalize whole : c :: cs = text at spaced
  cases spaced with
  | nil => cases whole
  | blank blank rest =>
      cases whole
      exact .inl blank
  | @word t us ds gap rest =>
      obtain ⟨d, w, spelled⟩ := List.exists_cons_of_ne_nil (proper t List.mem_cons_self).spells.ne_nil
      rw [spelled] at whole
      cases whole
      exact .inr ⟨t, us, w, rfl, spelled⟩

/-- Words where no two comparisons stand side by side. -/
def Parted (ts : List Token) : Prop := ts.IsChain fun t u => ¬ (t.isOp = true ∧ u.isOp = true)

/-- Where no two comparisons stand side by side, nothing runs together. -/
theorem Spaced.written {ts : List Token} {cs : List Char} (spaced : Spaced ts cs)
    (proper : ∀ t ∈ ts, t.Proper)
    (parted : Parted ts) : Written ts cs := by
  induction spaced with
  | nil => exact .nil
  | blank blank _ ih => exact .blank blank (ih proper parted)
  | @word t ts cs gap rest ih =>
      have others : ∀ u ∈ ts, u.Proper := fun u member => proper u (List.mem_cons_of_mem t member)
      refine .word (proper t List.mem_cons_self).spells ?_ (ih others (List.isChain_cons.1 parted).2)
      intro c first
      obtain ⟨ds, rfl⟩ := List.head?_eq_some_iff.1 first
      rcases rest.head others with blank | ⟨u, us, w, rfl, spelled⟩
      · by_contra grows
        rw [Bool.not_eq_false] at grows
        rw [Token.visible_of_growsBy grows] at blank
        cases blank
      · have seen : isBlank c = false := by
          have visible := (others u List.mem_cons_self).spells
          rw [spelled] at visible
          exact visible.visible
        refine Token.not_growsBy (others u List.mem_cons_self) ?_ ?_ spelled
        · rintro ⟨left, right⟩
          obtain ⟨d, same, blank⟩ := gap left u rfl right
          cases same
          rw [seen] at blank
          cases blank
        · exact (List.isChain_cons.1 parted).1 u rfl

/-- Words with one blank after each. -/
theorem Spaced.loose (ts : List Token) : Spaced ts (ts.flatMap fun t => t.chars ++ [' ']) := by
  induction ts with
  | nil => exact .nil
  | cons t ts ih =>
      rw [List.flatMap_cons, List.append_assoc]
      exact .word (fun _ _ _ _ => ⟨' ', rfl, rfl⟩) (.blank rfl ih)

theorem isIdent_of_all {cs : List Char} (some : cs ≠ []) (letters : cs.all isIdentStart = true) :
    isIdent cs = true := by
  cases cs with
  | nil => exact absurd rfl some
  | cons c cs =>
      rw [List.all_cons, Bool.and_eq_true] at letters
      rw [isIdent, letters.1, Bool.true_and, List.all_eq_true]
      intro d member
      rw [isIdentRest, List.all_eq_true.1 letters.2 d member]
      rfl

theorem isIdentStart_of_lowerAscii {c : Char} (start : isIdentStart (Text.lowerAscii c) = true) :
    isIdentStart c = true := by
  by_cases upper : 'A' ≤ c ∧ c ≤ 'Z'
  · simp [isIdentStart, upper]
  · rwa [Text.lowerAscii, if_neg upper] at start

/-- A keyword of letters is a name in whatever case. -/
theorem Keyword.proper {keyword : String} (k : Keyword keyword) (some : keyword.toList ≠ [])
    (letters : (keyword.toList.map Text.lowerAscii).all isIdentStart = true) : (Token.ident k.name).Proper := by
  have lowered : k.name.toList.map Text.lowerAscii = keyword.toList.map Text.lowerAscii := eq_of_beq k.is
  refine isIdent_of_all ?_ ?_
  · intro none
    rw [none] at lowered
    exact some (List.map_eq_nil_iff.1 lowered.symm)
  · rw [← lowered, List.all_map] at letters
    rw [List.all_eq_true] at letters ⊢
    exact fun c member => isIdentStart_of_lowerAscii (letters c member)

theorem Parted.cons {t : Token} {ts : List Token} (other : t.isOp = false) (rest : Parted ts) :
    Parted (t :: ts) := by
  refine List.isChain_cons.2 ⟨?_, rest⟩
  rintro u - ⟨op, -⟩
  rw [other] at op
  cases op

theorem Parted.append_cons {t : Token} {ts us : List Token} (front : Parted ts) (other : t.isOp = false)
    (back : Parted us) : Parted (ts ++ t :: us) := by
  refine List.isChain_append.2 ⟨front, back.cons other, ?_⟩
  rintro - - u same ⟨-, op⟩
  cases same
  rw [other] at op
  cases op

def parenthesised (ts : List Token) : List Token := .leftParen :: (ts ++ [.rightParen])

theorem proper_parenthesised {ts : List Token} (each : ∀ t ∈ ts, t.Proper) :
    ∀ t ∈ parenthesised ts, t.Proper :=
  List.forall_mem_cons.2 ⟨trivial, List.forall_mem_append.2 ⟨each, List.forall_mem_singleton.2 trivial⟩⟩

theorem proper_joined {w : Token} {ts us : List Token} (left : ∀ t ∈ ts, t.Proper) (word : w.Proper)
    (right : ∀ t ∈ us, t.Proper) : ∀ t ∈ parenthesised ts ++ w :: parenthesised us, t.Proper :=
  List.forall_mem_append.2
    ⟨proper_parenthesised left, List.forall_mem_cons.2 ⟨word, proper_parenthesised right⟩⟩

theorem Parted.parenthesised {ts : List Token} (parted : Parted ts) : Parted (parenthesised ts) :=
  (parted.append_cons rfl .nil).cons rfl

namespace Expr

/-- The expressions that can be written out. An expression that holds for everything has no words,
and a comparison cannot begin with NOT. -/
def Writable : Expr → Prop
  | .all => False
  | .or l r | .and l r => l.Writable ∧ r.Writable
  | .not e => e.Writable
  | .has path => isIdent path.toList = true
  | .compare path _ _ => isIdent path.toList = true ∧ Text.sameWord path "NOT" = false

/-- The words of an expression, all operands of its connectives in parentheses. -/
inductive Worded : Expr → List Token → Prop where
  | or {l r : Expr} {ts us : List Token} (keyword : Keyword "OR") (left : Worded l ts) (right : Worded r us) :
      Worded (.or l r) (parenthesised ts ++ .ident keyword.name :: parenthesised us)
  | and {l r : Expr} {ts us : List Token} (keyword : Keyword "AND") (left : Worded l ts) (right : Worded r us) :
      Worded (.and l r) (parenthesised ts ++ .ident keyword.name :: parenthesised us)
  | not {e : Expr} {ts : List Token} (keyword : Keyword "NOT") (inner : Worded e ts) :
      Worded (.not e) (.ident keyword.name :: parenthesised ts)
  | has (keyword : Keyword "has") (path : String) :
      Worded (.has path) [.ident keyword.name, .leftParen, .ident path, .rightParen]
  | compare (path : String) (op : Comparison) (v : Value) :
      Worded (.compare path op v) [.ident path, .op op, v.word]

/-- The texts of an expression. -/
def WrittenOut (e : Expr) (s : String) : Prop := ∃ ts, e.Worded ts ∧ Spaced ts s.toList

theorem Writable.worded {e : Expr} (writable : e.Writable) : ∃ ts, e.Worded ts := by
  induction e with
  | all => exact writable.elim
  | or l r ihl ihr =>
      obtain ⟨ts, left⟩ := ihl writable.1
      obtain ⟨us, right⟩ := ihr writable.2
      exact ⟨_, .or ⟨"OR", rfl⟩ left right⟩
  | and l r ihl ihr =>
      obtain ⟨ts, left⟩ := ihl writable.1
      obtain ⟨us, right⟩ := ihr writable.2
      exact ⟨_, .and ⟨"AND", rfl⟩ left right⟩
  | not e ih =>
      obtain ⟨ts, inner⟩ := ih writable
      exact ⟨_, .not ⟨"NOT", rfl⟩ inner⟩
  | has path => exact ⟨_, .has ⟨"has", rfl⟩ path⟩
  | compare path op v => exact ⟨_, .compare path op v⟩

namespace Worded
variable {e : Expr} {ts : List Token}

theorem sentence (worded : e.Worded ts) (writable : e.Writable) : Sentence .disjunction ts e := by
  induction worded with
  | or keyword _ _ ihl ihr =>
      have left := Sentence.parens (ihl writable.1)
      have right := Sentence.parens (ihr writable.2)
      exact .or (.conjunction (.operand left)) keyword.is_word (.operand right)
  | and keyword _ _ ihl ihr =>
      have left := Sentence.parens (ihl writable.1)
      have right := Sentence.parens (ihr writable.2)
      exact .conjunction (.and (.operand left) keyword.is_word right)
  | not keyword _ ih => exact .conjunction (.operand (.not keyword.is_word (.parens (ih writable))))
  | has keyword path => exact .conjunction (.operand (.has path keyword.is))
  | compare path op v => exact .conjunction (.operand (.compare op v writable.2))

theorem parted (worded : e.Worded ts) : Parted ts := by
  induction worded with
  | or _ _ _ ihl ihr | and _ _ _ ihl ihr => exact ihl.parenthesised.append_cons rfl ihr.parenthesised
  | not _ _ ih => exact ih.parenthesised.cons rfl
  | has keyword path => exact .cons rfl (.cons rfl (.cons rfl (.cons rfl .nil)))
  | compare path op v =>
      refine .cons rfl (List.isChain_pair.2 ?_)
      rintro ⟨-, op⟩
      cases v <;> cases op

theorem proper (worded : e.Worded ts) (writable : e.Writable) : ∀ t ∈ ts, t.Proper := by
  induction worded with
  | or keyword _ _ ihl ihr =>
      exact proper_joined (ihl writable.1) (keyword.proper (by decide) (by decide)) (ihr writable.2)
  | and keyword _ _ ihl ihr =>
      exact proper_joined (ihl writable.1) (keyword.proper (by decide) (by decide)) (ihr writable.2)
  | not keyword _ ih =>
      have word := keyword.proper (by decide) (by decide)
      exact List.forall_mem_cons.2 ⟨word, proper_parenthesised (ih writable)⟩
  | has keyword path =>
      have word := keyword.proper (by decide) (by decide)
      have name : (Token.ident path).Proper := writable
      simpa [Token.Proper] using And.intro word name
  | compare path op v => cases v <;> simpa [Token.Proper, Value.word] using writable.1

end Worded
end Expr

/-- An expression is read back from every text that it is written out as, and there is one. -/
theorem parse_writtenOut {e : Expr} (writable : e.Writable) :
    (∃ s, e.WrittenOut s) ∧ ∀ s, e.WrittenOut s → parse s = .ok e := by
  constructor
  · obtain ⟨ts, worded⟩ := writable.worded
    refine ⟨String.ofList (ts.flatMap fun t => t.chars ++ [' ']), ts, worded, ?_⟩
    rw [String.toList_ofList]
    exact .loose ts
  · rintro s ⟨ts, worded, spaced⟩
    have written := spaced.written (worded.proper writable) worded.parted
    exact parse_of_means ⟨ts, worded.sentence writable, written⟩

/-- Blanks may be any, and what looks like a keyword may be a field. -/
theorem parse_writtenOut_mixed :
    let e : Expr := .and (.compare "or" .le (.number 7)) (.not (.compare "name" .ne (.text "a\\\"")))
    let s := "(or<=\t7)And\u3000(NOT( name !=\"a\\\\\\\"\"))"
    e.Writable ∧ e.WrittenOut s ∧ parse s = .ok e := by
  intro e s
  have writable : e.Writable := ⟨⟨rfl, rfl⟩, rfl, rfl⟩
  have worded : e.Worded _ :=
    .and ⟨"And", rfl⟩ (.compare "or" .le (.number 7))
      (.not ⟨"NOT", rfl⟩ (.compare "name" .ne (.text "a\\\"")))
  have written : e.WrittenOut s := by
    refine ⟨_, worded, ?_⟩
    have text : s.toList =
        ['('] ++ ("or".toList ++ ("<=".toList ++ '\t' :: (['7'] ++ ")And\u3000(NOT( name !=\"a\\\\\\\"\"))".toList))) := by
      decide
    have seven : (Token.number 7).chars = ['7'] := Decimal.digits_small (by decide)
    rw [text, ← seven]
    refine .word (by decide) (.word (by decide) (.word (by decide) (.blank rfl (.word (by decide) ?_))))
    repeat first | exact .nil | refine .blank rfl ?_ | refine .word (by decide) ?_
  exact ⟨writable, written, (parse_writtenOut writable).2 s written⟩

end Upkeep.Filter
