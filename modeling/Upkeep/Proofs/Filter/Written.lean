import Upkeep.Filter.Token
import Upkeep.Proofs.Text.Decimal

/-! How the words of the filter language are written. A text that is put together from words,
with blanks before, between and after them, is taken apart into the same words: a literal ends
at its own closing quote whatever it quotes, and any other word ends where the text does not
go on with it. -/
namespace Upkeep.Filter
open Upkeep.Text (isBlank not_blank)
open Upkeep.Decimal (digit_toNat)

theorem unquote_quoteChars (cs rest : List Char) :
    unquote (quoteChars cs ++ '"' :: rest) = .ok (cs, rest) := by
  induction cs with
  | nil => rfl
  | cons c cs ih =>
      unfold quoteChars
      split
      · rw [List.cons_append, List.cons_append, unquote, ih]
        rfl
      · next plain =>
        obtain ⟨slash, quote⟩ := not_or.1 plain
        rw [List.cons_append, unquote, ih]
        · rfl
        all_goals simp [slash, quote]

theorem quote_toList (s : String) : (quote s).toList = '"' :: (quoteChars s.toList ++ ['"']) := by
  rw [quote, String.toList_ofList, List.cons_append]

/-- The characters that begin a word other than a name or a number. -/
def marks : List Char := ['(', ')', '"', '=', '!', '<', '>']

theorem not_mark {p : Char → Bool} (none : marks.any p = false) {c : Char} (holds : p c = true) :
    c ∉ marks := by
  intro mark
  exact Bool.false_ne_true (none.symm.trans (List.any_eq_true.2 ⟨c, mark, holds⟩))

theorem identStart_toNat {c : Char} (start : isIdentStart c = true) :
    65 ≤ c.toNat ∧ c.toNat ≤ 122 := by
  simp only [isIdentStart, Bool.or_eq_true, Bool.and_eq_true, decide_eq_true_eq, beq_iff_eq,
    Char.le_def, UInt32.le_iff_toNat_le] at start
  rcases start with (⟨low, high⟩ | ⟨low, high⟩) | rfl
  · exact ⟨Nat.le_trans (by decide) low, high⟩
  · exact ⟨low, Nat.le_trans high (by decide)⟩
  · decide

theorem word_plain {c : Char} (plain : c ∉ marks) (offset : Nat) (cs : List Char) :
    word offset c cs =
      if Decimal.isDigit c then
        (number offset (c :: cs.takeWhile Decimal.isDigit)).map (·, cs.dropWhile Decimal.isDigit)
      else if isIdentStart c then
        .ok (.ident (String.ofList (c :: cs.takeWhile isIdentRest)), cs.dropWhile isIdentRest)
      else .error (.badChar c offset) := by
  simp only [marks, List.mem_cons, List.not_mem_nil, or_false, not_or] at plain
  obtain ⟨left, right, quote, eq, bang, lt, gt⟩ := plain
  unfold word
  rw [if_neg left, if_neg right, if_neg quote, if_neg eq, if_neg bang, if_neg lt, if_neg gt]
  cases number offset (c :: cs.takeWhile Decimal.isDigit) <;> rfl

/-- The texts that are names of the language. -/
def isIdent : List Char → Bool
  | [] => false
  | c :: cs => isIdentStart c && cs.all isIdentRest

/-- The texts that stand for a word. -/
inductive Spells : Token → List Char → Prop where
  | leftParen : Spells .leftParen ['(']
  | rightParen : Spells .rightParen [')']
  | ident {name : String} (proper : isIdent name.toList = true) : Spells (.ident name) name.toList
  | text (s : String) : Spells (.text s) (quote s).toList
  | number (n : UInt64) : Spells (.number n) (Decimal.digits n.toNat)
  | op (op : Comparison) : Spells (.op op) op.symbol.toList

/-- Whether a character would go on with the word, were it right after it. -/
def Token.growsBy : Token → Char → Bool
  | .ident _, c => isIdentRest c
  | .number _, c => Decimal.isDigit c
  | .op .lt, c | .op .gt, c => c == '='
  | _, _ => false

/-- Whether a text can follow the word without going on with it. -/
def Token.Apart (t : Token) (rest : List Char) : Prop := ∀ c ∈ rest.head?, t.growsBy c = false

theorem Spells.visible {t : Token} {c : Char} {cs : List Char} (spelled : Spells t (c :: cs)) :
    isBlank c = false := by
  generalize whole : c :: cs = w at spelled
  cases spelled with
  | leftParen | rightParen => cases whole; decide
  | ident proper =>
      rw [← whole, isIdent, Bool.and_eq_true] at proper
      have := identStart_toNat proper.1
      exact not_blank (by omega) this.2
  | text s =>
      rw [quote_toList] at whole
      cases whole
      decide
  | number n =>
      have digit := digit_toNat (List.all_eq_true.1 (Decimal.digits_all n.toNat) c (by simp [← whole]))
      exact not_blank (by omega) (by omega)
  | op op => cases op <;> cases whole <;> decide

theorem Spells.ne_nil {t : Token} {w : List Char} (spelled : Spells t w) : w ≠ [] := by
  cases spelled with
  | ident proper =>
      intro empty
      rw [empty] at proper
      cases proper
  | number n => exact Decimal.digits_ne_nil _
  | text s => simp [quote_toList]
  | op op => cases op <;> simp [Comparison.symbol]
  | _ => simp

theorem word_comparison {rest : List Char} (apart : ∀ c ∈ rest.head?, (c == '=') = false)
    (offset : Nat) :
    word offset '<' rest = .ok (.op .lt, rest) ∧ word offset '>' rest = .ok (.op .gt, rest) := by
  cases rest with
  | nil => exact ⟨rfl, rfl⟩
  | cons c rest =>
      have other : c ≠ '=' := by simpa using apart c rfl
      simp [word, other]

theorem word_ident {c : Char} {cs rest : List Char} {name : String} (whole : c :: cs = name.toList)
    (proper : isIdent name.toList = true) (apart : (Token.ident name).Apart rest) (offset : Nat) :
    word offset c (cs ++ rest) = .ok (.ident name, rest) := by
  rw [← whole, isIdent, Bool.and_eq_true] at proper
  obtain ⟨start, names⟩ := proper
  obtain ⟨taken, left⟩ := Text.takeWhile_apart (List.all_eq_true.1 names) apart
  have letter : ¬ Decimal.isDigit c = true := by
    intro digit
    have low := (identStart_toNat start).1
    have high := (digit_toNat digit).2
    omega
  rw [word_plain (not_mark (p := isIdentStart) rfl start), taken, left, if_neg letter, if_pos start,
    whole, String.ofList_toList]

theorem word_number {c : Char} {cs rest : List Char} {n : UInt64}
    (whole : c :: cs = Decimal.digits n.toNat) (apart : (Token.number n).Apart rest) (offset : Nat) :
    word offset c (cs ++ rest) = .ok (.number n, rest) := by
  have all := List.all_eq_true.1 (Decimal.digits_all n.toNat)
  rw [← whole] at all
  have digit := all c List.mem_cons_self
  obtain ⟨taken, left⟩ := Text.takeWhile_apart (fun d m => all d (List.mem_cons_of_mem _ m)) apart
  have within : n.toNat ≤ twoTo 64 - 1 := Nat.le_sub_one_of_lt n.toNat_lt
  rw [word_plain (not_mark (p := Decimal.isDigit) rfl digit), taken, left, if_pos digit, whole, Filter.number,
    Decimal.read_digits within]
  simp [Except.map]

/-- A word that the text does not go on with is read off the front of the text. -/
theorem Spells.read {t : Token} {c : Char} {cs rest : List Char} (spelled : Spells t (c :: cs))
    (apart : t.Apart rest) (offset : Nat) : word offset c (cs ++ rest) = .ok (t, rest) := by
  generalize whole : c :: cs = w at spelled
  cases spelled with
  | leftParen | rightParen => cases whole; rfl
  | ident proper => exact word_ident whole proper apart offset
  | text s =>
      rw [quote_toList] at whole
      cases whole
      rw [List.append_assoc, List.cons_append, List.nil_append]
      unfold word
      rw [if_neg (by decide), if_neg (by decide), if_pos rfl, unquote_quoteChars]
      simp only [String.ofList_toList]
  | number n => exact word_number whole apart offset
  | op op =>
      cases op <;> cases whole
      · rfl
      · rfl
      · exact (word_comparison apart offset).1
      · rfl
      · exact (word_comparison apart offset).2
      · rfl

/-- Words with blanks among them: what a text is written from. -/
inductive Written : List Token → List Char → Prop where
  | nil : Written [] []
  | blank {ts : List Token} {c : Char} {cs : List Char} (blank : isBlank c = true)
      (rest : Written ts cs) : Written ts (c :: cs)
  | word {t : Token} {ts : List Token} {w cs : List Char} (spelled : Spells t w)
      (apart : t.Apart cs) (rest : Written ts cs) : Written (t :: ts) (w ++ cs)

theorem scan_blank {total : Nat} {c : Char} (blank : isBlank c = true) (cs : List Char) :
    scan total (c :: cs) = scan total cs := by
  rw [scan.eq_def]
  exact if_pos blank

theorem scan_word {total : Nat} {c : Char} {cs rest : List Char} {t : Token}
    (visible : isBlank c = false) (read : ∀ offset, word offset c cs = .ok (t, rest)) :
    scan total (c :: cs) = (scan total rest).map (t :: ·) := by
  rw [scan.eq_def]
  dsimp only
  rw [visible, if_neg Bool.false_ne_true]
  split
  · next failed => cases (read _).symm.trans failed
  · next taken =>
    cases (read _).symm.trans taken
    rfl

theorem Written.scan {ts : List Token} {cs : List Char} (written : Written ts cs) (total : Nat) :
    scan total cs = .ok ts := by
  induction written with
  | nil => rw [Filter.scan.eq_def]
  | blank blank _ ih => rw [scan_blank blank, ih]
  | @word t ts w cs spelled apart _ ih =>
      obtain ⟨c, tail, rfl⟩ := List.exists_cons_of_ne_nil spelled.ne_nil
      rw [List.cons_append, scan_word spelled.visible (spelled.read apart), ih]
      rfl

theorem Written.tokenize {ts : List Token} {s : String} (written : Written ts s.toList) :
    tokenize s = .ok ts :=
  written.scan _

/-- There is no word in blanks alone. -/
theorem Written.not_blank {ts : List Token} {cs : List Char} (written : Written ts cs)
    (words : ts ≠ []) : cs.all isBlank = false := by
  induction written with
  | nil => exact absurd rfl words
  | blank _ _ ih => rw [List.all_cons, ih words, Bool.and_false]
  | @word t ts w cs spelled apart rest ih =>
      obtain ⟨c, tail, rfl⟩ := List.exists_cons_of_ne_nil spelled.ne_nil
      rw [List.cons_append, List.all_cons, spelled.visible, Bool.false_and]

/-- A text that no word before it goes on with. -/
def Separate (cs : List Char) : Prop := ∀ c ∈ cs.head?, ∀ t : Token, t.growsBy c = false

theorem Written.append {ts us : List Token} {cs ds : List Char} (front : Written ts cs)
    (back : Written us ds) (separate : Separate ds) : Written (ts ++ us) (cs ++ ds) := by
  induction front with
  | nil => exact back
  | blank blank _ ih => exact ih.blank blank
  | @word t ts w cs spelled apart _ ih =>
      rw [List.append_assoc]
      refine .word spelled (fun c first => ?_) ih
      cases cs with
      | nil => exact separate c first t
      | cons d cs => exact apart c first

theorem Written.one {t : Token} {w : List Char} (spelled : Spells t w) : Written [t] w := by
  have alone : Written [t] (w ++ []) := .word spelled (fun _ none => nomatch none) .nil
  rwa [List.append_nil] at alone

end Upkeep.Filter
