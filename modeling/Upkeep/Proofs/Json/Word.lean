import Upkeep.Json.Reader
import Upkeep.Json.Writer
import Upkeep.Proofs.Text.Decimal

/-! The words that are written are the words that are read. A text comes back whatever is in
it, and the digits of a number come back as long as nothing follows that could be part of it. -/
namespace Upkeep.Json

theorem number_padded {n : Nat} (small : n < 32) : Hex.number? (Hex.padded 4 n) = some n := by
  revert n
  decide

theorem padded_four (n : Nat) : Hex.padded 4 n = [Hex.digit (n / 16 / 16 / 16 % 16),
    Hex.digit (n / 16 / 16 % 16), Hex.digit (n / 16 % 16), Hex.digit (n % 16)] := rfl

theorem unquote_plain {c : Char} (cs : List Char) (quote : c ≠ '"') (backslash : c ≠ '\\')
    (control : ¬ c.toNat < 32) :
    unquote (c :: cs) = (unquote cs).map fun (us, rest) => (c.toNat :: us, rest) := by
  rw [unquote.eq_def]
  split
  · next nothing => cases nothing
  · next same => cases same; exact absurd rfl quote
  · next same => cases same; exact absurd rfl backslash
  · next same => cases same; exact absurd rfl backslash
  · next same => cases same; rw [if_neg control]

theorem unquote_unit {a b c d : Char} {u : Nat} (cs : List Char)
    (h : Hex.number? [a, b, c, d] = some u) :
    unquote ('\\' :: 'u' :: a :: b :: c :: d :: cs) =
      (unquote cs).map fun (us, rest) => (u :: us, rest) := by
  simp only [unquote, h, Option.bind_some]

/-- Each character is written so that it is read as itself. -/
theorem unquote_escape (c : Char) (cs : List Char) :
    unquote (escape c ++ cs) = (unquote cs).map fun (us, rest) => (c.toNat :: us, rest) := by
  unfold escape
  by_cases quote : c = '"'
  · subst quote
    simp [unquote, shortEscape]
  by_cases backslash : c = '\\'
  · subst backslash
    simp [unquote, shortEscape]
  by_cases newline : c = '\n'
  · subst newline
    simp [unquote, shortEscape]
  by_cases feed : c = '\r'
  · subst feed
    simp [unquote, shortEscape]
  by_cases tab : c = '\t'
  · subst tab
    simp [unquote, shortEscape]
  by_cases back : c = '\x08'
  · subst back
    simp [unquote, shortEscape]
  by_cases form : c = '\x0c'
  · subst form
    simp [unquote, shortEscape]
  by_cases control : c.toNat < 32
  · have number := number_padded control
    simp only [quote, backslash, newline, feed, tab, back, form, control, if_true, if_false]
    rw [padded_four] at number ⊢
    exact unquote_unit cs number
  · simp only [quote, backslash, newline, feed, tab, back, form, control, if_false, List.cons_append,
      List.nil_append]
    exact unquote_plain cs quote backslash control

theorem unquote_quoted (cs rest : List Char) :
    unquote (cs.flatMap escape ++ '"' :: rest) = some (cs.map Char.toNat, rest) := by
  induction cs with
  | nil => simp [unquote]
  | cons c cs ih =>
      rw [List.flatMap_cons, List.append_assoc, unquote_escape, ih]
      rfl

/-- No character is half of a surrogate pair. -/
theorem not_surrogate (c : Char) : isHigh c.toNat = false ∧ isLow c.toNat = false := by
  have valid := c.valid
  unfold UInt32.isValidChar Nat.isValidChar at valid
  simp only [isHigh, isLow, Char.toNat, Bool.and_eq_false_iff, decide_eq_false_iff_not]
  omega

theorem assemble_toNat (cs : List Char) : assemble (cs.map Char.toNat) = some cs := by
  induction cs with
  | nil => rfl
  | cons c cs ih =>
      obtain ⟨high, low⟩ := not_surrogate c
      cases cs with
      | nil => simp [assemble, high, low]
      | cons d ds =>
          simp only [List.map_cons] at ih ⊢
          simp [assemble, high, low, ih]

theorem word_quote (s : String) (rest : List Char) :
    word '"' (s.toList.flatMap escape ++ '"' :: rest) = some (.text (some s), rest) := by
  simp only [word, unquote_quoted, Option.map_some, assemble_toNat, String.ofList_toList]

/-- Nothing follows, or the end of a part. -/
def Closed (rest : List Char) : Prop := ∀ c ∈ rest.head?, c = ',' ∨ c = ']' ∨ c = '}'

theorem closed_nil : Closed [] := nofun

theorem closed_comma (cs : List Char) : Closed (',' :: cs) := by
  rintro c ⟨⟩
  exact Or.inl rfl

theorem closed_bracket (cs : List Char) : Closed (']' :: cs) := by
  rintro c ⟨⟩
  exact Or.inr (Or.inl rfl)

theorem closed_brace (cs : List Char) : Closed ('}' :: cs) := by
  rintro c ⟨⟩
  exact Or.inr (Or.inr rfl)

variable {rest : List Char}

theorem Closed.takeWhile (closed : Closed rest) : rest.takeWhile Decimal.isDigit = [] := by
  cases rest with
  | nil => rfl
  | cons c cs => obtain rfl | rfl | rfl := closed c rfl <;> rfl

theorem Closed.dropWhile (closed : Closed rest) : rest.dropWhile Decimal.isDigit = rest := by
  cases rest with
  | nil => rfl
  | cons c cs => obtain rfl | rfl | rfl := closed c rfl <;> rfl

theorem Closed.takeFraction (closed : Closed rest) : takeFraction rest = some ([], rest) := by
  cases rest with
  | nil => rfl
  | cons c cs => obtain rfl | rfl | rfl := closed c rfl <;> rfl

theorem Closed.takeExponent (closed : Closed rest) : takeExponent rest = some (none, rest) := by
  cases rest with
  | nil => rfl
  | cons c cs => obtain rfl | rfl | rfl := closed c rfl <;> rfl

theorem takeWhole_digits (n : Nat) (closed : Closed rest) :
    takeWhole (Decimal.digits n ++ rest) = some (Decimal.digits n, rest) := by
  have all : ∀ c ∈ Decimal.digits n, Decimal.isDigit c = true := List.all_eq_true.1 (Decimal.digits_all n)
  have digits : takeDigits (Decimal.digits n ++ rest) = some (Decimal.digits n, rest) := by
    unfold takeDigits
    rw [List.takeWhile_append_of_pos all, List.dropWhile_append_of_pos all, closed.takeWhile,
      closed.dropWhile, List.append_nil, if_neg (Decimal.digits_ne_nil n)]
  rcases Nat.eq_zero_or_pos n with rfl | positive
  · rw [Decimal.digits_small (by decide : 0 < 10)]
    rfl
  · obtain ⟨c, cs, spelled, nonzero⟩ := Decimal.head_digits positive
    rw [spelled] at digits ⊢
    rw [List.cons_append] at digits ⊢
    unfold takeWhole
    split
    · next same => cases same; exact absurd rfl nonzero
    · exact digits

theorem word_digit {c : Char} (digit : Decimal.isDigit c = true) (cs : List Char) :
    word c cs = (takeNumeral false (c :: cs)).map fun (j, cs) => (.scalar j, cs) := by
  unfold word
  split <;> first | rfl | cases digit

/-- A number is read whole; it may be too large for an integer. -/
theorem word_digits (n : Nat) (closed : Closed rest) :
    ∃ c cs, Decimal.digits n = c :: cs ∧ Decimal.isDigit c = true ∧
      word c (cs ++ rest) = some (.scalar (numeral false (Decimal.digits n) [] none), rest) := by
  obtain ⟨c, cs, spelled⟩ := List.exists_cons_of_ne_nil (Decimal.digits_ne_nil n)
  have digit : Decimal.isDigit c = true := by
    have all := Decimal.digits_all n
    rw [spelled, List.all_cons, Bool.and_eq_true] at all
    exact all.1
  refine ⟨c, cs, spelled, digit, ?_⟩
  rw [word_digit digit, ← List.cons_append, ← spelled]
  unfold takeNumeral
  simp only [takeWhole_digits n closed, closed.takeFraction, closed.takeExponent, Option.bind_eq_bind,
    Option.bind_some, Option.pure_def, Option.map_some]

theorem numeral_digits {n : Nat} (small : n < twoTo 64) :
    numeral false (Decimal.digits n) [] none = .int n := by
  unfold numeral
  have fits : fits (n : Int) = true := by
    simp only [fits, Bool.and_eq_true, decide_eq_true_eq]
    constructor <;> omega
  simp [Decimal.number_digits, fits]

end Upkeep.Json
