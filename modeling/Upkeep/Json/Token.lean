import Upkeep.Json.Basic
import Upkeep.Text.Decimal
import Upkeep.Text.Hex

/-! The words of a JSON text: punctuation, texts, and the values that have no parts. -/
namespace Upkeep.Json

inductive Token where
  | openArray
  | closeArray
  | openObject
  | closeObject
  | comma
  | colon
  | text (s : Option String)
  | scalar (j : Json)

def isHigh (u : Nat) : Bool := 0xD800 ≤ u && u < 0xDC00

def isLow (u : Nat) : Bool := 0xDC00 ≤ u && u < 0xE000

/-- The characters that code units stand for; a surrogate needs its partner right beside it. -/
def assemble : List Nat → Option (List Char)
  | [] => some []
  | [u] => if isHigh u || isLow u then none else some [Char.ofNat u]
  | u :: v :: us =>
    if isHigh u then
      if isLow v then
        (assemble us).map (Char.ofNat (0x10000 + (u - 0xD800) * 0x400 + (v - 0xDC00)) :: ·)
      else none
    else if isLow u then none
    else (assemble (v :: us)).map (Char.ofNat u :: ·)

/-- What a backslash and a letter stand for. -/
def shortEscape (c : Char) : Option Nat :=
  match c with
  | '"' => some 0x22
  | '\\' => some 0x5C
  | '/' => some 0x2F
  | 'b' => some 8
  | 'f' => some 12
  | 'n' => some 10
  | 'r' => some 13
  | 't' => some 9
  | _ => none

/-- The code units up to the closing quote, and what follows the quote. -/
def unquote : List Char → Option (List Nat × List Char)
  | [] => none
  | '"' :: cs => some ([], cs)
  | '\\' :: 'u' :: a :: b :: c :: d :: cs =>
    (Hex.number? [a, b, c, d]).bind fun u => (unquote cs).map fun (us, rest) => (u :: us, rest)
  | '\\' :: c :: cs =>
    (shortEscape c).bind fun u => (unquote cs).map fun (us, rest) => (u :: us, rest)
  | c :: cs =>
    if c.toNat < 32 then none else (unquote cs).map fun (us, rest) => (c.toNat :: us, rest)

theorem unquote_length {cs rest : List Char} {us : List Nat} (h : unquote cs = some (us, rest)) :
    rest.length < cs.length := by
  fun_induction unquote cs generalizing us
  case case1 => simp at h
  case case2 => simp_all
  case case3 ih =>
    obtain ⟨u, -, h⟩ := Option.bind_eq_some_iff.1 h
    obtain ⟨a, ha, e⟩ := Option.map_eq_some_iff.1 h
    grind
  case case4 ih =>
    obtain ⟨u, -, h⟩ := Option.bind_eq_some_iff.1 h
    obtain ⟨a, ha, e⟩ := Option.map_eq_some_iff.1 h
    grind
  case case5 => simp at h
  case case6 ih =>
    obtain ⟨a, ha, e⟩ := Option.map_eq_some_iff.1 h
    grind

/-- Digits at the front, one at least, and what follows them. -/
def takeDigits (cs : List Char) : Option (List Char × List Char) :=
  if cs.takeWhile Decimal.isDigit = [] then none
  else some (cs.takeWhile Decimal.isDigit, cs.dropWhile Decimal.isDigit)

/-- The whole part of a number has no leading zeros. -/
def takeWhole : List Char → Option (List Char × List Char)
  | '0' :: cs => some (['0'], cs)
  | cs => takeDigits cs

def takeFraction : List Char → Option (List Char × List Char)
  | '.' :: cs => takeDigits cs
  | cs => some ([], cs)

def takeExponent : List Char → Option (Option Int × List Char)
  | c :: cs =>
    if c = 'e' ∨ c = 'E' then
      match cs with
      | '-' :: cs => (takeDigits cs).map fun (ds, cs) => (some (-Decimal.number ds), cs)
      | '+' :: cs => (takeDigits cs).map fun (ds, cs) => (some (Decimal.number ds), cs)
      | cs => (takeDigits cs).map fun (ds, cs) => (some (Decimal.number ds), cs)
    else some (none, c :: cs)
  | [] => some (none, [])

/-- Half a unit in the last place above the largest floating-point number of 64 bits. -/
def unbounded : Nat := twoTo 1024 - twoTo 970

/-- Whether a number rounds to no finite floating-point number. -/
def Scientific.tooLarge (r : Scientific) : Bool :=
  let places := (Decimal.digits r.mantissa).length + r.exponent
  r.mantissa != 0 && (places > 309 ||
    places == 309 && (if r.exponent < 0 then unbounded * tenTo r.exponent.natAbs ≤ r.mantissa
      else unbounded ≤ r.mantissa * tenTo r.exponent.natAbs))

/-- Whether an integer is one of 64 bits, with or without a sign. -/
def fits (n : Int) : Bool := -twoTo 63 ≤ n && n < twoTo 64

/-- A number without fraction and exponent is an integer if it fits; minus zero is none. -/
def numeral (negative : Bool) (whole fraction : List Char) (exponent : Option Int) : Json :=
  let n : Int := if negative then -Decimal.number whole else Decimal.number whole
  if fraction.isEmpty ∧ exponent = none ∧ (!negative ∨ n ≠ 0) ∧ fits n then .int n
  else
    let r : Scientific :=
      ⟨negative, Decimal.number (whole ++ fraction), exponent.getD 0 - fraction.length⟩
    if Scientific.tooLarge r then .garbled else .real r

def takeNumeral (negative : Bool) (cs : List Char) : Option (Json × List Char) := do
  let (whole, cs) ← takeWhole cs
  let (fraction, cs) ← takeFraction cs
  let (exponent, cs) ← takeExponent cs
  return (numeral negative whole fraction exponent, cs)

def afterWord (w : String) (cs : List Char) : Option (List Char) :=
  if w.toList.isPrefixOf cs then some (cs.drop w.length) else none

/-- The first word and what follows it. -/
def word : Char → List Char → Option (Token × List Char)
  | '[', cs => some (.openArray, cs)
  | ']', cs => some (.closeArray, cs)
  | '{', cs => some (.openObject, cs)
  | '}', cs => some (.closeObject, cs)
  | ',', cs => some (.comma, cs)
  | ':', cs => some (.colon, cs)
  | '"', cs => (unquote cs).map fun (us, rest) => (.text ((assemble us).map String.ofList), rest)
  | 'n', cs => (afterWord "ull" cs).map fun cs => (.scalar .null, cs)
  | 't', cs => (afterWord "rue" cs).map fun cs => (.scalar (.bool true), cs)
  | 'f', cs => (afterWord "alse" cs).map fun cs => (.scalar (.bool false), cs)
  | '-', cs => (takeNumeral true cs).map fun (j, cs) => (.scalar j, cs)
  | c, cs => (takeNumeral false (c :: cs)).map fun (j, cs) => (.scalar j, cs)

theorem takeDigits_length {cs ds rest : List Char} (h : takeDigits cs = some (ds, rest)) :
    rest.length < cs.length := by
  have e : cs.takeWhile Decimal.isDigit ++ cs.dropWhile Decimal.isDigit = cs :=
    List.takeWhile_append_dropWhile
  have := congrArg List.length e
  unfold takeDigits at h
  split at h
  · cases h
  · have := List.length_pos_iff.2 ‹_›
    cases h
    grind

theorem takeWhole_length {cs ds rest : List Char} (h : takeWhole cs = some (ds, rest)) :
    rest.length < cs.length := by
  unfold takeWhole at h
  split at h
  · cases h
    simp
  · exact takeDigits_length h

theorem takeFraction_length {cs ds rest : List Char} (h : takeFraction cs = some (ds, rest)) :
    rest.length ≤ cs.length := by
  unfold takeFraction at h
  split at h
  · exact Nat.le_succ_of_le (Nat.le_of_lt (takeDigits_length h))
  · cases h
    exact Nat.le_refl _

theorem takeExponent_length {cs rest : List Char} {n : Option Int}
    (h : takeExponent cs = some (n, rest)) : rest.length ≤ cs.length := by
  unfold takeExponent at h
  repeat' split at h
  all_goals grind [Option.map_eq_some_iff, → takeDigits_length]

theorem takeNumeral_length {negative : Bool} {cs rest : List Char} {j : Json}
    (h : takeNumeral negative cs = some (j, rest)) : rest.length < cs.length := by
  obtain ⟨⟨whole, a⟩, h₁, h⟩ := Option.bind_eq_some_iff.1 h
  obtain ⟨⟨fraction, b⟩, h₂, h⟩ := Option.bind_eq_some_iff.1 h
  obtain ⟨⟨exponent, c⟩, h₃, h⟩ := Option.bind_eq_some_iff.1 h
  cases h
  have := takeWhole_length h₁
  have := takeFraction_length h₂
  have := takeExponent_length h₃
  omega

theorem word_length {c : Char} {cs rest : List Char} {t : Token}
    (h : word c cs = some (t, rest)) : rest.length ≤ cs.length := by
  unfold word at h
  split at h <;> simp_all <;> grind [→ unquote_length, → takeNumeral_length, afterWord]

end Upkeep.Json
