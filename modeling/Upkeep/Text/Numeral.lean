import Upkeep.Text.Blank
import Upkeep.Text.Decimal

/-! Numbers in free text: integers with a sign, and floating-point numbers with or without
fraction and exponent, infinity and what is no number being among them. -/
namespace Upkeep.Numeral
open Decimal (isDigit number)

/-- Whether a minus stands in front, and what follows the sign. -/
def sign : List Char → Bool × List Char
  | '-' :: cs => (true, cs)
  | '+' :: cs => (false, cs)
  | cs => (false, cs)

def signed (negative : Bool) (n : Nat) : Int := if negative then -n else n

/-- A number without sign in some base, whose digits have values. -/
def unsigned? (value? : Char → Option Nat) (base : Nat) (cs : List Char) : Option Nat :=
  if cs = [] then none else cs.foldlM (fun n c => (value? c).map (base * n + ·)) 0

def digit? (c : Char) : Option Nat := if isDigit c then some (Decimal.value c) else none

def int64 (i : Int) : Option Int := if -twoTo 63 ≤ i ∧ i < twoTo 63 then some i else none

/-- An integer of 64 bits. -/
def int? (cs : List Char) : Option Int :=
  let (negative, cs) := sign cs
  (unsigned? digit? 10 cs).bind fun n => int64 (signed negative n)

/-- The floating-point number of 64 bits that is nearest to a mantissa times ten to an
exponent. -/
def nearest (negative : Bool) (mantissa : Nat) (exponent : Int) : Float :=
  let places := (Decimal.digits mantissa).length + exponent
  let x : Float :=
    if mantissa = 0 ∨ places < -330 then 0
    else if 310 < places then 1 / 0
    else Float.ofScientific mantissa (exponent < 0) exponent.natAbs
  if negative then -x else x

/-- The exponent of a number, which is zero where none is written. -/
def exponent? : List Char → Option Int
  | [] => some 0
  | c :: cs =>
    if c = 'e' ∨ c = 'E' then
      let (negative, cs) := sign cs
      (unsigned? digit? 10 cs).map (signed negative)
    else none

/-- A run of digits, perhaps with a point in it, and perhaps an exponent. -/
def finite? (negative : Bool) (cs : List Char) : Option Float := do
  let whole := cs.takeWhile isDigit
  let (fraction, rest) := match cs.dropWhile isDigit with
    | '.' :: cs => (cs.takeWhile isDigit, cs.dropWhile isDigit)
    | cs => ([], cs)
  if whole = [] ∧ fraction = [] then none
  let exponent ← exponent? rest
  return nearest negative (number (whole ++ fraction)) (exponent - fraction.length)

def real? (cs : List Char) : Option Float :=
  let (negative, cs) := sign cs
  let word := String.ofList cs
  if Text.sameWord word "inf" ∨ Text.sameWord word "infinity" then
    some (if negative then -1 / 0 else 1 / 0)
  else if Text.sameWord word "nan" then some (0 / 0)
  else finite? negative cs

end Upkeep.Numeral
