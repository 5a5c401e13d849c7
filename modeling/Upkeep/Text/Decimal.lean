import Upkeep.Power

/-! Decimal numerals. `digits` writes a number without leading zeros; `read` takes
a numeral back within a bound, with one leading `+` allowed, and tells the three
ways in which a text fails to be such a numeral. -/
namespace Upkeep.Decimal

def digit (n : Nat) : Char := Char.ofNat (48 + n)

def digits (n : Nat) : List Char :=
  if n < 10 then [digit n] else digits (n / 10) ++ [digit (n % 10)]
termination_by n

def text (n : Nat) : String := String.ofList (digits n)

def integer (i : Int) : String := if i < 0 then "-" ++ text i.natAbs else text i.natAbs

/-- Exactly `k` digits, the number being taken modulo ten to the `k`. -/
def padded : Nat → Nat → List Char
  | 0, _ => []
  | k + 1, n => padded k (n / 10) ++ [digit (n % 10)]

def isDigit (c : Char) : Bool := '0' ≤ c && c ≤ '9'

def value (c : Char) : Nat := c.toNat - 48

/-- The number a run of digits stands for. -/
def number (cs : List Char) : Nat := cs.foldl (fun n c => 10 * n + value c) 0

inductive Fault where
  | empty
  | invalidDigit
  | tooLarge
  deriving DecidableEq

def Fault.message : Fault → String
  | .empty => "cannot parse integer from empty string"
  | .invalidDigit => "invalid digit found in string"
  | .tooLarge => "number too large to fit in target type"

/-- Digits are taken one by one, so of two faults the one further left is told. -/
def readFrom (max : Nat) : Nat → List Char → Except Fault Nat
  | n, [] => .ok n
  | n, c :: cs =>
    if isDigit c then
      let n := 10 * n + value c
      if n ≤ max then readFrom max n cs else .error .tooLarge
    else .error .invalidDigit

def read (max : Nat) : List Char → Except Fault Nat
  | [] => .error .empty
  | ['+'] => .error .invalidDigit
  | '+' :: cs => readFrom max 0 cs
  | cs => readFrom max 0 cs

/-- A numeral of an unsigned word of `bits` bits. -/
def readWord (bits : Nat) (s : String) : Except Fault Nat := read (twoTo bits - 1) s.toList

end Upkeep.Decimal
