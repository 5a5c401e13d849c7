import Upkeep.Text.Decimal

/-! Floating-point numbers of 64 bits as decimal text. Of the decimals that round to a number
the one with the fewest digits is written, the nearest if there are several, and always in
full, without an exponent. -/
namespace Upkeep.Shortest

/-- The number `whole` times ten to the `exponent`. -/
structure Decimal where
  whole : Nat
  exponent : Int

/-- A finite number that is not negative: `mantissa` times two to the `exponent`. -/
structure Binary where
  mantissa : Nat
  exponent : Int

namespace Binary

def ofBits (bits : Nat) : Binary :=
  let fraction := bits % twoTo 52
  let place := bits / twoTo 52 % twoTo 11
  if place = 0 then ⟨fraction, -1074⟩ else ⟨twoTo 52 + fraction, Int.ofNat place - 1075⟩

/-- What a quarter of the last place and the steps of a decimal grid measure, in a unit that
makes both whole. -/
def scales (b : Binary) (p : Int) : Nat × Nat :=
  (twoTo (b.exponent - 2).toNat * tenTo (-p).toNat, tenTo p.toNat * twoTo (2 - b.exponent).toNat)

/-- The quarters of the last place below which decimals belong to the number before. -/
def below (b : Binary) : Nat :=
  if b.mantissa = twoTo 52 ∧ -1074 < b.exponent then 4 * b.mantissa - 1 else 4 * b.mantissa - 2

/-- Whether a number of grid steps rounds to the number; the ends of the interval do if the
mantissa is even. -/
def isNear (b : Binary) (p : Int) (steps : Nat) : Bool :=
  let (quarter, step) := b.scales p
  let x := steps * step
  let low := b.below * quarter
  let high := (4 * b.mantissa + 2) * quarter
  if b.mantissa % 2 = 0 then low ≤ x && x ≤ high else low < x && x < high

/-- The grid point beside the number that rounds to it; of two the nearer one. -/
def onGrid (b : Binary) (p : Int) : Option Decimal :=
  let (quarter, step) := b.scales p
  let v := 4 * b.mantissa * quarter
  let d := v / step
  if b.isNear p d ∧ b.isNear p (d + 1) then
    if 2 * (v - d * step) < step ∨ (2 * (v - d * step) = step ∧ d % 2 = 0) then some ⟨d, p⟩
    else some ⟨d + 1, p⟩
  else if b.isNear p d then some ⟨d, p⟩
  else if b.isNear p (d + 1) then some ⟨d + 1, p⟩
  else none

/-- The coarsest grids come first. -/
def shortest (b : Binary) : Decimal :=
  ((List.range 660).findSome? fun (i : Nat) => b.onGrid (309 - i)).getD ⟨0, 0⟩

end Binary

/-- The decimal in full. -/
def Decimal.chars (d : Decimal) : List Char :=
  let ds := Upkeep.Decimal.digits d.whole
  let places := d.exponent.natAbs
  if 0 ≤ d.exponent then ds ++ List.replicate places '0'
  else
    let ds := List.replicate (places + 1 - ds.length) '0' ++ ds
    ds.take (ds.length - places) ++ '.' :: ds.drop (ds.length - places)

def text (x : Float) : String :=
  let bits := x.toBits.toNat
  let sign := if twoTo 63 ≤ bits then "-" else ""
  if x.isNaN then "NaN"
  else if x.isInf then sign ++ "inf"
  else if bits % twoTo 63 = 0 then sign ++ "0"
  else sign ++ String.ofList (Binary.ofBits (bits % twoTo 63)).shortest.chars

end Upkeep.Shortest
