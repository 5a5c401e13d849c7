import Upkeep.Calendar.Stamp
import Upkeep.Proofs.Calendar.Civil
import Upkeep.Proofs.Text.Decimal

/-! The internet form of an instant, read back. Each part of a date or a time of day is written so
that it is read as what it was, whatever comes after it. -/
namespace Upkeep.Calendar
open Decimal (padded isDigit)

namespace Civil

theorem monthLength_le (leap : Bool) : ∀ n ∈ monthLengths leap, n ≤ 31 := by
  cases leap <;> decide

theorem length_monthLengths (leap : Bool) : (monthLengths leap).length = 12 := by
  cases leap <;> rfl

/-- No part of a valid time but the year has more than two digits. -/
theorem Valid.small {c : Civil} (valid : c.Valid) :
    c.month < 100 ∧ c.day < 100 ∧ c.hour < 100 ∧ c.minute < 100 ∧ c.second < 100 := by
  obtain ⟨-, positive, within, hour, minute, second⟩ := valid
  cases there : (monthLengths (isLeap c.year))[c.month - 1]? with
  | none =>
      rw [there] at within
      exact absurd (Nat.le_trans positive within) (by decide)
  | some n =>
      rw [there] at within
      obtain ⟨bound, rfl⟩ := List.getElem?_eq_some_iff.1 there
      have short := monthLength_le _ _ (List.getElem_mem bound)
      have last : c.day ≤ (monthLengths (isLeap c.year))[c.month - 1] := within
      rw [length_monthLengths] at bound
      omega

end Civil

theorem takeTwo_padded (n : Nat) (rest : List Char) :
    takeTwo (padded 2 n ++ rest) = some (n % 100, rest) := by
  have digits := Decimal.padded_all 2 n
  have number : Decimal.number (padded 2 n) = n % 100 := Decimal.number_padded 2 n
  simp only [padded, List.nil_append, List.cons_append, List.all_cons, List.all_nil, Bool.and_true]
    at digits number ⊢
  simp only [takeTwo, digits, if_true, number]

theorem takeTwo_small {n : Nat} (small : n < 100) (rest : List Char) :
    takeTwo (padded 2 n ++ rest) = some (n, rest) := by
  rw [takeTwo_padded, Nat.mod_eq_of_lt small]

theorem padded_four (n : Nat) : padded 4 n = padded 2 (n / 100) ++ padded 2 n := by
  simp only [padded, Nat.div_div_eq_div_mul, List.nil_append, List.cons_append]

theorem takeSigned_digits (sign : Int) {ds : List Char} (all : ds.all isDigit = true)
    (long : 4 ≤ ds.length) (rest : List Char) :
    takeLongYear.signed sign (ds ++ '-' :: rest) = some (sign * Decimal.number ds, '-' :: rest) := by
  unfold takeLongYear.signed
  rw [Decimal.takeWhile_digits all rfl, if_pos long, List.drop_left]

theorem takeLongYear_unsigned {cs ds rest : List Char} {a b : Nat} (first : takeTwo cs = some (a, ds))
    (second : takeTwo ds = some (b, rest)) : takeLongYear cs = some (((a * 100 + b : Nat) : Int), rest) := by
  unfold takeLongYear
  split
  · next cs =>
    cases cs with
    | nil => cases first
    | cons c cs => cases first
  · next cs =>
    cases cs with
    | nil => cases first
    | cons c cs => cases first
  · rw [first]
    simp only [Option.bind_eq_bind, Option.bind_some, second, Option.pure_def]

theorem four_le_length_digits {n : Nat} (large : 9999 < n) : 4 ≤ (Decimal.digits n).length := by
  rw [Decimal.digits_step (by omega), Decimal.digits_step (by omega), Decimal.digits_step (by omega)]
  have last := List.length_pos_iff.2 (Decimal.digits_ne_nil (n / 10 / 10 / 10))
  simp only [List.length_append, List.length_singleton]
  omega

/-- A year is read as it was, with sign or without. -/
theorem takeLongYear_text (y : Int) (rest : List Char) :
    takeLongYear (yearText y ++ '-' :: rest) = some (y, '-' :: rest) := by
  unfold yearText
  split
  · next large =>
    have long := four_le_length_digits (n := y.toNat) (by omega)
    refine (takeSigned_digits 1 (Decimal.digits_all y.toNat) long rest).trans ?_
    rw [Decimal.number_digits]
    congr 2
    omega
  · split
    · next negative =>
      have all : (List.replicate (4 - (Decimal.digits y.natAbs).length) '0' ++ Decimal.digits y.natAbs).all
          isDigit = true := by
        rw [List.all_append, List.all_replicate, Decimal.digits_all, Bool.and_true]
        split
        · rfl
        · rfl
      refine (takeSigned_digits (-1) all ?_ rest).trans ?_
      · rw [List.length_append, List.length_replicate]
        omega
      · rw [Decimal.number_zeros, Decimal.number_digits]
        congr 2
        omega
    · have small : y.toNat / 100 < 100 := by omega
      rw [padded_four, List.append_assoc]
      rw [takeLongYear_unsigned (takeTwo_small small _) (takeTwo_padded y.toNat _)]
      congr 2
      omega

/-- A fraction in `k` digits counts units of the `k`-th place. -/
theorem takeShortFraction_padded {k n : Nat} (least : 1 ≤ k) (most : k ≤ 9) (small : n < tenTo k) :
    takeShortFraction ('.' :: padded k n ++ ['Z']) = some (n * tenTo (9 - k), ['Z']) := by
  have taken := Decimal.takeWhile_digits (Decimal.padded_all k n) (rfl : isDigit 'Z' = false) []
  have length := Decimal.length_padded k n
  have left : (padded k n ++ ['Z']).drop (padded k n).length = ['Z'] := List.drop_left
  rw [length] at left
  simp only [takeShortFraction, List.cons_append, taken, length, least, most, and_self, if_true, left,
    Decimal.number_padded, Nat.mod_eq_of_lt small]

/-- The fewest digits that hold a fraction hold it exactly. -/
theorem takeShortFraction_text {nanos : Nat} (small : nanos < 1000000000) :
    takeShortFraction (fractionText nanos ++ ['Z']) = some (nanos, ['Z']) := by
  unfold fractionText
  split
  · next none =>
    rw [none]
    rfl
  · split
    · next millis =>
      rw [takeShortFraction_padded (by decide) (by decide) (by omega : nanos / 1000000 < 1000)]
      exact congrArg (fun n => some (n, ['Z'])) (Nat.div_mul_cancel (Nat.dvd_of_mod_eq_zero millis))
    · split
      · next micros =>
        rw [takeShortFraction_padded (by decide) (by decide) (by omega : nanos / 1000 < 1000000)]
        exact congrArg (fun n => some (n, ['Z'])) (Nat.div_mul_cancel (Nat.dvd_of_mod_eq_zero micros))
      · rw [takeShortFraction_padded (by decide) (by decide) small]
        exact congrArg (fun n => some (n, ['Z'])) (Nat.mul_one nanos)

theorem takeTime_text {c : Civil} (valid : c.Valid) (small : c.nanos < 1000000000) :
    takeTime (padded 2 c.hour ++ ':' :: (padded 2 c.minute ++ ':' :: (padded 2 c.second ++
      (fractionText c.nanos ++ ['Z'])))) = some (c.hour, c.minute, c.second, c.nanos, ['Z']) := by
  obtain ⟨-, -, hour, minute, second⟩ := valid.small
  simp only [takeTime, takeTwo_small hour, takeTwo_small minute, takeTwo_small second, takeChar,
    takeShortFraction_text small, if_true, Option.bind_eq_bind, Option.bind_some, Option.pure_def]

theorem secondText_append (c : Civil) (rest : List Char) : secondText c ++ rest =
    yearText c.year ++ '-' :: (padded 2 c.month ++ '-' :: (padded 2 c.day ++ 'T' :: (padded 2 c.hour ++
      ':' :: (padded 2 c.minute ++ ':' :: (padded 2 c.second ++ rest))))) := by
  simp only [secondText, List.append_assoc, List.cons_append]

/-- What is written of an instant is read as the instant, whatever year it is in. -/
theorem readInstant_text (t : Instant) : readInstant t.text = some t.normal := by
  have valid := t.civil_valid
  obtain ⟨month, day, -, -, -⟩ := valid.small
  have second : t.civil.second ≠ 60 := Nat.ne_of_lt valid.2.2.2.2.2
  have time := takeTime_text valid (Nat.mod_lt _ (by decide) : t.civil.nanos < 1000000000)
  have whole : Civil.instant? t.civil = some t.normal := by
    rw [Civil.instant?, if_pos valid, t.instant_civil]
  unfold readInstant Instant.text
  dsimp only
  rw [String.toList_ofList, List.append_assoc, secondText_append]
  simp only [takeLongYear_text, takeTwo_small month, takeTwo_small day, takeChar, time, if_true, true_or,
    Option.bind_eq_bind, Option.bind_some, if_neg second]
  have offset : takeOffset ['Z'] = some (0, []) := rfl
  rw [offset, Option.bind_some, whole, Option.bind_some]
  simp

end Upkeep.Calendar
