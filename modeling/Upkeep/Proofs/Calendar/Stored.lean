import Upkeep.Proofs.Calendar.Stamp

/-! The stored form of an instant. From the year 0 to the year 9999 all stamps have one width, so that a stamp is
read as the instant that it was written of, and of two stamps the earlier one comes first in the order of texts. -/
namespace Upkeep.Calendar
open Decimal (padded isDigit)
open Upkeep.Text (isBlank read_next)

namespace Civil

/-- A time to the millisecond, in a year of four digits. -/
structure Stampable (c : Civil) : Prop where
  valid : c.Valid
  year : 0 ≤ c.year ∧ c.year < 10000
  whole : c.nanos % 1000000 = 0
  fraction : c.nanos < 1000000000

end Civil

def stampText (c : Civil) : List Char := secondText c ++ '.' :: (padded 3 (c.nanos / 1000000) ++ ['Z'])

theorem stamp_eq (t : Instant) : stamp t = String.ofList (stampText t.civil) := by
  simp only [stamp, stampText, List.append_assoc, List.cons_append]

section Reading
variable {k most n : Nat} {rest : List Char}

/-- A padded number begins with a digit. -/
theorem padded_cons (k n : Nat) : ∃ c cs, padded (k + 1) n = c :: cs ∧ isDigit c = true := by
  have all := Decimal.padded_all (k + 1) n
  have length := Decimal.length_padded (k + 1) n
  cases spelled : padded (k + 1) n with
  | nil =>
      rw [spelled] at length
      cases length
  | cons c cs =>
      rw [spelled, List.all_cons, Bool.and_eq_true] at all
      exact ⟨c, cs, rfl, all.1⟩

theorem dropBlanks_padded (k n : Nat) (rest : List Char) :
    (padded (k + 1) n ++ rest).dropWhile isBlank = padded (k + 1) n ++ rest := by
  obtain ⟨c, cs, spelled, digit⟩ := padded_cons k n
  obtain ⟨low, high⟩ := Decimal.digit_toNat digit
  have visible : isBlank c = false := Text.not_blank (by omega) (by omega)
  rw [spelled, List.cons_append, List.dropWhile_cons_of_neg (by simp [visible])]

/-- A number is taken whole where no more digits follow that could be taken. -/
theorem takeNumber_padded (fits : k + 1 ≤ most)
    (apart : ∀ c ∈ (rest.take (most - (k + 1))).head?, isDigit c = false) :
    takeNumber most (padded (k + 1) n ++ rest) = some (n % tenTo (k + 1), rest) := by
  have length := Decimal.length_padded (k + 1) n
  have taken : ((padded (k + 1) n ++ rest).take most).takeWhile isDigit = padded (k + 1) n := by
    rw [List.take_append, length, List.take_of_length_le (Nat.le_trans (Nat.le_of_eq length) fits)]
    exact (Text.takeWhile_apart (List.all_eq_true.1 (Decimal.padded_all _ n)) apart).1
  unfold takeNumber
  rw [taken]
  split
  · next empty =>
    rw [empty] at length
    cases length
  · rw [Decimal.number_padded, List.drop_left]

theorem takePlain_small (small : n < 100) (rest : List Char) :
    takePlain (padded 2 n ++ rest) = some (n, rest) := by
  rw [takePlain, dropBlanks_padded 1, takeNumber_padded (Nat.le_refl 2) nofun]
  exact congrArg (fun m => some (m, rest)) (Nat.mod_eq_of_lt small)

theorem takeChar_self (c : Char) (rest : List Char) : takeChar c (c :: rest) = some rest := if_pos rfl

theorem yearText_small {y : Int} (year : 0 ≤ y ∧ y < 10000) : yearText y = padded 4 y.toNat := by
  unfold yearText
  rw [if_neg (by omega), if_neg (by omega)]

theorem takeYear_text {y : Int} (year : 0 ≤ y ∧ y < 10000) (rest : List Char) :
    takeYear (yearText y ++ rest) = some (y, rest) := by
  rw [yearText_small year]
  have number : takeNumber 4 (padded 4 y.toNat ++ rest) = some (y.toNat % 10000, rest) :=
    takeNumber_padded (by decide) nofun
  obtain ⟨c, cs, spelled, digit⟩ := padded_cons 3 y.toNat
  unfold takeYear
  rw [dropBlanks_padded 3]
  rw [spelled, List.cons_append] at number ⊢
  split
  · next sign => cases sign; cases digit
  · next sign => cases sign; cases digit
  · rw [number, Option.map_some]
    exact congrArg (fun y => some (y, rest)) (by omega : ((y.toNat % 10000 : Nat) : Int) = y)

theorem takeFraction_millis (small : n < 1000) :
    takeFraction ('.' :: (padded 3 n ++ ['Z'])) = some (n * 1000000, ['Z']) := by
  have number : takeNumber 9 (padded 3 n ++ ['Z']) = some (n, ['Z']) := by
    rw [takeNumber_padded (by decide) (by rintro _ ⟨⟩; rfl)]
    exact congrArg (fun m => some (m, ['Z'])) (Nat.mod_eq_of_lt small)
  simp only [takeFraction, number, Option.bind_eq_bind, Option.bind_some, List.length_append, Decimal.length_padded]
  rfl

/-- What is stamped of a time is read as the time. -/
theorem readStamp_stampText {c : Civil} (can : c.Stampable) :
    readStamp (String.ofList (stampText c)) = some c.instant := by
  obtain ⟨valid, year, whole, fraction⟩ := can
  obtain ⟨month, day, hour, minute, second⟩ := valid.small
  have short : (c.second == 60) = false := beq_eq_false_iff_ne.2 (Nat.ne_of_lt valid.2.2.2.2.2)
  have millis : c.nanos / 1000000 * 1000000 = c.nanos := Nat.div_mul_cancel (Nat.dvd_of_mod_eq_zero whole)
  have fraction := takeFraction_millis (by omega : c.nanos / 1000000 < 1000)
  rw [millis] at fraction
  have known : stampYears c.year = true := by
    simp only [stampYears, Bool.and_eq_true, decide_eq_true_eq]
    omega
  unfold readStamp stampText
  rw [String.toList_ofList, secondText_append]
  refine read_next (takeYear_text year _) <| read_next (takeChar_self ..) <|
    read_next (takePlain_small month _) <| read_next (takeChar_self ..) <|
    read_next (takePlain_small day _) <| read_next (takeChar_self ..) <|
    read_next (takePlain_small hour _) <| read_next (takeChar_self ..) <|
    read_next (takePlain_small minute _) <| read_next (takeChar_self ..) <|
    read_next (takePlain_small second _) <| read_next fraction <| read_next (takeChar_self ..) ?_
  simp only [short, Bool.false_eq_true, if_false]
  exact if_pos ⟨rfl, known, valid⟩

end Reading
/-- Stamps are in the order of texts as the times are in order. -/
theorem stampText_lt {c d : Civil} (canC : c.Stampable) (canD : d.Stampable) :
    stampText c < stampText d ↔ c.Before d := by
  obtain ⟨validC, yearC, wholeC, fractionC⟩ := canC
  obtain ⟨validD, yearD, wholeD, fractionD⟩ := canD
  obtain ⟨monthC, dayC, hourC, minuteC, secondC⟩ := validC.small
  obtain ⟨monthD, dayD, hourD, minuteD, secondD⟩ := validD.small
  have year : c.year.toNat < 10000 ∧ d.year.toNat < 10000 := by omega
  have millis : c.nanos / 1000000 < 1000 ∧ d.nanos / 1000000 < 1000 := by omega
  unfold stampText
  rw [secondText_append, secondText_append, yearText_small yearC, yearText_small yearD]
  simp only [Text.lt_cons, Decimal.padded_append_lt (k := 4) year.1 year.2,
    Decimal.padded_append_lt (k := 2) monthC monthD, Decimal.padded_append_lt (k := 2) dayC dayD,
    Decimal.padded_append_lt (k := 2) hourC hourD, Decimal.padded_append_lt (k := 2) minuteC minuteD,
    Decimal.padded_append_lt (k := 2) secondC secondD, Decimal.padded_append_lt (k := 3) millis.1 millis.2,
    List.lt_irrefl, and_false, or_false, Civil.Before]
  omega

/-- The first millisecond of the year 10000. -/
def endOfStamps : Nat := 253402300800000

section Millis
variable {a b ms : Nat}

theorem normal_ofMillis (ms : Nat) : (Instant.ofMillis ms).normal = .ofMillis ms := by
  have fraction : ms % 1000 * 1000000 < 1000000000 := by omega
  simp only [Instant.normal, Instant.ofMillis, Nat.div_eq_of_lt fraction, Nat.mod_eq_of_lt fraction,
    Int.natCast_zero, Int.add_zero]

theorem dayNumber_ofMillis (ms : Nat) :
    (Instant.ofMillis ms).dayNumber = ((ms / 1000 : Nat) : Int) / 86400 + epochDay := by
  rw [Instant.dayNumber, normal_ofMillis]
  rfl

theorem stampable_ofMillis (early : ms < endOfStamps) : (Instant.ofMillis ms).civil.Stampable := by
  have nanos : (Instant.ofMillis ms).civil.nanos = ms % 1000 * 1000000 := by
    rw [Instant.civil_nanos, normal_ofMillis, Instant.ofMillis]
  obtain ⟨begun, lasting⟩ := (Instant.ofMillis ms).year_bounds
  rw [← daysBeforeYear_succ] at lasting
  rw [dayNumber_ofMillis] at begun lasting
  unfold epochDay at begun lasting
  unfold endOfStamps at early
  refine ⟨Instant.civil_valid _, ⟨?_, ?_⟩, by omega, by omega⟩
  · unfold daysBeforeYear at lasting
    omega
  · refine Int.not_le.1 fun late => ?_
    have ended := daysBeforeYear_mono late
    have last : daysBeforeYear 10000 = 3652425 := rfl
    omega

/-- What is stamped of a millisecond is read as the millisecond. -/
theorem readStamp_ofMillis (early : ms < endOfStamps) : readStamp (stamp (.ofMillis ms)) = some (.ofMillis ms) := by
  rw [stamp_eq, readStamp_stampText (stampable_ofMillis early), Instant.instant_civil, normal_ofMillis]

theorem stamp_lt (earlyA : a < endOfStamps) (earlyB : b < endOfStamps) (before : a < b) :
    stamp (.ofMillis a) < stamp (.ofMillis b) := by
  rw [stamp_eq, stamp_eq, String.lt_iff, String.toList_ofList, String.toList_ofList,
    stampText_lt (stampable_ofMillis earlyA) (stampable_ofMillis earlyB)]
  apply Instant.civil_before
  rw [normal_ofMillis, normal_ofMillis]
  simp only [Instant.Earlier, Instant.ofMillis]
  omega

end Millis

end Upkeep.Calendar
