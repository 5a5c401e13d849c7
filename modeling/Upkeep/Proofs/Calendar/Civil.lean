import Upkeep.Calendar.Civil

/-! Instants by the calendar. The civil time of an instant is a valid one, and it names the second
that it was made from. -/
namespace Upkeep.Calendar

/-- The year of a day has begun by then, and has not ended. -/
theorem yearOfDay_bounds (d : Int) :
    daysBeforeYear (yearOfDay d) ≤ d ∧ d < daysBeforeYear (yearOfDay d + 1) := by
  unfold yearOfDay
  dsimp only
  split
  · next early =>
    rw [Int.sub_add_cancel]
    refine ⟨?_, early⟩
    unfold daysBeforeYear
    omega
  · next begun =>
    split
    · next ended =>
      refine ⟨ended, ?_⟩
      unfold daysBeforeYear
      omega
    · next lasting => exact ⟨Int.not_lt.1 begun, Int.not_le.1 lasting⟩

def yearLength (leap : Bool) : Nat := ((monthLengths leap).foldr Nat.add 0)

theorem daysBeforeYear_succ (y : Int) :
    daysBeforeYear (y + 1) = daysBeforeYear y + yearLength (isLeap y) := by
  unfold daysBeforeYear isLeap
  by_cases fourth : y % 4 = 0
  · by_cases century : y % 100 = 0
    · by_cases era : y % 400 = 0
      · simp [fourth, century, era, yearLength, monthLengths]
        omega
      · simp [fourth, century, era, yearLength, monthLengths]
        omega
    · simp [fourth, century, yearLength, monthLengths]
      omega
  · simp [fourth, yearLength, monthLengths]
    omega

/-- A day falls into one of the months that are left, and there it has a place. -/
theorem monthDay_of_lt (lengths : List Nat) (m d : Nat) (within : d < lengths.foldr Nat.add 0) :
    ∃ i n k, lengths[i]? = some n ∧ k < n ∧ (lengths.take i).foldr Nat.add 0 + k = d ∧
      monthDay lengths m d = (m + i, k + 1) := by
  induction lengths generalizing m d with
  | nil => cases within
  | cons n ns ih =>
      unfold monthDay
      by_cases first : d < n
      · exact ⟨0, n, d, rfl, first, Nat.zero_add d, if_pos first⟩
      · have rest : d - n < ns.foldr Nat.add 0 := by
          have split : d < n + ns.foldr Nat.add 0 := within
          omega
        obtain ⟨i, l, k, there, small, sum, eq⟩ := ih (m + 1) (d - n) rest
        refine ⟨i + 1, l, k, there, small, ?_, ?_⟩
        · have total : ((n :: ns).take (i + 1)).foldr Nat.add 0 = n + (ns.take i).foldr Nat.add 0 := rfl
          omega
        · rw [if_neg first, eq, Nat.add_assoc, Nat.add_comm 1 i]

theorem daysBeforeYear_mono {y z : Int} (le : y ≤ z) : daysBeforeYear y ≤ daysBeforeYear z := by
  unfold daysBeforeYear
  omega

/-- The months before a month hold all months before that, each with all its days. -/
theorem take_lt {lengths : List Nat} {i j n : Nat} (before : i < j) (there : lengths[i]? = some n) :
    (lengths.take i).foldr Nat.add 0 + n ≤ (lengths.take j).foldr Nat.add 0 := by
  induction lengths generalizing i j with
  | nil => cases there
  | cons l ls ih =>
      cases j with
      | zero => cases before
      | succ j =>
          have all : ((l :: ls).take (j + 1)).foldr Nat.add 0 = l + (ls.take j).foldr Nat.add 0 := rfl
          cases i with
          | zero =>
              have first : l = n := Option.some.inj there
              have none : ((l :: ls).take 0).foldr Nat.add 0 = 0 := rfl
              omega
          | succ i =>
              have rest := ih (Nat.lt_of_succ_lt_succ before) there
              have part : ((l :: ls).take (i + 1)).foldr Nat.add 0 = l + (ls.take i).foldr Nat.add 0 := rfl
              omega

/-- Of two days of a year the earlier one has the earlier place in the months. -/
theorem place_lt {lengths : List Nat} {i j k l n : Nat} (there : lengths[j]? = some n) (small : l < n)
    (before : (lengths.take i).foldr Nat.add 0 + k < (lengths.take j).foldr Nat.add 0 + l) :
    i < j ∨ i = j ∧ k < l := by
  rcases Nat.lt_trichotomy i j with first | rfl | last
  · exact .inl first
  · exact .inr ⟨rfl, by omega⟩
  · have whole := take_lt last there
    omega

/-- Earlier by the calendar and the clock. -/
def Civil.Before (c d : Civil) : Prop :=
  c.year < d.year ∨ c.year = d.year ∧ (c.month < d.month ∨ c.month = d.month ∧
    (c.day < d.day ∨ c.day = d.day ∧ (c.hour < d.hour ∨ c.hour = d.hour ∧
      (c.minute < d.minute ∨ c.minute = d.minute ∧
        (c.second < d.second ∨ c.second = d.second ∧ c.nanos < d.nanos)))))

namespace Instant

def dayNumber (t : Instant) : Int := t.normal.seconds / 86400 + epochDay

theorem year_bounds (t : Instant) : daysBeforeYear t.civil.year ≤ t.dayNumber ∧
    t.dayNumber < daysBeforeYear t.civil.year + yearLength (isLeap t.civil.year) := by
  rw [← daysBeforeYear_succ]
  exact yearOfDay_bounds t.dayNumber

/-- The day of an instant has its place in a month of the year. -/
theorem civil_day (t : Instant) : ∃ i n k, (monthLengths (isLeap t.civil.year))[i]? = some n ∧ k < n ∧
    t.civil.month = i + 1 ∧ t.civil.day = k + 1 ∧
    daysBeforeYear t.civil.year + ((monthLengths (isLeap t.civil.year)).take i).foldr Nat.add 0 + k =
      t.dayNumber := by
  obtain ⟨begun, lasting⟩ := t.year_bounds
  have within : (t.dayNumber - daysBeforeYear t.civil.year).toNat < yearLength (isLeap t.civil.year) := by omega
  obtain ⟨i, n, k, there, small, sum, eq⟩ := monthDay_of_lt _ 1 _ within
  refine ⟨i, n, k, there, small, ?_, congrArg Prod.snd eq, by omega⟩
  exact (congrArg Prod.fst eq).trans (Nat.add_comm 1 i)

theorem civil_valid (t : Instant) : t.civil.Valid := by
  obtain ⟨i, n, k, there, small, month, day, -⟩ := t.civil_day
  have seconds : (t.normal.seconds % 86400).toNat < 86400 := by omega
  have hour : t.civil.hour < 24 := (Nat.div_lt_iff_lt_mul (by decide)).2 seconds
  have minute : t.civil.minute < 60 := Nat.mod_lt _ (by decide)
  have second : t.civil.second < 60 := Nat.mod_lt _ (by decide)
  refine ⟨by omega, by omega, ?_, hour, minute, second⟩
  rw [month, day, Nat.add_sub_cancel, there, Option.getD_some]
  exact small

theorem dayNumber_civil (t : Instant) : t.civil.dayNumber = t.dayNumber := by
  obtain ⟨i, n, k, -, -, month, day, sum⟩ := t.civil_day
  rw [Civil.dayNumber, month, day, Nat.add_sub_cancel]
  omega

theorem civil_nanos (t : Instant) : t.civil.nanos = t.normal.nanos := rfl

/-- The civil time of an instant names the same second. -/
theorem instant_civil (t : Instant) : t.civil.instant = t.normal := by
  have time : t.civil.hour * 3600 + t.civil.minute * 60 + t.civil.second = (t.normal.seconds % 86400).toNat := by
    change (t.normal.seconds % 86400).toNat / 3600 * 3600 + (t.normal.seconds % 86400).toNat / 60 % 60 * 60 +
      (t.normal.seconds % 86400).toNat % 60 = _
    omega
  have seconds : t.civil.instant.seconds = t.normal.seconds := by
    change (t.civil.dayNumber - epochDay) * 86400 +
      ((t.civil.hour * 3600 + t.civil.minute * 60 + t.civil.second : Nat) : Int) = _
    rw [dayNumber_civil, time, dayNumber, Int.add_sub_cancel]
    omega
  exact congrArg (Instant.mk · t.civil.nanos) seconds

/-- Earlier by the count of seconds. -/
def Earlier (t u : Instant) : Prop := t.seconds < u.seconds ∨ t.seconds = u.seconds ∧ t.nanos < u.nanos

variable {t u : Instant}

theorem year_le (days : t.dayNumber ≤ u.dayNumber) : t.civil.year ≤ u.civil.year := by
  obtain ⟨begun, -⟩ := t.year_bounds
  obtain ⟨-, lasting⟩ := u.year_bounds
  rw [← daysBeforeYear_succ] at lasting
  refine Int.not_lt.1 fun later => ?_
  have ended := daysBeforeYear_mono (Int.add_one_le_of_lt later)
  omega

/-- A day has one date. -/
theorem date_eq (same : t.dayNumber = u.dayNumber) :
    t.civil.year = u.civil.year ∧ t.civil.month = u.civil.month ∧ t.civil.day = u.civil.day := by
  let date (day : Int) : Nat × Nat :=
    monthDay (monthLengths (isLeap (yearOfDay day))) 1 (day - daysBeforeYear (yearOfDay day)).toNat
  have month : (date t.dayNumber).1 = (date u.dayNumber).1 := by rw [same]
  have day : (date t.dayNumber).2 = (date u.dayNumber).2 := by rw [same]
  exact ⟨congrArg yearOfDay same, month, day⟩

/-- An earlier day has an earlier date. -/
theorem date_lt (days : t.dayNumber < u.dayNumber) : t.civil.year < u.civil.year ∨ t.civil.year = u.civil.year ∧
    (t.civil.month < u.civil.month ∨ t.civil.month = u.civil.month ∧ t.civil.day < u.civil.day) := by
  rcases Int.lt_or_eq_of_le (year_le (Int.le_of_lt days)) with year | year
  · exact .inl year
  · obtain ⟨i, -, k, -, -, month, day, sum⟩ := t.civil_day
    obtain ⟨j, n, l, there, small, monthU, dayU, sumU⟩ := u.civil_day
    rw [year] at sum
    have place : i < j ∨ i = j ∧ k < l := place_lt there small (by omega)
    omega

/-- An earlier instant is earlier by the calendar and the clock. -/
theorem civil_before (earlier : t.normal.Earlier u.normal) : t.civil.Before u.civil := by
  have days : t.dayNumber < u.dayNumber ∨ t.dayNumber = u.dayNumber := by
    unfold dayNumber
    unfold Earlier at earlier
    omega
  -- on different days the dates decide, on the same day the hours do
  rcases days with days | days
  · have date := date_lt days
    unfold Civil.Before
    omega
  · obtain ⟨year, month, day⟩ := date_eq days
    have hour : t.civil.hour = (t.normal.seconds % 86400).toNat / 3600 := rfl
    have minute : t.civil.minute = (t.normal.seconds % 86400).toNat / 60 % 60 := rfl
    have second : t.civil.second = (t.normal.seconds % 86400).toNat % 60 := rfl
    have hourU : u.civil.hour = (u.normal.seconds % 86400).toNat / 3600 := rfl
    have minuteU : u.civil.minute = (u.normal.seconds % 86400).toNat / 60 % 60 := rfl
    have secondU : u.civil.second = (u.normal.seconds % 86400).toNat % 60 := rfl
    have nanos := t.civil_nanos
    have nanosU := u.civil_nanos
    unfold dayNumber at days
    unfold Earlier at earlier
    unfold Civil.Before
    omega

end Instant
end Upkeep.Calendar
