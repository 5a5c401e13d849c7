/-! The proleptic Gregorian calendar. An instant counts seconds from 1970-01-01T00:00:00Z;
a civil time names the same second by year, month, day and time of day. -/
namespace Upkeep.Calendar

structure Instant where
  seconds : Int := 0
  nanos : Nat := 0
  deriving DecidableEq

structure Civil where
  year : Int
  month : Nat := 1
  day : Nat := 1
  hour : Nat := 0
  minute : Nat := 0
  second : Nat := 0
  nanos : Nat := 0
  deriving DecidableEq

def isLeap (y : Int) : Bool := y % 4 == 0 && (y % 100 != 0 || y % 400 == 0)

def monthLengths (leap : Bool) : List Nat :=
  [31, if leap then 29 else 28, 31, 30, 31, 30, 31, 31, 30, 31, 30, 31]

/-- Days from the first day of year 0 to the first day of year `y`. -/
def daysBeforeYear (y : Int) : Int := 365 * y + (y + 3) / 4 - (y + 99) / 100 + (y + 399) / 400

/-- Days from the first day of year 0 to 1970-01-01. -/
def epochDay : Int := 719528

/-- The year that holds day `d`: 400 years have 146097 days, so the quotient is off by at most
one. -/
def yearOfDay (d : Int) : Int :=
  let y := 400 * d / 146097
  if d < daysBeforeYear y then y - 1
  else if daysBeforeYear (y + 1) ≤ d then y + 1
  else y

/-- Month and day of month, both from one, of the day `d` of the months that are left. -/
def monthDay : List Nat → Nat → Nat → Nat × Nat
  | [], m, d => (m, d + 1)
  | n :: ns, m, d => if d < n then (m, d + 1) else monthDay ns (m + 1) (d - n)

namespace Civil

def Valid (c : Civil) : Prop :=
  1 ≤ c.month ∧ 1 ≤ c.day ∧ c.day ≤ ((monthLengths (isLeap c.year))[c.month - 1]?).getD 0 ∧
    c.hour < 24 ∧ c.minute < 60 ∧ c.second < 60

instance (c : Civil) : Decidable c.Valid := by unfold Valid; infer_instance

def dayNumber (c : Civil) : Int :=
  let before := ((monthLengths (isLeap c.year)).take (c.month - 1)).foldr Nat.add 0
  daysBeforeYear c.year + before + (c.day - 1 : Int)

def instant (c : Civil) : Instant where
  seconds := (c.dayNumber - epochDay) * 86400 + (c.hour * 3600 + c.minute * 60 + c.second : Nat)
  nanos := c.nanos

end Civil

/-- The nanoseconds brought below one second. -/
def Instant.normal (t : Instant) : Instant where
  seconds := t.seconds + (t.nanos / 1000000000 : Nat)
  nanos := t.nanos % 1000000000

def Instant.civil (t : Instant) : Civil :=
  let t := t.normal
  let day := t.seconds / 86400 + epochDay
  let time := (t.seconds % 86400).toNat
  let year := yearOfDay day
  let (month, dayOfMonth) :=
    monthDay (monthLengths (isLeap year)) 1 (day - daysBeforeYear year).toNat
  { year, month, day := dayOfMonth, hour := time / 3600, minute := time / 60 % 60,
    second := time % 60, nanos := t.nanos }

/-- The instant `ms` milliseconds after the start of 1970. -/
def Instant.ofMillis (ms : Nat) : Instant where
  seconds := (ms / 1000 : Nat)
  nanos := ms % 1000 * 1000000

end Upkeep.Calendar
