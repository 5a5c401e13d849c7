import Upkeep.Calendar.Civil
import Upkeep.Text.Blank
import Upkeep.Text.Decimal

/-! Two text forms of an instant. A stamp is what the inventory stores: three digits of
fraction when written, none to nine when read. The internet form is what callers see:
the fewest of 0, 3, 6 and 9 digits that hold the fraction, and an offset when read. -/
namespace Upkeep.Calendar
open Upkeep.Text (isBlank)

/-- At least four digits, and a sign where four do not do. -/
def yearText (y : Int) : List Char :=
  if 9999 < y then '+' :: Decimal.digits y.toNat
  else if y < 0 then
    let ds := Decimal.digits y.natAbs
    '-' :: (List.replicate (4 - ds.length) '0' ++ ds)
  else Decimal.padded 4 y.toNat

/-- Date and time to the second. -/
def secondText (c : Civil) : List Char :=
  yearText c.year ++ '-' :: Decimal.padded 2 c.month ++ '-' :: Decimal.padded 2 c.day ++
    'T' :: Decimal.padded 2 c.hour ++ ':' :: Decimal.padded 2 c.minute ++
    ':' :: Decimal.padded 2 c.second

/-- The stored form of an instant. -/
def stamp (t : Instant) : String :=
  let c := t.civil
  String.ofList (secondText c ++ '.' :: Decimal.padded 3 (c.nanos / 1000000) ++ ['Z'])

def fractionText (nanos : Nat) : List Char :=
  if nanos = 0 then []
  else if nanos % 1000000 = 0 then '.' :: Decimal.padded 3 (nanos / 1000000)
  else if nanos % 1000 = 0 then '.' :: Decimal.padded 6 (nanos / 1000)
  else '.' :: Decimal.padded 9 nanos

/-- The internet form of an instant. -/
def Instant.text (t : Instant) : String :=
  let c := t.civil
  String.ofList (secondText c ++ fractionText c.nanos ++ ['Z'])

/-- Up to `most` digits, at least one, as a number; and what follows them. -/
def takeNumber (most : Nat) (cs : List Char) : Option (Nat × List Char) :=
  match (cs.take most).takeWhile Decimal.isDigit with
  | [] => none
  | ds => some (Decimal.number ds, cs.drop ds.length)

/-- A number that may have blanks before it. -/
def takePlain (cs : List Char) : Option (Nat × List Char) :=
  takeNumber 2 (cs.dropWhile isBlank)

/-- A year has four digits at most, or a sign and any number of digits. -/
def takeYear (cs : List Char) : Option (Int × List Char) :=
  match cs.dropWhile isBlank with
  | '-' :: cs => (takeNumber cs.length cs).map fun (n, cs) => (-n, cs)
  | '+' :: cs => (takeNumber cs.length cs).map fun (n, cs) => (n, cs)
  | cs => (takeNumber 4 cs).map fun (n, cs) => (n, cs)

def takeChar (c : Char) : List Char → Option (List Char)
  | d :: cs => if c = d then some cs else none
  | [] => none

/-- A fraction in nanoseconds; digits after the ninth are dropped. -/
def takeFraction : List Char → Option (Nat × List Char)
  | '.' :: cs => do
    let (n, rest) ← takeNumber 9 cs
    let used := cs.length - rest.length
    return (n * tenTo (9 - used), rest.dropWhile Decimal.isDigit)
  | cs => some (0, cs)

/-- The years that a stamp may name. -/
def stampYears (y : Int) : Bool := -262143 ≤ y && y ≤ 262142

/-- Reads a stamp. Second 60 is the 59th with a whole second of nanoseconds on top. -/
def readStamp (s : String) : Option Instant := do
  let (year, cs) ← takeYear s.toList
  let cs ← takeChar '-' cs
  let (month, cs) ← takePlain cs
  let cs ← takeChar '-' cs
  let (day, cs) ← takePlain cs
  let cs ← takeChar 'T' cs
  let (hour, cs) ← takePlain cs
  let cs ← takeChar ':' cs
  let (minute, cs) ← takePlain cs
  let cs ← takeChar ':' cs
  let (second, cs) ← takePlain cs
  let (nanos, cs) ← takeFraction cs
  let cs ← takeChar 'Z' cs
  let leap := second == 60
  let c : Civil :=
    { year, month, day, hour, minute, second := if leap then 59 else second,
      nanos := if leap then nanos + 1000000000 else nanos }
  if cs.isEmpty ∧ stampYears year ∧ c.Valid then some c.instant else none

def takeTwo : List Char → Option (Nat × List Char)
  | a :: b :: cs =>
    if Decimal.isDigit a && Decimal.isDigit b then some (Decimal.number [a, b], cs) else none
  | _ => none

/-- Four digits, or a sign and four digits or more. -/
def takeLongYear : List Char → Option (Int × List Char)
  | '+' :: cs => signed 1 cs
  | '-' :: cs => signed (-1) cs
  | cs => do
    let (a, cs) ← takeTwo cs
    let (b, cs) ← takeTwo cs
    return ((a * 100 + b : Nat), cs)
where
  signed (sign : Int) (cs : List Char) : Option (Int × List Char) :=
    let ds := cs.takeWhile Decimal.isDigit
    if 4 ≤ ds.length then some (sign * Decimal.number ds, cs.drop ds.length) else none

/-- A fraction of one to nine digits. -/
def takeShortFraction : List Char → Option (Nat × List Char)
  | '.' :: cs =>
    let ds := cs.takeWhile Decimal.isDigit
    if 1 ≤ ds.length ∧ ds.length ≤ 9 then
      some (Decimal.number ds * tenTo (9 - ds.length), cs.drop ds.length)
    else none
  | cs => some (0, cs)

/-- Seconds east of Greenwich. Nothing at all means none; `-00:00` is refused. -/
def takeOffset : List Char → Option (Int × List Char)
  | [] => some (0, [])
  | ' ' :: cs => zone cs
  | cs => zone cs
where
  minutes (sign : Int) (hour : Nat) : List Char → Option (Int × List Char)
    | [] => finish sign hour 0 []
    | ':' :: cs => takeTwo cs >>= fun (m, cs) => finish sign hour m cs
    | cs => takeTwo cs >>= fun (m, cs) => finish sign hour m cs
  finish (sign : Int) (hour minute : Nat) (cs : List Char) : Option (Int × List Char) :=
    if hour < 24 ∧ minute < 60 ∧ (0 < sign ∨ 0 < hour ∨ 0 < minute) then
      some (sign * (hour * 3600 + minute * 60 : Nat), cs)
    else none
  zone : List Char → Option (Int × List Char)
    | 'Z' :: cs => some (0, cs)
    | 'z' :: cs => some (0, cs)
    | '+' :: cs => takeTwo cs >>= fun (h, cs) => minutes 1 h cs
    | '-' :: cs => takeTwo cs >>= fun (h, cs) => minutes (-1) h cs
    | _ => none

def takeTime (cs : List Char) : Option (Nat × Nat × Nat × Nat × List Char) := do
  let (hour, cs) ← takeTwo cs
  let cs ← takeChar ':' cs
  let (minute, cs) ← takeTwo cs
  let cs ← takeChar ':' cs
  let (second, cs) ← takeTwo cs
  let (nanos, cs) ← takeShortFraction cs
  return (hour, minute, second, nanos, cs)

def Civil.instant? (c : Civil) : Option Instant := if c.Valid then some c.instant else none

/-- Reads the internet form. A date alone is midnight; second 60 counts as the 59th. -/
def readInstant (s : String) : Option Instant := do
  let (year, cs) ← takeLongYear s.toList
  let cs ← takeChar '-' cs
  let (month, cs) ← takeTwo cs
  let cs ← takeChar '-' cs
  let (day, cs) ← takeTwo cs
  match cs with
  | [] => Civil.instant? { year, month, day }
  | d :: cs =>
    if d = 'T' ∨ d = 't' ∨ d = ' ' then
      let (hour, minute, second, nanos, cs) ← takeTime cs
      let (offset, cs) ← takeOffset cs
      let t ← Civil.instant?
        { year, month, day, hour, minute, second := if second = 60 then 59 else second, nanos }
      if cs.isEmpty then some { t with seconds := t.seconds - offset } else none
    else none

end Upkeep.Calendar
