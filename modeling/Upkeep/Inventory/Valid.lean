import Upkeep.Resource
import Upkeep.Schedule.Window
import Upkeep.Text.Decimal
import Upkeep.Text.Hex
import Upkeep.Text.Quoted

/-! What may be written to an inventory. An ID is the stem of its kind, a hyphen and eight
lower-case hexadecimal digits; a name is made of a small set of ASCII characters. -/
namespace Upkeep

/-- Whether a text is an ID of the kind. -/
def Kind.isId (k : Kind) (id : String) : Bool :=
  let digits := id.toList.drop (k.idStem.length + 1)
  id.toList == k.idStem.toList ++ '-' :: digits && digits.length == 8 && digits.all Hex.isLower

/-- The ID of the kind with the eight digits of a word. -/
def Kind.idOf (k : Kind) (w : UInt32) : String :=
  k.idStem ++ "-" ++ String.ofList (Hex.padded 8 w.toNat)

def Kind.checkId (k : Kind) (id : String) : Answer Unit :=
  if k.isId id then .ok ()
  else .error (.invalidArgument ("invalid " ++ k.label ++ " resource_id " ++ Text.quoted id))

def isNameChar (c : Char) : Bool :=
  ('a' ≤ c && c ≤ 'z') || ('A' ≤ c && c ≤ 'Z') || Decimal.isDigit c || "_./: -".toList.contains c

def isName (s : String) : Bool := s.toList.all isNameChar

def checkName (s : String) : Answer Unit :=
  if isName s then .ok ()
  else .error (.invalidArgument
    ("invalid name " ++ Text.quoted s ++ ": only letters, digits and -_./: are allowed"))

namespace Schedule

def window (s : Schedule) : Window := ⟨s.start, s.finish⟩

/-- A schedule as it will be written. An ID not yet assigned is no fault. -/
def check (s : Schedule) : Answer Unit := do
  if s.id ≠ "" then Kind.schedule.checkId s.id
  checkName s.name
  if let some t := s.target then t.kind.checkId t.id
  s.window.check

end Schedule

end Upkeep
