import Upkeep.Text.Blank
import Upkeep.Text.Hex
import Upkeep.Text.Utf8

/-! Addresses of requests. A path is cut into segments as it stands, and segments are decoded
afterwards; a query is a list of fields, each with a name and a value. -/
namespace Upkeep.Gateway

/-- The bytes of a text, with percent signs before two digits taken for the byte they write. -/
def percentBytes : List Char → List UInt8
  | '%' :: a :: b :: cs =>
    match Hex.value? a, Hex.value? b with
    | some h, some l => UInt8.ofNat (16 * h + l) :: percentBytes cs
    | _, _ => 0x25 :: percentBytes (a :: b :: cs)
  | c :: cs => Utf8.encode c.toString ++ percentBytes cs
  | [] => []
termination_by cs => cs.length

/-- A segment of a path; its bytes must be UTF-8. -/
def decodeSegment? (cs : List Char) : Option String := Utf8.decode? (percentBytes cs)

/-- A part of a query, where a plus stands for a space. -/
def decodeTerm (cs : List Char) : String :=
  Utf8.decode (percentBytes (cs.map fun c => if c = '+' then ' ' else c))

/-- The fields of a query; one without an equals sign has the empty value. -/
def queryFields (cs : List Char) : List (String × String) :=
  ((Text.splitOn (· = '&') cs).filter (· ≠ [])).map fun part =>
    match Text.splitOnce '=' part with
    | some (name, value) => (decodeTerm name, decodeTerm value)
    | none => (decodeTerm part, "")

structure Address where
  segments : List (List Char)
  query : List (String × String)

/-- Everything from the first of a character on is left out. -/
def before (sep : Char) (cs : List Char) : List Char := cs.takeWhile (· ≠ sep)

/-- The address that a request names; what follows a number sign does not count. -/
def Address.ofText (s : String) : Address :=
  let cs := before '#' s.toList
  let path := before '?' cs
  { segments := Text.splitOn (· = '/') path, query := queryFields (cs.drop (path.length + 1)) }

end Upkeep.Gateway
