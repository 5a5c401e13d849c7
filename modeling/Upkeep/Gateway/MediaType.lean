import Upkeep.Text.Blank

/-! Media types, as they name what a body holds: a type, a subtype, and parameters. -/
namespace Upkeep.Gateway

def isTokenChar (c : Char) : Bool :=
  ('a' ≤ c && c ≤ 'z') || ('A' ≤ c && c ≤ 'Z') || ('0' ≤ c && c ≤ '9') ||
    "!#$%&'*+-.^_|~".toList.contains c || c.toNat == 0x60

/-- What may stand between quotes. -/
def isQuotable (c : Char) : Bool := 32 ≤ c.toNat && c.toNat != 127 && c != '"'

/-- Whether parameters can be read, one after another; `n` bounds their number. -/
def areParameters : Nat → List Char → Bool
  | 0, cs => cs.isEmpty
  | n + 1, cs =>
    match cs.dropWhile (· = ' ') with
    | [] => true
    | cs =>
      let name := cs.takeWhile isTokenChar
      match cs.drop name.length with
      | '=' :: '"' :: cs => !name.isEmpty && quoted n cs
      | '=' :: cs => !name.isEmpty && plain n cs
      | _ => false
where
  plain (n : Nat) (cs : List Char) : Bool :=
    let value := cs.takeWhile isTokenChar
    match cs.drop value.length with
    | [] => true
    | ';' :: cs => !value.isEmpty && areParameters n cs
    | _ => false
  quoted (n : Nat) (cs : List Char) : Bool :=
    let value := cs.takeWhile isQuotable
    match cs.drop value.length with
    | '"' :: cs =>
      !value.isEmpty && (match cs.dropWhile (· = ' ') with
        | [] => true
        | ';' :: cs => areParameters n cs
        | _ => false)
    | _ => false

/-- Whether a media type says that the body is JSON: by its subtype, or by the suffix after
the last plus sign of that. -/
def isJsonType (s : String) : Bool :=
  let cs := s.toList.map Text.lowerAscii
  let type := cs.takeWhile isTokenChar
  match cs.drop type.length with
  | '/' :: rest =>
    let subtype := rest.takeWhile isTokenChar
    let wellFormed := !subtype.isEmpty && (match rest.drop subtype.length with
      | [] => true
      | ';' :: ps => areParameters (ps.length + 1) ps
      | _ => false)
    let suffix := (subtype.reverse.takeWhile (· ≠ '+')).reverse
    let stem := subtype.take (subtype.length - suffix.length - 1)
    wellFormed && type == "application".toList &&
      (if subtype.contains '+' then suffix == "json".toList || stem == "json".toList
      else subtype == "json".toList)
  | _ => false

end Upkeep.Gateway
