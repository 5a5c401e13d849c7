import Upkeep.Document.Basic
import Upkeep.Document.Quote

/-! Values and keys in TOML. -/
namespace Upkeep.Document.Toml
open Text (splitOn)

def isInline (c : Char) : Bool := c == ' ' || c == '\t'

def blanks (cs : List Char) : List Char := cs.dropWhile isInline

/-- Drops blanks, line breaks and comments; the first character may be in a comment. -/
def blankLines : Bool → List Char → List Char
  | _, [] => []
  | true, c :: cs => blankLines (c ≠ '\n') cs
  | false, c :: cs =>
    if isInline c ∨ c = '\n' ∨ c = '\r' then blankLines false cs
    else if c = '#' then blankLines true cs
    else c :: cs

/-- Removes a backslash at the end of a line with the break and the blanks after it. -/
def unbroken : Bool → List Char → List Char
  | _, [] => []
  | _, '\\' :: '\n' :: cs => unbroken true cs
  | _, '\\' :: c :: cs => '\\' :: c :: unbroken false cs
  | skipping, c :: cs =>
    if skipping && Text.isBlank c then unbroken true cs else c :: unbroken false cs

/-- Whether three quotes stand in front, and no more. -/
def isTriple (quote : Char) (cs : List Char) : Bool :=
  cs.take 3 == List.replicate 3 quote && cs[3]? != some quote

/-- What stands before three quotes of a kind, and what follows them. -/
def untilTriple (quote : Char) (escapes : Bool) : List Char → Option (List Char × List Char)
  | [] => none
  | '\\' :: c :: cs =>
    if escapes then (untilTriple quote escapes cs).map fun (s, rest) => ('\\' :: c :: s, rest)
    else (untilTriple quote escapes (c :: cs)).map fun (s, rest) => ('\\' :: s, rest)
  | c :: cs =>
    if isTriple quote (c :: cs) then some ([], cs.drop 2)
    else (untilTriple quote escapes cs).map fun (s, rest) => (c :: s, rest)

/-- A line break right after three quotes does not count. -/
def afterBreak : List Char → List Char
  | '\n' :: cs => cs
  | '\r' :: '\n' :: cs => cs
  | cs => cs

/-- A text in any of the four kinds of quotes. -/
def text? : List Char → Option (String × List Char)
  | '"' :: '"' :: '"' :: cs => do
    let (inside, rest) ← untilTriple '"' true (afterBreak cs)
    return (String.ofList (← unescape commonEscape (unbroken false inside)), rest)
  | '"' :: cs => do
    let (inside, rest) ← untilQuote cs
    if '\n' ∈ inside then none
    return (String.ofList (← unescape commonEscape inside), rest)
  | '\x27' :: '\x27' :: '\x27' :: cs => do
    let (inside, rest) ← untilTriple '\x27' false (afterBreak cs)
    return (String.ofList inside, rest)
  | '\x27' :: cs => do
    let (inside, rest) ← Text.splitOnce '\x27' cs
    if '\n' ∈ inside then none
    return (String.ofList inside, rest)
  | _ => none

def isBare (c : Char) : Bool :=
  ('a' ≤ c && c ≤ 'z') || ('A' ≤ c && c ≤ 'Z') || Decimal.isDigit c || c == '_' || c == '-'

def name? (cs : List Char) : Option (String × List Char) :=
  match cs with
  | c :: _ =>
    if c = '"' ∨ c = '\x27' then text? cs
    else if isBare c then some (String.ofList (cs.takeWhile isBare), cs.dropWhile isBare)
    else none
  | [] => none

/-- Names joined by full stops, `n` at most, and what follows them and the blanks after them. -/
def key? : Nat → List Char → Option (List String × List Char)
  | 0, _ => none
  | n + 1, cs => do
    let (name, rest) ← name? cs
    match blanks rest with
    | '.' :: rest =>
      let (names, rest) ← key? n (blanks rest)
      return (name :: names, rest)
    | rest => return ([name], rest)

/-- A run of digits; between two of them there may be an underscore. -/
def digits? (isDigit : Char → Bool) (cs : List Char) : Option (List Char) :=
  let groups := splitOn (· = '_') cs
  if groups.all fun g => g ≠ [] ∧ g.all isDigit then some groups.flatten else none

def based? (value? : Char → Option Nat) (base : Nat) (cs : List Char) : Option Document := do
  let ds ← digits? (fun c => ((value? c).filter (· < base)).isSome) cs
  let n ← Numeral.unsigned? value? base ds
  return .int (← Numeral.int64 n)

/-- Digits without leading zeros. -/
def whole? (cs : List Char) : Option (List Char) :=
  (digits? Decimal.isDigit cs).filter fun ds => ds.head? ≠ some '0' ∨ ds.length = 1

def isExponentMark (c : Char) : Bool := c == 'e' || c == 'E'

def number? (cs : List Char) : Option Document := do
  let (negative, cs) := Numeral.sign cs
  let beforeExponent := cs.takeWhile (!isExponentMark ·)
  let exponent := cs.dropWhile (!isExponentMark ·)
  let whole ← whole? (beforeExponent.takeWhile (· ≠ '.'))
  match beforeExponent.dropWhile (· ≠ '.'), exponent with
  | [], [] => return .int (← Numeral.int64 (Numeral.signed negative (Decimal.number whole)))
  | fraction, exponent =>
    let fraction ← if fraction = [] then some [] else digits? Decimal.isDigit fraction.tail
    let (below, ds) := Numeral.sign exponent.tail
    let ds ← if exponent = [] then some [] else digits? Decimal.isDigit ds
    return .real (Numeral.nearest negative (Decimal.number (whole ++ fraction))
      (Numeral.signed below (Decimal.number ds) - fraction.length))

def scalar? (cs : List Char) : Option Document :=
  match cs with
  | '0' :: 'x' :: ds => based? Hex.value? 16 ds
  | '0' :: 'o' :: ds => based? Numeral.digit? 8 ds
  | '0' :: 'b' :: ds => based? Numeral.digit? 2 ds
  | cs =>
    match String.ofList cs with
    | "true" => some (.bool true)
    | "false" => some (.bool false)
    | "inf" | "+inf" => some (.real (1 / 0))
    | "-inf" => some (.real (-1 / 0))
    | "nan" | "+nan" | "-nan" => some (.real (0 / 0))
    | _ => number? cs

def isScalarPart (c : Char) : Bool := isBare c || c == '+' || c == '.'

/-- Puts a value under the names of a key; the last one must be new, and no value that stands
on the way may be anything but a table. -/
def assign : List String → Document → Document → Option Document
  | [], _, _ => none
  | [k], d, .table fs =>
    if (Table.look k fs).isSome then none else some (.table (Table.place k d fs))
  | k :: ks, d, .table fs => do
    let inner ← assign ks d ((Table.look k fs).getD (.table []))
    return .table (Table.place k inner fs)
  | _, _, _ => none

mutual

/-- A value and what follows it; `fuel` bounds its parts. -/
def value : (fuel : Nat) → List Char → Option (Document × List Char)
  | 0, _ => none
  | fuel + 1, '[' :: cs => items fuel [] (blankLines false cs)
  | fuel + 1, '{' :: cs =>
    match blanks cs with
    | '}' :: rest => some (.table [], rest)
    | cs => pairs fuel (.table []) cs
  | _ + 1, c :: cs =>
    if c = '"' ∨ c = '\x27' then (text? (c :: cs)).map fun (s, rest) => (.text s, rest)
    else
      (scalar? ((c :: cs).takeWhile isScalarPart)).map fun d =>
        (d, (c :: cs).dropWhile isScalarPart)
  | _, [] => none

/-- The items of an array from here on, those before coming last first. -/
def items : (fuel : Nat) → List Document → List Char → Option (Document × List Char)
  | 0, _, _ => none
  | _ + 1, before, ']' :: rest => some (.list before.reverse, rest)
  | fuel + 1, before, cs => do
    let (d, rest) ← value fuel cs
    match blankLines false rest with
    | ',' :: rest => items fuel (d :: before) (blankLines false rest)
    | ']' :: rest => return (.list (d :: before).reverse, rest)
    | _ => none

/-- The fields of a table on one line from here on. -/
def pairs : (fuel : Nat) → Document → List Char → Option (Document × List Char)
  | 0, _, _ => none
  | fuel + 1, before, cs => do
    let (key, rest) ← key? fuel cs
    match rest with
    | '=' :: rest =>
      let (d, rest) ← value fuel (blanks rest)
      let d ← assign key d before
      match blanks rest with
      | ',' :: rest => pairs fuel d (blanks rest)
      | '}' :: rest => return (d, rest)
      | _ => none
    | _ => none

end

end Upkeep.Document.Toml
