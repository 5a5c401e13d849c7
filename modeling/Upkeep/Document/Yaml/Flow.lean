import Upkeep.Document.Basic
import Upkeep.Document.Quote
import Upkeep.Document.Yaml.Line

/-! Values that YAML has on one line: texts with quotes or without, and lists and tables in
brackets. -/
namespace Upkeep.Document.Yaml

def based? (value? : Char → Option Nat) (base : Nat) (cs : List Char) : Option Int :=
  let (negative, cs) := Numeral.sign cs
  (Numeral.unsigned? (fun c => (value? c).filter (· < base)) base cs).bind fun n =>
    Numeral.int64 (Numeral.signed negative n)

def int? (cs : List Char) : Option Int :=
  match cs with
  | '0' :: 'x' :: ds => based? Hex.value? 16 ds
  | '0' :: 'o' :: ds => based? Numeral.digit? 8 ds
  | cs => Numeral.int? cs

/-- What a text without quotes stands for. Infinite numbers cannot be written. -/
def plain? (cs : List Char) : Option Document :=
  let s := String.ofList cs
  if s = "" ∨ s = "~" ∨ s = "null" then some .empty
  else if s = "true" then some (.bool true)
  else if s = "false" then some (.bool false)
  else if [".inf", "+.inf", "-.inf", ".nan"].any (Text.sameWord s) then none
  else match int? cs with
    | some n => some (.int n)
    | none =>
      match if cs.any Decimal.isDigit then Numeral.real? cs else none with
      | some x => some (.real x)
      | none => some (.text s)

/-- Characters with which no text without quotes begins. -/
def indicators : List Char :=
  [',', '[', ']', '\x7b', '\x7d', '#', '&', '*', '!', '|', '>', '\x27', '"', '%', '@', '\x60']

def endsWord (cs : List Char) : Bool := cs.head?.all isInline

def canBegin : List Char → Bool
  | [] => true
  | c :: cs => c ∉ indicators && !((c == '-' || c == '?' || c == ':') && endsWord cs)

def escape : Char → Option Char
  | '0' => some '\x00'
  | 'a' => some '\x07'
  | 'v' => some '\x0b'
  | 'N' => some (Char.ofNat 0x85)
  | '_' => some (Char.ofNat 0xA0)
  | 'L' => some (Char.ofNat 0x2028)
  | 'P' => some (Char.ofNat 0x2029)
  | ' ' => some ' '
  | '\t' => some '\t'
  | '/' => some '/'
  | c => commonEscape c

/-- In single quotes, two of them stand for one. -/
def untilSingle : List Char → Option (List Char × List Char)
  | [] => none
  | '\x27' :: '\x27' :: cs => (untilSingle cs).map fun (s, rest) => ('\x27' :: s, rest)
  | '\x27' :: cs => some ([], cs)
  | c :: cs => (untilSingle cs).map fun (s, rest) => (c :: s, rest)

/-- A text in quotes and what follows it. -/
def quoted? : List Char → Option (String × List Char)
  | '"' :: cs => do
    let (inside, rest) ← untilQuote cs
    return (String.ofList (← unescape escape inside), rest)
  | '\x27' :: cs => (untilSingle cs).map fun (s, rest) => (String.ofList s, rest)
  | _ => none

def isQuote (c : Char) : Bool := c == '"' || c == '\x27'

def blanks (cs : List Char) : List Char := cs.dropWhile isInline

def dropEnd (cs : List Char) : List Char := (cs.reverse.dropWhile isInline).reverse

/-- What stands before a colon that ends a word, or before one of the characters that end a
value, and what follows. -/
def untilColon (ends : List Char) : List Char → List Char × List Char
  | [] => ([], [])
  | c :: cs =>
    if c ∈ ends ∨ c = ':' ∧ (endsWord cs ∨ cs.head?.any (· ∈ ends)) then ([], c :: cs)
    else
      let (before, rest) := untilColon ends cs
      (c :: before, rest)

def flowEnds : List Char := [',', '[', ']', '\x7b', '\x7d']

/-- Keys are texts or integers. -/
def keyOf? : Document → Option String
  | .text s => some s
  | .int n => some (Decimal.integer n)
  | _ => none

/-- A table has no key twice. -/
def addField (k : String) (d : Document) (fs : List (String × Document)) :
    Option (List (String × Document)) :=
  if (Table.look k fs).isSome then none else some (Table.place k d fs)

mutual

/-- A value within brackets and what follows it; `fuel` bounds its parts. -/
def value : (fuel : Nat) → List Char → Option (Document × List Char)
  | 0, _ => none
  | fuel + 1, '[' :: cs => items fuel [] (blanks cs)
  | fuel + 1, '{' :: cs => pairs fuel [] (blanks cs)
  | _ + 1, cs =>
    if cs.head?.any isQuote then (quoted? cs).map fun (s, rest) => (.text s, rest)
    else
      let (word, rest) := untilColon flowEnds cs
      if canBegin cs then (plain? (dropEnd word)).map (·, rest) else none

/-- The items of a list from here on, those before coming last first. -/
def items : (fuel : Nat) → List Document → List Char → Option (Document × List Char)
  | 0, _, _ => none
  | _ + 1, before, ']' :: rest => some (.list before.reverse, rest)
  | fuel + 1, before, cs => do
    let (d, rest) ← value fuel cs
    match blanks rest with
    | ',' :: rest => items fuel (d :: before) (blanks rest)
    | ']' :: rest => return (.list (d :: before).reverse, rest)
    | _ => none

/-- The fields of a table from here on; a key may stand without a value. -/
def pairs : (fuel : Nat) → List (String × Document) → List Char → Option (Document × List Char)
  | 0, _, _ => none
  | _ + 1, before, '}' :: rest => some (.table before, rest)
  | fuel + 1, before, cs => do
    let (key, rest) ← value fuel cs
    let key ← keyOf? key
    let (d, rest) ← match blanks rest with
      | ':' :: rest =>
        let rest := blanks rest
        if rest.head?.any fun c => c = ',' ∨ c = '\x7d' then some (.empty, rest)
        else value fuel rest
      | rest => some (.empty, rest)
    let fs ← addField key d before
    match blanks rest with
    | ',' :: rest => pairs fuel fs (blanks rest)
    | '}' :: rest => return (.table fs, rest)
    | _ => none

end

/-- A value that takes up all of a text. -/
def whole? (cs : List Char) : Option Document :=
  if cs.head?.any fun c => isQuote c ∨ c = '[' ∨ c = '\x7b' then
    match value (2 * cs.length + 2) cs with
    | some (d, rest) => if blanks rest = [] then some d else none
    | none => none
  else if canBegin cs ∧ (untilColon [] cs).2 = [] then plain? cs
  else none

end Upkeep.Document.Yaml
