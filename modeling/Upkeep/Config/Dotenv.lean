import Upkeep.Table
import Upkeep.Text.Blank
import Upkeep.Text.Decimal

/-! Files of variables, a `NAME=value` on each line. Quotes of either kind hold blanks and
line breaks; outside of single quotes a backslash takes the next character as it is, and `$`
brings in a variable. What is wrong in a line ends the reading there. -/
namespace Upkeep.Dotenv

/-- What is open at a place, as far as the end of the line depends on it. -/
inductive Place where
  | plain
  | blank
  | escaped
  | double
  | doubleEscaped
  | single
  | singleEscaped
  | comment
  deriving DecidableEq

namespace Place

def outside (c : Char) (other : Place) : Place :=
  if c = '\\' then .escaped else if c = '"' then .double else if c = '\x27' then .single else other

def next (c : Char) : Place → Place
  | .plain => outside c (if Text.isBlank c ∧ c ≠ '\n' ∧ c ≠ '\r' then .blank else .plain)
  | .blank => if c = '#' then .comment else outside c .plain
  | .escaped => .plain
  | .double => if c = '\\' then .doubleEscaped else if c = '"' then .plain else .double
  | .doubleEscaped => .double
  | .single => if c = '\\' then .singleEscaped else if c = '\x27' then .plain else .single
  | .singleEscaped => .single
  | .comment => .comment

end Place

/-- The lines of a text without their comments; none for a last line that something in it
leaves open. What has been read of the first line comes reversed. -/
def linesFrom : List Char → Place → List Char → List (Option (List Char))
  | line, p, [] =>
    match p with
    | .plain => if line = [] then [] else [some line.reverse]
    | .comment => [some line.reverse]
    | _ => [none]
  | line, p, c :: cs =>
    let p := if c = '#' ∧ line.all Text.isBlank then .comment else p.next c
    if c = '\n' ∧ (p = .plain ∨ p = .comment) then some line.reverse :: linesFrom [] .plain cs
    else linesFrom (if p = .comment then line else c :: line) p cs

def lines (s : String) : List (Option (List Char)) := linesFrom [] .plain s.toList

def isLetter (c : Char) : Bool := ('A' ≤ c && c ≤ 'Z') || ('a' ≤ c && c ≤ 'z')

/-- A name at the front, and what follows it and the blanks after it. -/
def name? (cs : List Char) : Option (List Char × List Char) :=
  let part := fun c => isLetter c || Decimal.isDigit c || c == '_' || c == '.'
  match cs with
  | c :: _ =>
    if isLetter c ∨ c = '_' then
      some (cs.takeWhile part, (cs.dropWhile part).dropWhile Text.isBlank)
    else none
  | [] => none

def afterEquals? : List Char → Option (List Char)
  | '=' :: cs => some (cs.dropWhile Text.isBlank)
  | _ => none

/-- The name that a line sets, which may follow the word `export`, and the text of its value. -/
def assignment? (line : List Char) : Option (List Char × List Char) := do
  let (name, rest) ← name? line
  match afterEquals? rest with
  | some value => return (name, value)
  | none =>
    if name = "export".toList then
      let (name, rest) ← name? rest
      return (name, ← afterEquals? rest)
    else none

/-- What the next character of a value is part of. -/
inductive Mode where
  | plain
  | escaped
  | single
  /-- The name of a variable, the last character first; it may stand in braces. -/
  | reference (braced : Bool) (name : List Char)
  /-- Nothing but a comment can follow. -/
  | ended

structure Reading where
  mode : Mode := .plain
  double : Bool := false
  /-- The last character first. -/
  value : List Char := []

namespace Reading

def take (r : Reading) (c : Char) : Reading := { r with mode := .plain, value := c :: r.value }

def substitute (env : Table String) (name : List Char) (r : Reading) : Reading :=
  let found := (env.find? (String.ofList name.reverse)).getD ""
  { r with mode := .plain, value := found.toList.reverse ++ r.value }

/-- What a backslash and a character stand for. -/
def escape? : Char → Option Char
  | 'n' => some '\n'
  | c => if c ∈ ['\\', '\x27', '"', '$', ' '] then some c else none

def step (env : Table String) (r : Reading) (c : Char) : Option Reading :=
  match r.mode with
  | .ended => if c = ' ' ∨ c = '\t' then some r else none
  | .escaped => (escape? c).map r.take
  | .single => some (if c = '\x27' then { r with mode := .plain } else
      { r with value := c :: r.value })
  | .reference braced name =>
    if isLetter c ∨ Decimal.isDigit c then some { r with mode := .reference braced (c :: name) }
    else if braced then
      some (if c = '\x7d' then r.substitute env name
        else { r with mode := .reference true (c :: name) })
    else if c = '\x7b' ∧ name = [] then some { r with mode := .reference true [] }
    else
      let r := r.substitute env name
      some (if c = '$' then { r with mode := .reference false [] } else r.take c)
  | .plain =>
    if c = '$' then some { r with mode := .reference false [] }
    else if c = '\\' then some { r with mode := .escaped }
    else if c = '"' then some { r with double := !r.double }
    else if r.double then some (r.take c)
    else if c = '\x27' then some { r with mode := .single }
    else if c = ' ' ∨ c = '\t' then some { r with mode := .ended }
    else some (r.take c)

/-- The value, if nothing in it is left open. -/
def close (env : Table String) (r : Reading) : Option String :=
  if r.double then none
  else match r.mode with
    | .single => none
    | .reference true _ => none
    | .reference false name => some (String.ofList (r.substitute env name).value.reverse)
    | _ => some (String.ofList r.value.reverse)

/-- Reads on until the value, or a comment after it, comes to its end. -/
def run (env : Table String) (r : Reading) : List Char → Option String
  | [] => r.close env
  | c :: cs =>
    match r.mode, c with
    | .ended, '#' => r.close env
    | _, _ => (r.step env c).bind fun r => r.run env cs

end Reading

/-- Adds the variables of a text to those that are there, of which none is changed. -/
def extendBy (env : Table String) : List (Option (List Char)) → Table String
  | some line :: rest =>
    let line := Text.trimChars line
    if line = [] then extendBy env rest
    else
      match assignment? line with
      | none => env
      | some (name, text) =>
        let value := if text.head? = some '#' then some "" else ({} : Reading).run env text
        match value with
        | none => env
        | some value =>
          let name := String.ofList name
          extendBy (if env.contains name then env else env.insert name value) rest
  | _ => env

def extend (env : Table String) (s : String) : Table String := extendBy env (lines s)

end Upkeep.Dotenv
