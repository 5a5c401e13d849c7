import Upkeep.Text.Blank

/-! The lines of a YAML text. Lines without contents are left out, comments are removed, and
lines between which a quote or a bracket is open are one. -/
namespace Upkeep.Document.Yaml

/-- The contents of a line, which are not empty, and how far they stand to the right. -/
structure Line where
  indent : Nat
  body : List Char

inductive Open where
  | nothing
  | single
  | double
  | comment
  deriving DecidableEq

/-- Where in a line the reading is. -/
structure Place where
  inside : Open := .nothing
  /-- How many brackets are open. -/
  depth : Nat := 0
  /-- Whether a value can begin here, so that a quote or a bracket would open. -/
  fresh : Bool := true
  /-- The character before. -/
  last : Char := ' '
  /-- What has been read of the line, the last character first. -/
  line : List Char := []

def isInline (c : Char) : Bool := c == ' ' || c == '\t'

namespace Place

def push (p : Place) (c : Char) : Place := { p with line := c :: p.line, last := c }

/-- A line break within quotes or brackets is a blank, whatever blanks are around it. -/
def fold (p : Place) : Place :=
  { p with line := ' ' :: p.line.dropWhile isInline, last := '\n' }

/-- Reads a character outside of quotes and comments. -/
def outside (p : Place) (c : Char) : Place :=
  let q := p.push c
  if c = '#' ∧ Text.isBlank p.last then { p with inside := .comment }
  else if isInline c then
    { q with fresh := p.fresh || p.last == ':' }
  else if p.fresh ∧ c = '"' then { q with inside := .double, fresh := false }
  else if p.fresh ∧ c = '\x27' then { q with inside := .single, fresh := false }
  else if (p.fresh ∨ 0 < p.depth) ∧ (c = '[' ∨ c = '\x7b') then
    { q with depth := p.depth + 1, fresh := true }
  else if c = ']' ∨ c = '\x7d' then { q with depth := p.depth - 1, fresh := false }
  else { q with fresh := p.fresh ∧ c = '-' ∨ 0 < p.depth ∧ (c = ',' ∨ c = ':') }

def step (p : Place) (c : Char) : Place :=
  match p.inside with
  | .nothing => if c = '\n' then p.fold else p.outside c
  | .comment => if c = '\n' then { p.fold with inside := .nothing } else p
  | .single =>
    if c = '\n' then p.fold
    else if c = '\x27' then { p.push c with inside := .nothing, fresh := false }
    else if p.last = '\n' ∧ isInline c then p
    else p.push c
  | .double =>
    if c = '\n' then p.fold
    else if p.last = '\\' then { p.push c with last := ' ' }
    else if c = '"' then { p.push c with inside := .nothing, fresh := false }
    else if p.last = '\n' ∧ isInline c then p
    else p.push c

/-- Whether a line break here ends the line. -/
def isFree (p : Place) : Bool :=
  p.depth == 0 && (p.inside == .nothing || p.inside == .comment)

/-- The line that ends here, if it has contents. -/
def finish (p : Place) : List Line :=
  let cs := p.line.reverse
  let body := Text.trimChars cs
  if body = [] then [] else [⟨(cs.takeWhile (· = ' ')).length, body⟩]

end Place

/-- None if a quote or a bracket is open at the end. -/
def linesFrom : Place → List Char → Option (List Line)
  | p, [] => if p.isFree then some p.finish else none
  | p, c :: cs =>
    if c = '\n' ∧ p.isFree then (linesFrom {} cs).map (p.finish ++ ·)
    else linesFrom (p.step c) cs

def lines (s : String) : Option (List Line) := linesFrom {} (s.toList.filter (· ≠ '\r'))

end Upkeep.Document.Yaml
