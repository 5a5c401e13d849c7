import Upkeep.Filter.Token

/-! Sentences of the filter language:
a disjunction is conjunctions joined by OR, a conjunction is operands joined by AND, and an
operand is NOT before an operand, a disjunction in parentheses, `has` of a path, or a path
compared with a literal. Both connectives group to the left. -/
namespace Upkeep.Filter

/-- How a word reads when it is told to a caller. -/
def Comparison.spelling : Comparison → String
  | .eq => "Eq"
  | .ne => "Ne"
  | .lt => "Lt"
  | .le => "Le"
  | .gt => "Gt"
  | .ge => "Ge"

def Token.spelling : Token → String
  | .leftParen => "LParen"
  | .rightParen => "RParen"
  | .ident name => "Ident(" ++ Text.quoted name ++ ")"
  | .text s => "Str(" ++ Text.quoted s ++ ")"
  | .number n => "Uint(" ++ Decimal.text n.toNat ++ ")"
  | .op c => "Op(" ++ c.spelling ++ ")"

/-- The next word, or that there is none. -/
def nextSpelling : Option Token → String
  | some t => "Some(" ++ t.spelling ++ ")"
  | none => "None"

inductive ParseFault where
  | lex (fault : LexFault)
  | expectedRightParen (found : Option Token)
  | expectedPath (found : Option Token)
  | expectedOperator (path : String) (found : Option Token)
  | expectedLiteral (path : String) (found : Option Token)
  | expectedOperand (found : Option Token)
  | trailing (found : Token)
  deriving DecidableEq

def ParseFault.message : ParseFault → String
  | .lex fault => fault.message
  | .expectedRightParen t => "filter: expected ')', found " ++ nextSpelling t
  | .expectedPath t => "filter: expected field in has(), found " ++ nextSpelling t
  | .expectedOperator path t =>
    "filter: expected operator after " ++ path ++ ", found " ++ nextSpelling t
  | .expectedLiteral path t =>
    "filter: expected literal after " ++ path ++ ", found " ++ nextSpelling t
  | .expectedOperand t => "filter: expected expression, found " ++ nextSpelling t
  | .trailing t => "filter: unexpected " ++ t.spelling ++ " after expression"

def ParseFault.failure (f : ParseFault) : Failure := .invalidArgument f.message

abbrev Parse := List Token → Except ParseFault (Expr × List Token)

def isKeyword (keyword : String) : Token → Bool
  | .ident name => Text.sameWord name keyword
  | _ => false

/-- What follows a keyword, where it stands first. -/
def afterKeyword? (keyword : String) : List Token → Option (List Token)
  | t :: ts => if isKeyword keyword t then some ts else none
  | [] => none

/-- Joins further operands to `left` for as long as the keyword follows. -/
def chain (keyword : String) (join : Expr → Expr → Expr) (operand : Parse) :
    Nat → Expr → Parse
  | 0, left, ts => .ok (left, ts)
  | n + 1, left, ts =>
    match afterKeyword? keyword ts with
    | none => .ok (left, ts)
    | some ts => do
      let (right, ts) ← operand ts
      chain keyword join operand n (join left right) ts

def conjunction (operand : Parse) : Parse := fun ts => do
  let (left, ts) ← operand ts
  chain "AND" .and operand ts.length left ts

def disjunction (operand : Parse) : Parse := fun ts => do
  let (left, ts) ← conjunction operand ts
  chain "OR" .or (conjunction operand) ts.length left ts

def closing (e : Expr) : Parse
  | .rightParen :: ts => .ok (e, ts)
  | ts => .error (.expectedRightParen ts.head?)

def hasOperand : Parse
  | .ident path :: ts => closing (.has path) ts
  | ts => .error (.expectedPath ts.head?)

def literal (path : String) (op : Comparison) : Parse
  | .text s :: ts => .ok (.compare path op (.text s), ts)
  | .number n :: ts => .ok (.compare path op (.number n), ts)
  | ts => .error (.expectedLiteral path ts.head?)

def comparison (path : String) : Parse
  | .op op :: ts => literal path op ts
  | ts => .error (.expectedOperator path ts.head?)

/-- `has` is a path like any other unless a parenthesis follows it. -/
def named (path : String) : Parse
  | .leftParen :: ts =>
    if Text.sameWord path "has" then hasOperand ts else comparison path (.leftParen :: ts)
  | ts => comparison path ts

/-- Every NOT and every parenthesis costs one of `depth`, and each is a word of its own. -/
def operand : Nat → Parse
  | 0, ts => .error (.expectedOperand ts.head?)
  | _, [] => .error (.expectedOperand none)
  | depth + 1, .ident name :: ts =>
    if Text.sameWord name "NOT" then do
      let (e, ts) ← operand depth ts
      return (.not e, ts)
    else named name ts
  | depth + 1, .leftParen :: ts => do
    let (e, ts) ← disjunction (operand depth) ts
    closing e ts
  | _ + 1, t :: _ => .error (.expectedOperand (some t))

/-- The expression that all the words together make. -/
def sentence (ts : List Token) : Except ParseFault Expr := do
  let (e, rest) ← disjunction (operand (ts.length + 1)) ts
  match rest with
  | [] => return e
  | t :: _ => .error (.trailing t)

/-- Reads an expression; blanks alone hold for everything. -/
def parse (s : String) : Except ParseFault Expr :=
  if Text.allBlank s then .ok .all
  else
    match tokenize s with
    | .error fault => .error (.lex fault)
    | .ok ts => sentence ts

end Upkeep.Filter
