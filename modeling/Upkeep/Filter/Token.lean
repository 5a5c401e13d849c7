import Upkeep.Filter.Expr
import Upkeep.Text.Blank
import Upkeep.Text.Decimal
import Upkeep.Text.Quoted

/-! The words of the filter language. A text literal stands between double quotes, where a
backslash takes the next character as it is; blanks part words and mean nothing. -/
namespace Upkeep.Filter
open Upkeep.Text (isBlank)

inductive Token where
  | leftParen
  | rightParen
  | ident (name : String)
  | text (s : String)
  | number (n : UInt64)
  | op (op : Comparison)
  deriving DecidableEq

/-- A text as a literal of the language. -/
def quoteChars : List Char → List Char
  | [] => []
  | c :: cs => if c = '\\' ∨ c = '"' then '\\' :: c :: quoteChars cs else c :: quoteChars cs

def quote (s : String) : String := String.ofList ('"' :: quoteChars s.toList ++ ['"'])

/-- Where a text literal breaks off: in the text, or right after a backslash. -/
inductive Broken where
  | inText
  | inEscape
  deriving DecidableEq

/-- The text up to the closing quote, and what follows the quote. -/
def unquote : List Char → Except Broken (List Char × List Char)
  | [] => .error .inText
  | '"' :: cs => .ok ([], cs)
  | ['\\'] => .error .inEscape
  | '\\' :: c :: cs => (unquote cs).map fun (s, rest) => (c :: s, rest)
  | c :: cs => (unquote cs).map fun (s, rest) => (c :: s, rest)

theorem unquote_length {cs s rest : List Char} (h : unquote cs = .ok (s, rest)) :
    rest.length < cs.length := by
  fun_induction unquote cs generalizing s <;> simp_all [Except.map] <;> grind

def isIdentStart (c : Char) : Bool :=
  ('a' ≤ c && c ≤ 'z') || ('A' ≤ c && c ≤ 'Z') || c == '_'

def isIdentRest (c : Char) : Bool := isIdentStart c || Decimal.isDigit c || c == '.'

inductive LexFault where
  | openText (offset : Nat)
  | openEscape
  | loneBang (offset : Nat)
  | badNumber (digits : String) (offset : Nat) (why : Decimal.Fault)
  | badChar (c : Char) (offset : Nat)
  deriving DecidableEq

def LexFault.message : LexFault → String
  | .openText offset => "filter: unterminated string starting at offset " ++ Decimal.text offset
  | .openEscape => "filter: unterminated string"
  | .loneBang offset => "filter: expected '=' after '!' at offset " ++ Decimal.text offset
  | .badNumber digits offset why =>
    "filter: integer " ++ digits ++ " at offset " ++ Decimal.text offset ++ ": " ++ why.message
  | .badChar c offset =>
    "filter: unexpected character " ++ Text.quotedChar c ++ " at offset " ++ Decimal.text offset

/-- The literal that a run of digits stands for. -/
def number (offset : Nat) (digits : List Char) : Except LexFault Token :=
  match Decimal.read (twoTo 64 - 1) digits with
  | .ok n => .ok (.number (UInt64.ofNat n))
  | .error why => .error (.badNumber (String.ofList digits) offset why)

/-- The first word and what follows it; `offset` is where the word stands. -/
def word (offset : Nat) (c : Char) (cs : List Char) : Except LexFault (Token × List Char) :=
  if c = '(' then .ok (.leftParen, cs)
  else if c = ')' then .ok (.rightParen, cs)
  else if c = '"' then
    match unquote cs with
    | .ok (s, rest) => .ok (.text (String.ofList s), rest)
    | .error .inText => .error (.openText offset)
    | .error .inEscape => .error .openEscape
  else if c = '=' then .ok (.op .eq, cs)
  else if c = '!' then
    match cs with
    | '=' :: rest => .ok (.op .ne, rest)
    | _ => .error (.loneBang offset)
  else if c = '<' then
    match cs with
    | '=' :: rest => .ok (.op .le, rest)
    | _ => .ok (.op .lt, cs)
  else if c = '>' then
    match cs with
    | '=' :: rest => .ok (.op .ge, rest)
    | _ => .ok (.op .gt, cs)
  else if Decimal.isDigit c then
    match number offset (c :: cs.takeWhile Decimal.isDigit) with
    | .ok t => .ok (t, cs.dropWhile Decimal.isDigit)
    | .error e => .error e
  else if isIdentStart c then
    .ok (.ident (String.ofList (c :: cs.takeWhile isIdentRest)), cs.dropWhile isIdentRest)
  else .error (.badChar c offset)

theorem length_dropWhile_le {α : Type} (p : α → Bool) (l : List α) :
    (l.dropWhile p).length ≤ l.length :=
  (List.dropWhile_sublist p).length_le

theorem word_length {offset : Nat} {c : Char} {cs rest : List Char} {t : Token}
    (h : word offset c cs = .ok (t, rest)) : rest.length ≤ cs.length := by
  unfold word at h
  repeat' split at h
  all_goals grind [→ unquote_length, length_dropWhile_le]

/-- The words of a text; `total` is the width of the whole text, for telling offsets. -/
def scan (total : Nat) : List Char → Except LexFault (List Token)
  | [] => .ok []
  | c :: cs =>
    if isBlank c then scan total cs
    else
      match h : word (total - Text.width (c :: cs)) c cs with
      | .error e => .error e
      | .ok (t, rest) =>
        have := word_length h
        (scan total rest).map (t :: ·)
termination_by cs => cs.length

def tokenize (s : String) : Except LexFault (List Token) := scan (Text.width s.toList) s.toList

end Upkeep.Filter
