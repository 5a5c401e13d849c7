import Upkeep.Text.Hex

/-! Texts between quotes in documents. -/
namespace Upkeep.Document

/-- The character of a number in hexadecimal digits. -/
def coded? (ds : List Char) : Option Char :=
  (Hex.number? ds).bind fun n => if n.isValidChar then some (Char.ofNat n) else none

/-- Reads escapes of a letter, for which `short` gives the character, and numbered ones. -/
def unescape (short : Char → Option Char) : List Char → Option (List Char)
  | [] => some []
  | '\\' :: 'x' :: a :: b :: cs => do return (← coded? [a, b]) :: (← unescape short cs)
  | '\\' :: 'u' :: a :: b :: c :: d :: cs =>
    do return (← coded? [a, b, c, d]) :: (← unescape short cs)
  | '\\' :: 'U' :: a :: b :: c :: d :: e :: f :: g :: h :: cs =>
    do return (← coded? [a, b, c, d, e, f, g, h]) :: (← unescape short cs)
  | '\\' :: c :: cs => do return (← short c) :: (← unescape short cs)
  | ['\\'] => none
  | c :: cs => (unescape short cs).map (c :: ·)

/-- What stands before the next double quote that no backslash precedes, and what follows it. -/
def untilQuote : List Char → Option (List Char × List Char)
  | [] => none
  | '"' :: cs => some ([], cs)
  | '\\' :: c :: cs => (untilQuote cs).map fun (s, rest) => ('\\' :: c :: s, rest)
  | c :: cs => (untilQuote cs).map fun (s, rest) => (c :: s, rest)

/-- The letters that stand for the same characters in all formats. -/
def commonEscape : Char → Option Char
  | 'b' => some '\x08'
  | 't' => some '\t'
  | 'n' => some '\n'
  | 'f' => some '\x0c'
  | 'r' => some '\r'
  | 'e' => some '\x1b'
  | '"' => some '"'
  | '\\' => some '\\'
  | _ => none

end Upkeep.Document
