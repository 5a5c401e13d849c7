import Upkeep.Json.Basic
import Upkeep.Text.Decimal
import Upkeep.Text.Hex

/-! Writing a JSON tree without blanks. Only what JSON forbids in a text is escaped there. -/
namespace Upkeep.Json

def escape (c : Char) : List Char :=
  if c = '"' then ['\\', '"']
  else if c = '\\' then ['\\', '\\']
  else if c = '\n' then ['\\', 'n']
  else if c = '\r' then ['\\', 'r']
  else if c = '\t' then ['\\', 't']
  else if c = '\x08' then ['\\', 'b']
  else if c = '\x0c' then ['\\', 'f']
  else if c.toNat < 32 then '\\' :: 'u' :: Hex.padded 4 c.toNat
  else [c]

def quote (s : String) : List Char := '"' :: s.toList.flatMap escape ++ ['"']

def Scientific.text (r : Scientific) : List Char :=
  (if r.negative then ['-'] else []) ++ Decimal.digits r.mantissa ++
    'e' :: (Decimal.integer r.exponent).toList

def between (sep : Char) : List (List Char) → List Char
  | [] => []
  | [part] => part
  | part :: parts => part ++ sep :: between sep parts

mutual

/-- What is garbled has no text of its own and is written as nothing. -/
def chars : Json → List Char
  | .null => "null".toList
  | .bool true => "true".toList
  | .bool false => "false".toList
  | .int n => (Decimal.integer n).toList
  | .real r => Scientific.text r
  | .str s => quote s
  | .arr items => '[' :: between ',' (itemParts items) ++ [']']
  | .obj fields => '{' :: between ',' (fieldParts fields) ++ ['}']
  | .garbled => []

def itemParts : List Json → List (List Char)
  | [] => []
  | j :: js => j.chars :: itemParts js

def fieldParts : List (String × Json) → List (List Char)
  | [] => []
  | f :: fs => fieldChars f :: fieldParts fs

def fieldChars : String × Json → List Char
  | (k, j) => quote k ++ ':' :: j.chars

end

def write (j : Json) : String := String.ofList j.chars

end Upkeep.Json
