import Upkeep.Text.Hex
import Upkeep.Text.Shown

/-! Texts and characters quoted for a reader. What cannot be shown is written as an
escape, so that a quotation has no hidden part. -/
namespace Upkeep.Text

def codeEscape (c : Char) : String :=
  "\\u\x7b" ++ String.ofList (Hex.digits c.toNat) ++ "\x7d"

/-- One character between quotes of kind `mark`; the other kind needs no escape. -/
def escaped (mark c : Char) : String :=
  if c = '\x00' then "\\0"
  else if c = '\t' then "\\t"
  else if c = '\r' then "\\r"
  else if c = '\n' then "\\n"
  else if c = '\\' then "\\\\"
  else if c = mark then String.ofList ['\\', c]
  else if isShown c then c.toString
  else codeEscape c

def quoted (s : String) : String :=
  "\"" ++ String.join (s.toList.map (escaped '"')) ++ "\""

def quotedChar (c : Char) : String := "'" ++ escaped '\x27' c ++ "'"

end Upkeep.Text
