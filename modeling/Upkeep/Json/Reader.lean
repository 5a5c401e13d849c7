import Upkeep.Json.Token

/-! Reading a JSON text: first its words, then the tree, word by word. While a value is
being read, frames hold the arrays and objects around it. -/
namespace Upkeep.Json

def isSpace (c : Char) : Bool := c == ' ' || c == '\t' || c == '\n' || c == '\r'

def tokenize : List Char → Option (List Token)
  | [] => some []
  | c :: cs =>
    if isSpace c then tokenize cs
    else
      match h : word c cs with
      | none => none
      | some (t, rest) =>
        have := word_length h
        (tokenize rest).map (t :: ·)
termination_by cs => cs.length

/-- What is open around a value: the parts before it, the last one first. -/
inductive Frame where
  | item (before : List Json)
  | field (before : List (Option String × Json)) (key : Option String)

/-- How far the reading has come, always inside of `outer`. -/
inductive Reading where
  | value (outer : List Frame)
  | firstItem (outer : List Frame)
  | firstKey (outer : List Frame)
  | key (before : List (Option String × Json)) (outer : List Frame)
  | colon (before : List (Option String × Json)) (key : Option String) (outer : List Frame)
  | done (j : Json) (outer : List Frame)

/-- An object with a key that cannot be read is garbled. -/
def objectOf (fields : List (Option String × Json)) : Json :=
  match fields.mapM fun (k, j) => k.map (·, j) with
  | some fields => .obj fields
  | none => .garbled

def textOf : Option String → Json
  | some s => .str s
  | none => .garbled

namespace Reading

def beginValue (outer : List Frame) : Token → Option Reading
  | .scalar j => some (.done j outer)
  | .text s => some (.done (textOf s) outer)
  | .openArray => some (.firstItem outer)
  | .openObject => some (.firstKey outer)
  | _ => none

def afterValue (j : Json) : List Frame → Token → Option Reading
  | .item before :: outer, .comma => some (.value (.item (j :: before) :: outer))
  | .item before :: outer, .closeArray => some (.done (.arr (j :: before).reverse) outer)
  | .field before k :: outer, .comma => some (.key ((k, j) :: before) outer)
  | .field before k :: outer, .closeObject =>
    some (.done (objectOf ((k, j) :: before).reverse) outer)
  | _, _ => none

def step : Reading → Token → Option Reading
  | .value outer, t => beginValue outer t
  | .firstItem outer, .closeArray => some (.done (.arr []) outer)
  | .firstItem outer, t => beginValue (.item [] :: outer) t
  | .firstKey outer, .closeObject => some (.done (.obj []) outer)
  | .firstKey outer, .text k => some (.colon [] k outer)
  | .key before outer, .text k => some (.colon before k outer)
  | .colon before k outer, .colon => some (.value (.field before k :: outer))
  | .done j outer, t => afterValue j outer t
  | _, _ => none

end Reading

def ofTokens (ts : List Token) : Option Json :=
  match ts.foldlM Reading.step (.value []) with
  | some (.done j []) => some j
  | _ => none

/-- The tree of a text. -/
def read (s : String) : Option Json := (tokenize s.toList).bind ofTokens

/-- The value of a text by itself. -/
def readPlain (s : String) : Option Json := (read s).bind plain

end Upkeep.Json
