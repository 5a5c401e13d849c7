import Upkeep.Json.Reader
import Upkeep.Table
import Upkeep.Text.Numeral

/-! Documents: the trees that files of settings and resources hold, whatever their format. A
table has every key once, and its keys are in order. -/
namespace Upkeep

inductive Document where
  | empty
  | bool (b : Bool)
  | int (n : Int)
  | real (x : Float)
  | text (s : String)
  | list (items : List Document)
  | table (fields : List (String × Document))

namespace Document

/-- The fields of a table; what is no table has none. -/
def fields : Document → List (String × Document)
  | .table fs => fs
  | _ => []

def ofFields (fs : List (String × Document)) : Document :=
  .table (fs.foldl (fun t (k, d) => Table.place k d t) [])

/-- A JSON value without garbled parts. -/
def ofJsonWithin : Nat → Json → Option Document
  | _, .null => some .empty
  | _, .bool b => some (.bool b)
  | _, .int n => some (.int n)
  | _, .real r => some (.real (Numeral.nearest r.negative r.mantissa r.exponent))
  | _, .str s => some (.text s)
  | depth + 1, .arr js => (js.mapM (ofJsonWithin depth)).map .list
  | depth + 1, .obj fs => do
    let fs ← fs.mapM fun (k, j) => (ofJsonWithin depth j).map (k, ·)
    return ofFields fs
  | _, _ => none

/-- The document of a JSON text; of equal keys the last one counts. -/
def readJson (s : String) : Option Document := (Json.read s).bind (ofJsonWithin Json.deepest)

mutual

/-- What is new goes over what is old, but tables are merged field by field. -/
def merge : Document → Document → Document
  | .table news, old => .table (mergeFields news old.fields)
  | new, _ => new

def mergeFields : List (String × Document) → List (String × Document) → List (String × Document)
  | [], olds => olds
  | (k, new) :: news, olds =>
    mergeFields news (Table.place k (merge new ((Table.look k olds).getD .empty)) olds)

end

/-- Merges something into the place at the end of a path; tables are made on the way. -/
def put : List String → Document → Document → Document
  | [], new, old => merge new old
  | k :: path, new, old =>
    .table (Table.place k (put path new ((Table.look k old.fields).getD .empty)) old.fields)

end Document

end Upkeep
