import Upkeep.Document.Toml.Value

/-! Documents in TOML: keys with their values, under the headers of tables. -/
namespace Upkeep.Document.Toml

/-- How far a document has been read. -/
structure Reading where
  root : Document := .table []
  /-- The table to which keys belong. -/
  header : List String := []
  /-- The headers there have been. -/
  headers : List (List String) := []
  /-- The paths that have values. -/
  values : List (List String) := []
  /-- The paths of tables that came about by keys of several names. -/
  implied : List (List String) := []

/-- Changes what stands at a path. Of a list the path leads into the last item. -/
def alter (f : Document → Option Document) : List String → Document → Option Document
  | [], d => f d
  | k :: ks, .table fs => do
    let inner := (Table.look k fs).getD (.table [])
    let inner ← match inner with
      | .list ds => (ds.getLast?.bind (alter f ks)).map fun d => .list (ds.dropLast ++ [d])
      | d => alter f ks d
    return .table (Table.place k inner fs)
  | _, _ => none

/-- Whether a path leads to or into a value. -/
def Reading.hasValue (r : Reading) (path : List String) : Bool := r.values.any (·.isPrefixOf path)

/-- The header of a table, which may stand only once. -/
def Reading.enter (r : Reading) (path : List String) : Option Reading := do
  if path ∈ r.headers ∨ path ∈ r.implied ∨ r.hasValue path then none
  let root ← alter (fun d => match d with | .list _ => none | d => some d) path r.root
  return { r with root, header := path, headers := path :: r.headers }

/-- One more item of a list. -/
def lengthen : Document → Option Document
  | .list ds => some (.list (ds ++ [.table []]))
  | .table [] => some (.list [.table []])
  | _ => none

/-- A header of an item in a list of tables. -/
def Reading.enterItem (r : Reading) (path : List String) : Option Reading := do
  if path ∈ r.headers ∨ path ∈ r.implied ∨ r.hasValue path then none
  let name ← path.getLast?
  let root ← alter (fun d => do
    let inner ← lengthen ((Table.look name d.fields).getD (.table []))
    return .table (Table.place name inner d.fields)) path.dropLast r.root
  let elsewhere := fun p => !path.isPrefixOf p
  return { root, header := path, headers := r.headers.filter elsewhere,
           values := r.values.filter elsewhere, implied := r.implied.filter elsewhere }

def Reading.set (r : Reading) (key : List String) (d : Document) : Option Reading := do
  let implied := (List.range (key.length - 1)).map fun i => r.header ++ key.take (i + 1)
  if implied.any fun p => p ∈ r.headers ∨ r.hasValue p then none
  let root ← alter (assign key d) r.header r.root
  return { r with root, values := (r.header ++ key) :: r.values, implied := implied ++ r.implied }

/-- A header or a key with its value, and what follows it on the line. -/
def statement (r : Reading) (cs : List Char) : Option (Reading × List Char) := do
  let fuel := 2 * cs.length + 2
  match cs with
  | '[' :: '[' :: cs =>
    let (path, rest) ← key? fuel (blanks cs)
    match rest with
    | ']' :: ']' :: rest => return (← r.enterItem path, rest)
    | _ => none
  | '[' :: cs =>
    let (path, rest) ← key? fuel (blanks cs)
    match rest with
    | ']' :: rest => return (← r.enter path, rest)
    | _ => none
  | cs =>
    let (key, rest) ← key? fuel cs
    match rest with
    | '=' :: rest =>
      let (d, rest) ← value fuel (blanks rest)
      return (← r.set key d, rest)
    | _ => none

/-- Whether nothing but a comment follows on the line. -/
def isLineEnd (cs : List Char) : Bool :=
  match blanks cs with
  | [] => true
  | '\r' :: '\n' :: _ => true
  | c :: _ => c == '\n' || c == '#'

/-- Reads `fuel` statements at most. -/
def statements : (fuel : Nat) → Reading → List Char → Option Reading
  | 0, r, cs => if blankLines false cs = [] then some r else none
  | fuel + 1, r, cs =>
    match blankLines false cs with
    | [] => some r
    | cs => do
      let (r, rest) ← statement r cs
      if isLineEnd rest then statements fuel r rest else none

def read (s : String) : Option Document := (statements s.length {} s.toList).map (·.root)

end Upkeep.Document.Toml
