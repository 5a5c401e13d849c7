import Upkeep.Document.Yaml.Flow

/-! Documents in YAML, without tags, anchors and blocks of text. What belongs to an item of a
list or to a key stands on its line or further to the right below it. -/
namespace Upkeep.Document.Yaml

/-- The rest of a line after a dash, with its place. -/
def afterDash? (l : Line) : Option Line :=
  match l.body with
  | '-' :: cs =>
    if endsWord cs then some ⟨l.indent + 1 + (cs.takeWhile isInline).length, blanks cs⟩ else none
  | _ => none

/-- The key at the front of a line and the rest after its colon. -/
def key? (cs : List Char) : Option (String × List Char) := do
  let (key, rest) ←
    if cs.head?.any isQuote then quoted? cs
    else if canBegin cs then
      let (word, rest) := untilColon [] cs
      (((plain? (dropEnd word)).bind keyOf?).map (·, rest))
    else none
  match blanks rest with
  | ':' :: rest => if endsWord rest then return (key, blanks rest) else none
  | _ => none

/-- A value that begins in a line and goes on in lines further to the right than `indent`. -/
def inline (indent : Nat) (cs : List Char) (ls : List Line) : Option (Document × List Line) := do
  let more := ls.takeWhile fun l => indent < l.indent
  let d ← whole? (more.foldl (fun cs l => cs ++ ' ' :: l.body) cs)
  return (d, ls.dropWhile fun l => indent < l.indent)

mutual

/-- What begins with the first line, below something that stands at `least - 1`. -/
def block : (fuel : Nat) → (least : Nat) → List Line → Option (Document × List Line)
  | 0, _, _ => none
  | _, _, [] => some (.empty, [])
  | fuel + 1, least, l :: ls =>
    if l.indent < least then some (.empty, l :: ls)
    else if (afterDash? l).isSome then sequence fuel l.indent [] (l :: ls)
    else if (key? l.body).isSome then mapping fuel l.indent [] (l :: ls)
    else inline (least - 1) l.body ls

/-- The items of a list at `indent` from here on, those before coming last first. -/
def sequence : (fuel : Nat) → (indent : Nat) → List Document → List Line →
    Option (Document × List Line)
  | 0, _, _, _ => none
  | _, _, before, [] => some (.list before.reverse, [])
  | fuel + 1, indent, before, l :: ls =>
    match if l.indent = indent then afterDash? l else none with
    | none => if indent < l.indent then none else some (.list before.reverse, l :: ls)
    | some item => do
      let (d, rest) ← block fuel (indent + 1) (if item.body = [] then ls else item :: ls)
      sequence fuel indent (d :: before) rest

/-- The fields of a table at `indent` from here on. A list below a key may stand right under
it. -/
def mapping : (fuel : Nat) → (indent : Nat) → List (String × Document) → List Line →
    Option (Document × List Line)
  | 0, _, _, _ => none
  | _, _, before, [] => some (.table before, [])
  | fuel + 1, indent, before, l :: ls =>
    if l.indent < indent then some (.table before, l :: ls)
    else if l.indent ≠ indent then none
    else do
      let (key, rest) ← key? l.body
      let underneath := ls.head?.any fun m => m.indent = indent ∧ (afterDash? m).isSome
      let (d, ls) ←
        if rest ≠ [] then inline indent rest ls
        else if underneath then sequence fuel indent [] ls
        else block fuel (indent + 1) ls
      mapping fuel indent (← addField key d before) ls

end

/-- The only document of a text, between markers that may be left out. -/
def documentLines? (ls : List Line) : Option (List Line) :=
  let isMarker := fun (s : String) (l : Line) => l.indent = 0 ∧ l.body = s.toList
  let ls := ls.takeWhile (!isMarker "..." ·)
  let ls := match ls with
    | l :: rest => if isMarker "---" l then rest else l :: rest
    | [] => []
  if ls.any (isMarker "---" ·) then none else some ls

/-- An empty text is an empty table. -/
def read (s : String) : Option Document := do
  match ← lines s with
  | [] => return .table []
  | ls =>
    let ls ← documentLines? ls
    match ← block (2 * s.length + 2) 0 ls with
    | (d, []) => return d
    | _ => none

end Upkeep.Document.Yaml
