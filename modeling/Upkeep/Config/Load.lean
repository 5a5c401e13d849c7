import Upkeep.Config.Check
import Upkeep.Config.Dotenv
import Upkeep.Config.Record
import Upkeep.Document.Format
import Upkeep.Document.Record

/-! Settings from a file and from variables. A variable that begins with `INFRA__` goes over
what the file says, and two variables of their own names go over all else. -/
namespace Upkeep.Config
open Document (put)

def isNamePart (c : Char) : Bool :=
  ('a' ≤ c && c ≤ 'z') || ('A' ≤ c && c ≤ 'Z') || ('0' ≤ c && c ≤ '9') || c == '_' || c == '-'

/-- The names of a path are joined by full stops. What is no such path is a single name. -/
def path (key : List Char) : List String :=
  let parts := Text.splitOn (· = '.') key
  if parts.all fun p => p ≠ [] ∧ p.all isNamePart then parts.map String.ofList
  else [String.ofList key]

/-- A double underscore parts the names of sections and settings. -/
def dotted : List Char → List Char
  | '_' :: '_' :: cs => '.' :: dotted cs
  | c :: cs => c :: dotted cs
  | [] => []

/-- The path of the setting that a variable is for, if it is for one. -/
def settingPath? (name : String) : Option (List String) :=
  match name.toList.map Text.lowerAscii with
  | 'i' :: 'n' :: 'f' :: 'r' :: 'a' :: '_' :: '_' :: rest => some (path (dotted rest))
  | _ => none

/-- The variables that matter to settings. -/
def variableNames : List String :=
  let names : Json → List String
    | .obj fs => fs.map (·.1)
    | _ => []
  let settings := match json {} with
    | .obj sections => sections.flatMap fun (s, j) => (names j).map fun k => s ++ "__" ++ k
    | _ => []
  "JWT_SECRET" :: "REDIS_URL" :: settings.map fun name => "INFRA__" ++ name.toUpper

/-- A value is a truth value, an integer or a number if it can be one. -/
def scalar (s : String) : Document :=
  if Text.sameWord s "true" then .bool true
  else if Text.sameWord s "false" then .bool false
  else match Numeral.int? s.toList with
    | some n => .int n
    | none =>
      match Numeral.real? s.toList with
      | some x => .real x
      | none => .text s

def basis : Document :=
  .table [("cache", .table [("backend", .text "memory")]),
    ("server", .table [("host", .text "0.0.0.0"), ("port", .int 8080)])]

/-- Goes over the settings with those of a file. The names in its root may be paths. -/
def withFile (d : Document) : Option Document.File → Option Document
  | none => some d
  | some f =>
    match Document.Format.ofExtension? f.extension with
    | none => some d
    | some format =>
      match Document.read format f.text with
      | some (.table fs) => some (fs.foldl (fun d (k, v) => put (path k.toList) v d) d)
      | _ => none

def withVariables (d : Document) (env : Table String) : Document :=
  env.entries.foldl (fun d (name, value) =>
    match settingPath? name with
    | some path => put path (scalar value) d
    | none => d) d

/-- The settings, if all parts of them can be read. -/
def load? (file : Option Document.File) (env : Table String) : Option Config := do
  let d ← withFile basis file
  let c ← read Document.reader (withVariables d env)
  return { c with
    gateway := { c.gateway with jwtSecret := (env.find? "JWT_SECRET").or c.gateway.jwtSecret }
    redis := { c.redis with url := (env.find? "REDIS_URL").or c.redis.url } }

end Upkeep.Config
