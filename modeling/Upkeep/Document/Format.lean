import Upkeep.Document.Toml.Basic
import Upkeep.Document.Yaml.Basic

/-! The formats of documents, told by the extensions of files. -/
namespace Upkeep.Document

inductive Format where
  | json
  | yaml
  | toml
  deriving DecidableEq

def Format.ofExtension? : String → Option Format
  | "json" => some .json
  | "yaml" | "yml" => some .yaml
  | "toml" => some .toml
  | _ => none

/-- A file as far as its format goes. -/
structure File where
  extension : String
  text : String

def read : Format → String → Option Document
  | .json => readJson
  | .yaml => Yaml.read
  | .toml => Toml.read

/-- The document of a file of any known format. -/
def ofFile? (f : File) : Option Document :=
  (Format.ofExtension? f.extension).bind fun format => read format f.text

end Upkeep.Document
