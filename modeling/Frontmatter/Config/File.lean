import Frontmatter.Config.Basic
import Frontmatter.Json.Reader
import Frontmatter.Storage

/-! # Configuration files

A configuration is kept in a file, as JSON if the file's name says so and as YAML otherwise. Without
a file of one's own choice, the first file with one of the usual names is taken. -/

namespace Frontmatter

/-- Why a configuration cannot be loaded. -/
inductive ConfigError where
  /-- The file cannot be read. -/
  | unreadable
  /-- The file is no YAML configuration. -/
  | yaml
  /-- The file is no JSON configuration. -/
  | json
  /-- The configuration is unusable. -/
  | invalid (fault : ConfigFault)
  deriving DecidableEq, Repr

namespace Config

/-- The usual names of configuration files, in the order in which they are tried. -/
def fileNames : List Text :=
  [".fieldsense.yaml", ".fieldsense.yml", "fieldsense.yaml", "fieldsense.json"]

/-- The configuration that a YAML text denotes. -/
def ofYaml? (freshId : Nat → Text) (text : Text) : Option Config :=
  (Yaml.Node.read? text).bind (read? freshId)

/-- The configuration that a JSON text denotes. -/
def ofJson? (freshId : Nat → Text) (text : Text) : Option Config :=
  (Json.read? text).bind (read? freshId)

/-- A configuration that is there, unless it is unusable. -/
def usable (error : ConfigError) : Option Config → Except ConfigError Config
  | none => .error error
  | some c =>
    match c.fault? with
    | some fault => .error (.invalid fault)
    | none => .ok c

/-- The configuration that the text of a file denotes. -/
def ofFile (freshId : Nat → Text) (path text : Text) : Except ConfigError Config :=
  if Storage.extension? path = some "json".toList then usable .json (ofJson? freshId text)
  else usable .yaml (ofYaml? freshId text)

variable {m : Type → Type} [Monad m]

/-- Loads the configuration from a file. -/
def load (storage : Storage m) (freshId : Nat → Text) (path : Text) :
    m (Except ConfigError Config) := do
  match ← storage.read? path with
  | some text => return ofFile freshId path text
  | none => return .error .unreadable

/-- Whether there is something under a path. -/
def isThere (storage : Storage m) (path : Text) : m Bool := do
  return (← storage.kind? path).isSome

/-- The first usual name that is there in a directory. -/
def find? (storage : Storage m) (directory : Text) : m (Option Text) :=
  fileNames.findM? fun name => isThere storage (Storage.join directory name)

/-- Loads the configuration from the usual file of a directory, or the one when nothing is
configured if there is no such file or it cannot be loaded. -/
def loadUsual (storage : Storage m) (freshId : Nat → Text) (directory : Text) : m Config := do
  match ← find? storage directory with
  | none => return default
  | some name =>
    match ← load storage freshId (Storage.join directory name) with
    | .ok c => return c
    | .error _ => return default

end Config

end Frontmatter
