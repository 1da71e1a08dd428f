import Frontmatter.Block.Span
import Frontmatter.FieldLine
import Frontmatter.Path
import Frontmatter.Yaml.Node

/-! # Blocks

A block is a document's lines together with the place of its delimiters and the value that its
interior denotes when it is well formed YAML. Indentation alone decides how fields nest; the value
is consulted for what stands at a path. -/

namespace Frontmatter

/-- The number of columns by which a field is indented below its parent. -/
def indentStep : Nat := 2

/-- A document's block. -/
structure Block where
  /-- The lines of the document. -/
  lines : List Text
  /-- The lines of the delimiters. -/
  span : BlockSpan
  /-- The value of the interior, if it is well formed. -/
  tree : Option Value

/-- A field line of a block with its line number. -/
structure PlacedField where
  /-- The line number. -/
  line : Nat
  /-- The field line. -/
  field : FieldLine
  deriving DecidableEq, Repr

namespace Block

/-- The block of a document given by its lines. -/
def ofLines? (lines : List Text) (delimiter : Text) : Option Block :=
  (BlockSpan.locate? lines delimiter).map fun span =>
    { lines
      span
      tree := Yaml.read? (Text.join ['\n'] ((span.interior lines).map (·.2))) }

/-- The block of a document given by its text. -/
def parse? (source : Text) (delimiter : Text) : Option Block :=
  ofLines? (Text.lines source) delimiter

/-- The interior lines with their numbers. -/
def interior (b : Block) : List (Nat × Text) :=
  b.span.interior b.lines

/-- The field lines of the interior. -/
def fields (b : Block) : List PlacedField :=
  b.interior.filterMap fun (line, text) => (FieldLine.parse? text).map fun field => ⟨line, field⟩

end Block

/-! ## Looking up values -/

namespace Value

/-- How a key of a record is written in a path; only texts, numbers and truth values can be. -/
def pathKey? : Value → Option Text
  | .text s => some s
  | .int n => some (Text.ofInt n)
  | .float (.infinite negative) => some (if negative then "-.inf" else ".inf")
  | .float .nan => some ".nan"
  | .float (.finite negative m e) => some (Decimal.pointed negative m e)
  | .bool b => some (if b then "true" else "false")
  | _ => none

/-- The value of the first entry whose key is written like this. -/
def member? (v : Value) (key : Text) : Option Value :=
  v.entries?.bind fun entries => (entries.find? fun e => e.1.pathKey? == some key).map (·.2)

/-- The value at the end of a chain of keys. -/
def descend? (v : Value) (keys : List Text) : Option Value :=
  keys.foldlM member? v

/-- The value at a path. -/
def lookup? (v : Value) (path : Path) : Option Value :=
  v.descend? path.segments

/-- The keys of the record at a path, as they are written in paths; a value that is no record has
none. -/
def childKeys? (v : Value) (path : Path) : Option (List Text) :=
  (v.lookup? path).map fun node => (node.entries?.getD []).filterMap fun e => e.1.pathKey?

end Value

end Frontmatter
