import Frontmatter.Block.Basic

/-! # The outline of a block

`Block.outline` gives the path of every field line in one pass from the top. A table keeps the path
last seen at each indentation; the parent of a field is the one kept at one step less. -/

namespace Frontmatter

/-- A field line with its path. -/
structure OutlineField where
  /-- The line number. -/
  line : Nat
  /-- The path. -/
  path : Path
  /-- The field line. -/
  field : FieldLine
  deriving DecidableEq, Repr

/-- The path last seen at each indentation, the latest first. -/
abbrev LastPaths := List (Nat × Path)

/-- The path of a field below what was seen before it. -/
def LastPaths.pathOf (last : LastPaths) (field : FieldLine) : Path :=
  let parent := if indentStep ≤ field.indent then last.lookup (field.indent - indentStep) else none
  match parent with
  | some path => path.child field.key
  | none => field.key

/-- The outline of field lines, given what was seen before them. -/
def outlineFrom : LastPaths → List PlacedField → List OutlineField
  | _, [] => []
  | last, p :: rest =>
    let path := last.pathOf p.field
    ⟨p.line, path, p.field⟩ :: outlineFrom ((p.field.indent, path) :: last) rest

namespace Block

/-- Every field line of a block with its path, from the top. -/
def outline (b : Block) : List OutlineField :=
  outlineFrom [] b.fields

end Block

end Frontmatter
