import Frontmatter.Block.Basic

/-! # The context of a cursor

`Block.resolve?` finds the field at which a cursor stands. Going upwards from the cursor's line, the
nearest field line at the expected indentation is the next key of the path, and the indentation
expected after it is one step less. On a field line the path ends in that line's own key. Any other
line is a placeholder: it is taken to be about the nearest field line at its own indentation. -/

namespace Frontmatter

/-- What kind of line a cursor stands on. -/
inductive LineKind where
  /-- The line carries a field. -/
  | field
  /-- The line carries no field. -/
  | placeholder
  deriving DecidableEq, Repr

/-- A line and a column in a document. -/
structure Position where
  /-- The line. -/
  line : Nat
  /-- The column, in characters. -/
  column : Nat
  deriving DecidableEq, Repr

/-- Where a cursor stands in a block. -/
structure Context where
  /-- The path of the field. -/
  path : Path
  /-- The cursor's line. -/
  line : Nat
  /-- The number of white space characters that line starts with. -/
  indent : Nat
  /-- The value at the path, if the block denotes one there. -/
  value : Option Value
  /-- The kind of the line. -/
  kind : LineKind
  /-- The line of the path's last key. -/
  keyLine : Nat
  /-- The cursor's column, at most the length of the line. -/
  column : Nat
  /-- The length of the line. -/
  lineLength : Nat
  /-- The text typed in front of the cursor, trimmed. -/
  query : Text
  /-- The column at which that text starts. -/
  queryStart : Nat

namespace Context

/-- The number of segments of the path. -/
def depth (c : Context) : Nat :=
  c.path.depth

/-- What follows the last dot of the path. -/
def leaf (c : Context) : Text :=
  c.path.leaf

/-- The position of the cursor. -/
def position (c : Context) : Position :=
  ⟨c.line, c.column⟩

end Context

/-- The indentation of the parent of a field; the outermost fields have none. -/
def parentIndent (indent : Nat) : Option Nat :=
  if indentStep ≤ indent then some (indent - indentStep) else none

/-- The fields met going upwards, nearest first, each at the indentation expected of it. -/
def ascend : Option Nat → List PlacedField → List PlacedField
  | none, _ => []
  | some _, [] => []
  | some expected, p :: above =>
    if p.field.indent = expected then p :: ascend (parentIndent expected) above
    else ascend (some expected) above

namespace Block

/-- The interior fields above a line, nearest first. -/
def fieldsAbove (b : Block) (line : Nat) : List PlacedField :=
  (b.fields.filter (·.line < line)).reverse

/-- The chain of fields that leads to a line, innermost first. -/
def chain (b : Block) (line : Nat) (text : Text) : List PlacedField :=
  match FieldLine.parse? text with
  | some field => ⟨line, field⟩ :: ascend (parentIndent field.indent) (b.fieldsAbove line)
  | none => ascend (some (Text.indentation text)) (b.fieldsAbove line)

/-- The characters of a line between two columns. -/
def slice (text : Text) (start stop : Nat) : Text :=
  (text.take stop).drop start

/-- The context of a cursor. There is none outside the interior of the block, and none on a
placeholder without a field line at its indentation above it. -/
def resolve? (b : Block) (line column : Nat) : Option Context :=
  (b.interior.find? (·.1 = line)).bind fun (_, text) =>
    let chain := b.chain line text
    chain.head?.map fun innermost =>
      let path := Path.ofKeys (chain.map (·.field.key)).reverse
      let column := min column text.length
      let indent := Text.indentation text
      let start :=
        match FieldLine.parse? text with
        | some field => (LineKind.field, field.valueColumn)
        | none => (LineKind.placeholder, min indent column)
      { path
        line
        indent
        value := b.tree.bind (·.lookup? path)
        kind := start.1
        keyLine := innermost.line
        column
        lineLength := text.length
        query := Text.trim (slice text start.2 column)
        queryStart := start.2 }

end Block

/-- The context of a cursor in a document with the default delimiter. -/
def parseContext? (source : Text) (line column : Nat) : Option Context :=
  (Block.parse? source defaultDelimiter).bind fun b => b.resolve? line column

end Frontmatter
