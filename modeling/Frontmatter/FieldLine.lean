import Frontmatter.Text.Blank

/-! # Field lines

A field line carries a key, a colon and a value: `key: value` behind any indentation. The key ends
right before the first colon of the line, is not empty and holds inner white space only. The value
is the rest of the line without its leading white space. -/

namespace Frontmatter

/-- A line that carries a field. -/
structure FieldLine where
  /-- The number of leading white space characters. -/
  indent : Nat
  /-- The field's name. -/
  key : Text
  /-- The text after the colon, without leading white space. -/
  value : Text
  /-- The column at which the value starts. -/
  valueColumn : Nat
  deriving DecidableEq, Repr

namespace FieldLine

/-- Reads a line as a field line. -/
def parse? (line : Text) : Option FieldLine :=
  (Text.cut ':' line).bind fun (head, tail) =>
    let key := Text.trimStart head
    let value := Text.trimStart tail
    if key.getLast?.all Text.isBlank then none
    else if '\n' ∈ value then none
    else
      some
        { indent := Text.indentation line
          key
          value
          valueColumn := line.length - value.length }

end FieldLine

/-- Whether a text can be the key of a field line: it is not empty, holds neither a colon nor a line
break, and has no white space at its ends. -/
def IsKey (key : Text) : Prop :=
  key ≠ [] ∧ ':' ∉ key ∧ '\n' ∉ key ∧ Text.trim key = key

/-- Whether a text can be a key is decided part by part. -/
instance (key : Text) : Decidable (IsKey key) := by
  unfold IsKey
  infer_instance

end Frontmatter
