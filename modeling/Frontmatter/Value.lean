import Frontmatter.Number.Binary64
import Frontmatter.Text.Basic

/-! # Values

The data that a configuration or the interior of a block denotes: scalars, lists, and records whose
entries keep the order in which they were written. A record of a block may have any value as a
key. -/

namespace Frontmatter

/-- A value of a structured document. -/
inductive Value where
  /-- The absent value. -/
  | null
  /-- A truth value. -/
  | bool (b : Bool)
  /-- An integer. -/
  | int (n : Int)
  /-- A double precision number. -/
  | float (x : Binary64)
  /-- A text. -/
  | text (s : Text)
  /-- A list of values. -/
  | list (items : List Value)
  /-- Keys with their values, in the order of the document. -/
  | record (entries : List (Value × Value))
  /-- A value marked with an application's own tag. -/
  | tagged (tag : Text) (value : Value)
  deriving Repr, Inhabited

namespace Value

/-- A record with texts as keys. -/
def object (entries : List (Text × Value)) : Value :=
  .record (entries.map fun e => (.text e.1, e.2))

/-- The entries of a record, tags apart, and none for any other value. -/
def entries? : Value → Option (List (Value × Value))
  | .record entries => some entries
  | .tagged _ v => v.entries?
  | _ => none

end Value

end Frontmatter
