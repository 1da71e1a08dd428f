import Frontmatter.Text.Basic

/-! # YAML tokens

The words of a YAML text. Indentation appears among them as the starts and ends of block
collections, so that what follows needs no columns. -/

namespace Frontmatter

namespace Yaml

/-- How a scalar is written. -/
inductive ScalarStyle where
  /-- Without quotes. -/
  | plain
  /-- In single or double quotes, or folded. -/
  | quoted
  /-- As a literal block. -/
  | literal
  deriving DecidableEq, Repr

/-- A word of a YAML text. -/
inductive Token where
  /-- A directive that states the version. -/
  | version (major minor : Nat)
  /-- A directive that lets a handle stand for the start of a tag. -/
  | tagDirective (handle start : Text)
  /-- The mark of a document's start. -/
  | documentStart
  /-- The mark of a document's end. -/
  | documentEnd
  /-- An indented sequence starts. -/
  | blockSequenceStart
  /-- An indented mapping starts. -/
  | blockMappingStart
  /-- An indented collection ends. -/
  | blockEnd
  /-- An opening bracket. -/
  | flowSequenceStart
  /-- A closing bracket. -/
  | flowSequenceEnd
  /-- An opening brace. -/
  | flowMappingStart
  /-- A closing brace. -/
  | flowMappingEnd
  /-- The dash of an indented sequence's entry. -/
  | blockEntry
  /-- The comma between entries in brackets or braces. -/
  | flowEntry
  /-- A key follows. -/
  | key
  /-- A value follows. -/
  | value
  /-- A reference to an anchored node. -/
  | alias (name : Text)
  /-- A name for the node that follows. -/
  | anchor (name : Text)
  /-- A tag for the node that follows. -/
  | tag (handle suffix : Text)
  /-- A scalar. -/
  | scalar (style : ScalarStyle) (text : Text)
  deriving DecidableEq, Repr

end Yaml

end Frontmatter
