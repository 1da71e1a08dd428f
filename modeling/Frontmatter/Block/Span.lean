import Frontmatter.Text.Blank

/-! # Where the block stands

A document's block opens with a delimiter on the first line and ends at the next line that is the
delimiter again. White space around the delimiter does not count. -/

namespace Frontmatter

/-- The line delimiting a block when nothing else is configured. -/
def defaultDelimiter : Text := "---"

/-- The lines of a block's delimiters. -/
structure BlockSpan where
  /-- The opening delimiter's line. -/
  first : Nat
  /-- The closing delimiter's line. -/
  last : Nat
  deriving DecidableEq, Repr

namespace BlockSpan

/-- Whether a line is the delimiter. -/
def isDelimiter (delimiter line : Text) : Bool :=
  Text.trim line = delimiter

/-- Finds the block of a document. -/
def locate? (lines : List Text) (delimiter : Text) : Option BlockSpan :=
  match lines with
  | [] => none
  | opening :: rest =>
    if isDelimiter delimiter opening then
      (rest.findIdx? (isDelimiter delimiter)).map fun i => ⟨0, i + 1⟩
    else none

/-- Whether a line lies strictly between the delimiters. -/
def contains (span : BlockSpan) (line : Nat) : Bool :=
  span.first < line && line < span.last

/-- The lines strictly between the delimiters, with their numbers. -/
def interior (span : BlockSpan) (lines : List Text) : List (Nat × Text) :=
  (lines.zipIdx.take span.last).drop (span.first + 1) |>.map fun p => (p.2, p.1)

end BlockSpan

end Frontmatter
