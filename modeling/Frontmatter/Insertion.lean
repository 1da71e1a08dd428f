import Frontmatter.Suggestion

/-! # Insertions

Picked keys become lines of the block. `Insertion.ofKeys?` makes the edit that puts them below the
field of a context, and `Insertion.applied?` carries an edit out: it replaces the text between two
positions. -/

namespace Frontmatter

/-- An edit of a document that inserts keys. -/
structure Insertion where
  /-- Where the replaced text starts. -/
  start : Position
  /-- Where the replaced text ends. -/
  stop : Position
  /-- The text that takes its place. -/
  text : Text
  /-- Where the cursor stands afterwards. -/
  cursor : Position
  /-- The keys that are inserted. -/
  keys : List Text
  deriving DecidableEq, Repr

namespace Insertion

/-- The indentation of keys inserted at a context. -/
def width (c : Context) (autoIndent : Bool) : Nat :=
  c.indent + if autoIndent then indentStep else 0

/-- The line of a key behind an indentation. -/
def keyLine (width : Nat) (key : Text) : Text :=
  List.replicate width ' ' ++ keyText key

/-- The edit that inserts keys at a context; there is none without keys. On a field line the keys
follow the line, each on a line of its own. On a placeholder the first key takes the place of the
line. -/
def ofKeys? (c : Context) (keys : List Text) (autoIndent : Bool) : Option Insertion :=
  keys.getLast?.map fun last =>
    let width := width c autoIndent
    let lines := keys.map (keyLine width)
    let column := width + last.length + 2
    match c.kind with
    | .field =>
      let place : Position := ⟨c.line, c.lineLength⟩
      { start := place, stop := place, text := (lines.map ('\n' :: ·)).flatten
        cursor := ⟨c.line + keys.length, column⟩, keys }
    | .placeholder =>
      { start := ⟨c.line, 0⟩, stop := ⟨c.line, c.lineLength⟩, text := Text.join ['\n'] lines
        cursor := ⟨c.line + keys.length - 1, column⟩, keys }

/-- Lines with empty ones added until there is a line with a number. -/
def padded (lines : List Text) (line : Nat) : List Text :=
  lines ++ List.replicate (line + 1 - lines.length) []

/-- The lines of a document after an edit. Columns beyond the end of a line stand for its end. -/
def newLines (i : Insertion) (lines : List Text) (first last : Text) : List Text :=
  let replaced := first.take i.start.column ++ i.text ++ last.drop i.stop.column
  lines.take i.start.line ++ Text.splitOn '\n' replaced ++ lines.drop (i.stop.line + 1)

/-- The document after an edit. There is none when the edit ends before it starts. Lines that the
document does not have are added at its end. -/
def applied? (i : Insertion) (source : Text) : Option Text :=
  let lines := padded (Text.lines source) i.stop.line
  lines[i.start.line]?.bind fun first =>
    lines[i.stop.line]?.bind fun last =>
      if i.stop.line + 1 < i.start.line then none
      else
        let text := Text.join ['\n'] (i.newLines lines first last)
        some (if source.getLast? = some '\n' then text ++ ['\n'] else text)

end Insertion

end Frontmatter
