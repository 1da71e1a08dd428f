import Frontmatter.Text.Basic

/-! # Field paths

A path names a field of a block by the keys from the outermost one inwards, joined by dots. Keys may
hold dots themselves, so a path is a text; its segments are the non-empty parts between the dots. -/

namespace Frontmatter

/-- A dotted path of keys. -/
abbrev Path := Text

namespace Path

/-- The path of a chain of keys, outermost first. -/
def ofKeys (keys : List Text) : Path :=
  Text.join ['.'] keys

/-- The path one key further in. -/
def child (path : Path) (key : Text) : Path :=
  path ++ '.' :: key

/-- The non-empty parts of a path between its dots. -/
def segments (path : Path) : List Text :=
  (Text.splitOn '.' path).filter (· ≠ [])

/-- The number of segments of a path. -/
def depth (path : Path) : Nat :=
  path.segments.length

/-- What follows the last dot of a path, or all of it without one. -/
def leaf (path : Path) : Text :=
  ((Text.splitOn '.' path).getLast?).getD path

/-- Whether one path lies below another: it starts with the other, then come a dot and at least one
more character. Nothing lies below the empty path. -/
def isBelow (path ancestor : Path) : Bool :=
  !ancestor.isEmpty &&
    match Text.stripStart ancestor path with
    | some ('.' :: _ :: _) => true
    | _ => false

end Path

end Frontmatter
