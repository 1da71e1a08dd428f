import Frontmatter.Text.Basic

/-! # Reading position in a YAML text

A cursor is the text still to be read together with the line and column it starts at. Five
characters break lines; a carriage return and a line feed together are one break. -/

namespace Frontmatter

namespace Yaml

/-- Whether a character breaks a line. -/
def isBreak (c : Char) : Bool :=
  c = '\n' || c = '\r' || c = '\x85' || c = '\u2028' || c = '\u2029'

/-- Whether a character is a space or a tab. -/
def isGap (c : Char) : Bool :=
  c = ' ' || c = '\t'

/-- Whether a text is at its end or goes on with a space, a tab or a line break. -/
def endsWord : Text → Bool
  | [] => true
  | c :: _ => isGap c || isBreak c

/-- Whether a text is at its end or goes on with a line break. -/
def endsLine : Text → Bool
  | [] => true
  | c :: _ => isBreak c

/-- Whether a character may stand in a YAML text. -/
def isPrintable (c : Char) : Bool :=
  let n := c.toNat
  n = 0x09 || n = 0x0a || n = 0x0d || (0x20 ≤ n && n ≤ 0x7e) || n = 0x85
    || (0xa0 ≤ n && n ≤ 0xd7ff) || (0xe000 ≤ n && n ≤ 0xfffd) || 0x10000 ≤ n

/-- Whether a character may stand in the name of an anchor or a tag handle. -/
def isWordChar (c : Char) : Bool :=
  c.isAlphanum || c = '_' || c = '-'

/-- The text still to be read and where it starts. -/
structure Cursor where
  /-- The text still to be read. -/
  rest : Text
  /-- The number of characters read. -/
  index : Nat
  /-- The number of lines read. -/
  line : Nat
  /-- The number of characters read on the current line. -/
  column : Nat

namespace Cursor

/-- The cursor at the start of a text. -/
def start (s : Text) : Cursor := ⟨s, 0, 0, 0⟩

/-- Moves past `n` characters of one line. -/
def skip (c : Cursor) (n : Nat) : Cursor :=
  ⟨c.rest.drop n, c.index + n, c.line, c.column + n⟩

/-- The characters up to the first that fails a test, and the cursor behind them. -/
def takeWhile (c : Cursor) (p : Char → Bool) : Text × Cursor :=
  let taken := c.rest.takeWhile p
  (taken, c.skip taken.length)

/-- Moves to the first character that fails a test. -/
def skipWhile (c : Cursor) (p : Char → Bool) : Cursor :=
  (c.takeWhile p).2

/-- The line break at the cursor and the cursor behind it. Every break counts as a line feed, save
the two Unicode separators, which stand for themselves; without a break nothing is read. -/
def takeBreak (c : Cursor) : Text × Cursor :=
  match c.rest with
  | '\r' :: '\n' :: rest => (['\n'], ⟨rest, c.index + 2, c.line + 1, 0⟩)
  | b :: rest =>
    if isBreak b then
      (if b = '\u2028' ∨ b = '\u2029' then [b] else ['\n'], ⟨rest, c.index + 1, c.line + 1, 0⟩)
    else ([], c)
  | [] => ([], c)

/-- Moves past a comment. -/
def skipComment (c : Cursor) : Cursor :=
  match c.rest with
  | '#' :: _ => c.skipWhile fun x => !isBreak x
  | _ => c

/-- Moves past what may follow on a line that is finished: spaces, a comment, and the break. -/
def finishLine? (c : Cursor) : Option Cursor :=
  let c := (c.skipWhile isGap).skipComment
  if endsLine c.rest then some c.takeBreak.2 else none

/-- Whether a line starts here with three marks of one kind that stand alone. -/
def atMark (c : Cursor) (mark : Char) : Bool :=
  c.column = 0 &&
    match c.rest with
    | a :: b :: d :: rest => a = mark && b = mark && d = mark && endsWord rest
    | _ => false

/-- Whether a document starts or ends here. -/
def atDocumentMark (c : Cursor) : Bool :=
  c.atMark '-' || c.atMark '.'

end Cursor

end Yaml

end Frontmatter
