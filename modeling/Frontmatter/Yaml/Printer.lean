import Frontmatter.Yaml.Node

/-! # Writing YAML

`Yaml.print` writes a value as a YAML document in block style, two columns per level. A list under a
key is not indented further. Empty collections are written as brackets and braces. A text is written
plain when that reads back as the same text, in single quotes when it would read as something else,
as a literal block when it has line feeds, and in double quotes when it holds what only escapes can
show. -/

namespace Frontmatter

namespace Yaml

/-! ## The page -/

/-- What has been written. -/
structure Page where
  /-- The text, last character first. -/
  written : Text
  /-- The column behind it. -/
  column : Nat
  /-- Whether a space would be one too many. -/
  spaced : Bool
  /-- Whether nothing but indentation and indicators stands on the line. -/
  fresh : Bool

namespace Page

/-- An empty page. -/
def empty : Page := ⟨[], 0, true, true⟩

/-- Writes characters of one line. -/
def put (p : Page) (s : Text) : Page :=
  { p with written := s.reverse ++ p.written, column := p.column + s.length }

/-- Writes a line break. -/
def putBreak (p : Page) (b : Char) : Page :=
  { p with written := b :: p.written, column := 0 }

/-- Writes a space unless one would be too many. -/
def space (p : Page) : Page :=
  if p.spaced then p else p.put [' ']

/-- Moves to the indentation of a level, on a new line if need be. -/
def indent (p : Page) (column : Nat) : Page :=
  let broken := !p.fresh || column < p.column || (p.column = column && !p.spaced)
  let p := if broken then p.putBreak '\n' else p
  { p.put (List.replicate (column - p.column) ' ') with spaced := true, fresh := true }

/-- Writes an indicator that leaves the line fresh, behind a space. -/
def mark (p : Page) (c : Char) : Page :=
  { p.space.put [c] with spaced := false }

/-- Writes a word, behind a space. -/
def word (p : Page) (s : Text) : Page :=
  { p.space.put s with spaced := false, fresh := false }

/-- Writes a word right behind what stands there. -/
def attach (p : Page) (s : Text) : Page :=
  { p.put s with spaced := false, fresh := false }

end Page

/-! ## Scalars -/

/-- How a scalar is to be written. -/
inductive Quoting where
  /-- Plain. -/
  | plain
  /-- In single quotes. -/
  | single
  /-- In double quotes. -/
  | double
  /-- As a literal block. -/
  | literal
  deriving DecidableEq, Repr

/-- Whether a character can be written without an escape. -/
def isShowable (c : Char) : Bool :=
  let n := c.toNat
  n = 0x0a || (0x20 ≤ n && n ≤ 0x7e) || (0xa0 ≤ n && n ≤ 0xfffd && n ≠ 0xfeff) || 0x10000 ≤ n

/-- Whether one character of the first kind stands right before one of the second kind. -/
def hasPair (first second : Char → Bool) : Text → Bool
  | a :: b :: rest => (first a && second b) || hasPair first second (b :: rest)
  | _ => false

/-- Whether a plain scalar could not start with this text outside brackets. -/
def startsWithIndicator : Text → Bool
  | [] => false
  | c :: rest =>
    "#,[]\x7b\x7d&*!|>\x27\x22%@\x60".toList.contains c
      || ((c = '?' || c = ':' || c = '-') && endsWord rest)

/-- Whether behind its first character a text holds a colon that ends a word or a number sign that
starts one. -/
def holdsIndicator : Text → Bool
  | a :: b :: rest =>
    (b = ':' && endsWord rest) || (b = '#' && (isGap a || isBreak a)) || holdsIndicator (b :: rest)
  | _ => false

/-- Whether a text can stand plain outside brackets. -/
def canBePlain (s : Text) : Bool :=
  let outer := fun c : Char => c = ' ' || isBreak c
  !(s.head?.any outer) && !(s.getLast?.any outer) && !(s.any isBreak) && s.all isShowable
    && !startsWithIndicator s && !holdsIndicator s
    && (Text.stripStart "---" s).isNone && (Text.stripStart "..." s).isNone

/-- Whether a text can stand in single quotes. -/
def canBeSingle (s : Text) : Bool :=
  s.all isShowable && !hasPair isBreak (· = ' ') s && !hasPair (· = ' ') isBreak s

/-- Whether a text can be a literal block. -/
def canBeLiteral (s : Text) : Bool :=
  s ≠ [] && s.getLast? ≠ some ' ' && s.all isShowable && !hasPair (· = ' ') isBreak s

/-- Whether a plain scalar reads as the text itself. -/
def readsAsText (s : Text) : Bool :=
  !isPaddedDigits s &&
    match plainValue? s with
    | some (.text _) => true
    | _ => false

/-- How a text is written; a key that stands before its colon fits on one line. -/
def Quoting.ofText (isKey : Bool) (s : Text) : Quoting :=
  let quoted := if canBeSingle s then .single else .double
  if isKey && s.any isBreak then .double
  else if '\n' ∈ s then (if canBeLiteral s && !isKey then .literal else .double)
  else if readsAsText s && canBePlain s then .plain
  else quoted

/-- The hexadecimal digits of a number, filled up to a width. -/
def hexText (width n : Nat) : Text :=
  let digits := (Nat.toDigits 16 n).map Char.toUpper
  List.replicate (width - digits.length) '0' ++ digits

/-- How a character stands in double quotes. -/
def escaped (c : Char) : Text :=
  if isShowable c && !isBreak c && c ≠ '\x22' && c ≠ '\\' then [c]
  else
    let n := c.toNat
    let name? : Option Char :=
      [(0x00, '0'), (0x07, 'a'), (0x08, 'b'), (0x09, 't'), (0x0a, 'n'), (0x0b, 'v'), (0x0c, 'f'),
        (0x0d, 'r'), (0x1b, 'e'), (0x22, '\x22'), (0x5c, '\\'), (0x85, 'N'), (0xa0, '_'),
        (0x2028, 'L'), (0x2029, 'P')].lookup n
    match name? with
    | some name => ['\\', name]
    | none =>
      if n ≤ 0xff then '\\' :: 'x' :: hexText 2 n
      else if n ≤ 0xffff then '\\' :: 'u' :: hexText 4 n
      else '\\' :: 'U' :: hexText 8 n

/-- The hints behind the indicator of a literal block: its indentation when the text starts with
white space, and what to do with the line breaks at its end. -/
def literalHints (s : Text) : Text :=
  let step := if s.head?.any (fun c => c = ' ' || isBreak c) then ['2'] else []
  let chomping : Text :=
    match s.reverse with
    | [] => ['-']
    | [b] => if isBreak b then ['+'] else ['-']
    | b :: a :: _ => if !isBreak b then ['-'] else if isBreak a then ['+'] else []
  step ++ chomping

namespace Page

/-- Writes the lines of a literal block, each at an indentation; `start` holds at a line's start. -/
def literalLines (column : Nat) : Bool → Text → Page → Page
  | _, [], p => p
  | start, c :: rest, p =>
    if isBreak c then literalLines column true rest { p.putBreak c with fresh := true }
    else
      let p := if start then p.indent column else p
      literalLines column false rest { p.put [c] with fresh := false }

/-- Writes the characters of a text in single quotes, the lines after a break at an indentation. -/
def singleChars (column : Nat) : Bool → Text → Page → Page
  | start, [], p => if start then p.indent column else p
  | start, c :: rest, p =>
    if isBreak c then singleChars column true rest { p.putBreak c with fresh := true }
    else
      let p := if start && c ≠ ' ' then p.indent column else p
      let p := p.put (if c = '\x27' then ['\x27', '\x27'] else [c])
      singleChars column (start && c = ' ') rest { p with fresh := c = ' ' && p.fresh }

/-- Writes a text whose lines after the first stand at an indentation. -/
def scalar (p : Page) (column : Nat) (quoting : Quoting) (s : Text) : Page :=
  match quoting with
  | .plain => p.word s
  | .single => (singleChars column false s (p.word ['\x27'])).attach ['\x27']
  | .double => (p.word ['\x22']).put ((s.map escaped).flatten) |>.attach ['\x22']
  | .literal =>
    let p := (p.word ['|']).attach (literalHints s)
    literalLines column true s { p.putBreak '\n' with fresh := true, spaced := true }

end Page

/-! ## Values -/

/-- The text of a scalar that is no text. -/
def atomText? : Value → Option Text
  | .null => some "null"
  | .bool b => some (if b then "true" else "false")
  | .int n => some (Text.ofInt n)
  | .float (.infinite negative) => some (if negative then "-.inf" else ".inf")
  | .float .nan => some ".nan"
  | .float (.finite negative m e) => some (Decimal.pointed negative m e)
  | _ => none

/-- The number of bytes of a text in UTF-8. -/
def byteLength (s : Text) : Nat :=
  (s.map Char.utf8Size).foldl (· + ·) 0

/-- Whether a key may stand before its colon on one line: a scalar without line breaks or an empty
collection, of at most 128 bytes. -/
def isSimpleKey : Value → Bool
  | .text s => !(s.any isBreak) && byteLength s ≤ 128
  | .list items => items.isEmpty
  | .record entries => entries.isEmpty
  | .tagged tag v =>
    match v with
    | .text s => !(s.any isBreak) && byteLength tag + byteLength s ≤ 128
    | .list items => items.isEmpty && byteLength tag ≤ 128
    | .record entries => entries.isEmpty && byteLength tag ≤ 128
    | .tagged _ _ => false
    | v => byteLength tag + ((atomText? v).getD []).length ≤ 128
  | _ => true

/-- How a character stands in a tag: unescaped, or as the percent escapes of its bytes. -/
def tagChar (c : Char) : Text :=
  if isTagChar true c && c ≠ '%' then [c]
  else ((String.singleton c).toUTF8.toList.map fun b => '%' :: hexText 2 b.toNat).flatten

/-- A shown tag as it is written. -/
def tagText (tag : Text) : Text :=
  let name := tag.drop 1
  let name := if name.head? = some '!' then name.drop 1 else name
  if name = [] then "!<!>" else '!' :: (name.map tagChar).flatten

mutual

/-- Writes a value at a level of indentation. A list under a key stands at the level of the key:
`underKey` says that the value follows a key's colon. -/
def writeValue (level : Nat) (root underKey isKey : Bool) : Value → Page → Page
  | .text s, p => p.scalar level (Quoting.ofText isKey s) s
  | .list [], p => p.word "[]"
  | .list (v :: vs), p =>
    let inner := if root then 0 else if underKey && !p.fresh then level - 2 else level
    writeItems inner (v :: vs) p
  | .record [], p => p.word ['\x7b', '\x7d']
  | .record (e :: es), p =>
    let inner := if root then 0 else level
    writeEntries inner (e :: es) p
  | .tagged tag v, p => writeValue level root underKey isKey v (p.word (tagText tag))
  | v, p => p.word ((atomText? v).getD [])

/-- Writes the items of a list, each behind a dash. -/
def writeItems (level : Nat) : List Value → Page → Page
  | [], p => p
  | v :: rest, p =>
    let p := (p.indent level).mark '-'
    writeItems level rest (writeValue (level + 2) false false false v p)

/-- Writes the entries of a record, each key on a line of its own. A key that is not simple stands
behind a question mark. -/
def writeEntries (level : Nat) : List (Value × Value) → Page → Page
  | [], p => p
  | (k, v) :: rest, p =>
    let p := p.indent level
    let p :=
      if isSimpleKey k then (writeValue (level + 2) false true true k p).attach [':']
      else ((writeValue (level + 2) false true false k (p.mark '?')).indent level).mark ':'
    writeEntries level rest (writeValue (level + 2) false true false v p)

end

/-- A value as a YAML document. -/
def print (v : Value) : Text :=
  ((writeValue 2 true false false v .empty).indent 0).written.reverse

end Yaml

end Frontmatter
