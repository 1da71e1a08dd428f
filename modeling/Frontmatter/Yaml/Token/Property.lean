import Frontmatter.Json.Reader
import Frontmatter.Yaml.Cursor
import Frontmatter.Yaml.Token

/-! # Anchors, tags and directives

The words of a YAML text that say something about a node or a document. Each reader takes the cursor
at the word's indicator and returns its token with the cursor behind it. -/

namespace Frontmatter

namespace Yaml

/-! ## Anchors and aliases -/

/-- Whether an anchor's name may be followed by this text. -/
def endsAnchor (s : Text) : Bool :=
  endsWord s || s.head?.any fun c => "?:,]\x7d%@\x60".toList.contains c

/-- Reads the name of an anchor or alias after its indicator. -/
def Cursor.anchorName? (c : Cursor) : Option (Text × Cursor) :=
  let name := (c.skip 1).takeWhile isWordChar
  if name.1 = [] ∨ !endsAnchor name.2.rest then none else some name

/-! ## Tags -/

/-- Whether a character may stand unescaped in a tag; a tag in angle brackets may also hold commas
and square brackets. -/
def isTagChar (verbatim : Bool) (c : Char) : Bool :=
  isWordChar c || ";/?:@&=+$.!~*\x27()".toList.contains c || (verbatim && ",[]".toList.contains c)

/-- The byte that a percent escape at the head of a text states, and the rest. -/
def escapedByte? : Text → Option (Nat × Text)
  | '%' :: a :: b :: rest => do
    let a ← Json.hexDigit? a
    let b ← Json.hexDigit? b
    some (16 * a + b, rest)
  | _ => none

/-- Reads `count` escaped continuation bytes onto the bits of a character so far. -/
def continuationBytes? : Nat → Nat → Text → Option (Nat × Text)
  | 0, bits, s => some (bits, s)
  | count + 1, bits, s =>
    (escapedByte? s).bind fun (byte, rest) =>
      if byte / 64 = 2 then continuationBytes? count (64 * bits + byte % 64) rest else none

/-- The character that the percent escapes at the head of a text state, and the rest. -/
def escapedChar? (s : Text) : Option (Char × Text) :=
  (escapedByte? s).bind fun (byte, rest) =>
    let read : Option (Nat × Text) :=
      if byte < 0x80 then some (byte, rest)
      else if byte / 32 = 6 then continuationBytes? 1 (byte % 32) rest
      else if byte / 16 = 14 then continuationBytes? 2 (byte % 16) rest
      else if byte / 8 = 30 then continuationBytes? 3 (byte % 8) rest
      else none
    read.map fun (n, rest) => (Char.ofNat n, rest)

/-- Reads the characters of a tag, with its percent escapes resolved. -/
def tagText? : Nat → Bool → Text → Option (Text × Text)
  | 0, _, _ => none
  | fuel + 1, verbatim, s =>
    match s with
    | '%' :: _ =>
      (escapedChar? s).bind fun (c, rest) =>
        (tagText? fuel verbatim rest).map fun (more, rest) => (c :: more, rest)
    | c :: rest =>
      if isTagChar verbatim c then
        (tagText? fuel verbatim rest).map fun (more, rest) => (c :: more, rest)
      else some ([], s)
    | [] => some ([], [])

/-- Reads the characters of a tag at the cursor. -/
def Cursor.tagText? (c : Cursor) (verbatim : Bool) : Option (Text × Cursor) :=
  (Yaml.tagText? (c.rest.length + 1) verbatim c.rest).map fun (text, rest) =>
    (text, c.skip (c.rest.length - rest.length))

/-- Reads an exclamation mark and the word behind it, with a second exclamation mark if there is
one. -/
def Cursor.tagHandle? (c : Cursor) : Option (Text × Cursor) :=
  match c.rest with
  | '!' :: _ =>
    let word := (c.skip 1).takeWhile isWordChar
    if word.2.rest.head? = some '!' then some ('!' :: word.1 ++ ['!'], word.2.skip 1)
    else some ('!' :: word.1, word.2)
  | _ => none

/-- Whether a tag may be followed by this text. -/
def endsTag (flow : Bool) (s : Text) : Bool :=
  endsWord s || (flow && s.head? = some ',')

/-- Reads a tag in angle brackets. -/
def Cursor.verbatimTag? (c : Cursor) : Option (Token × Cursor) :=
  ((c.skip 2).tagText? true).bind fun (suffix, c) =>
    if suffix = [] ∨ c.rest.head? ≠ some '>' then none else some (.tag [] suffix, c.skip 1)

/-- Reads a tag that has a handle or none but the exclamation mark, which alone is a tag too. -/
def Cursor.shorthandTag? (c : Cursor) : Option (Token × Cursor) :=
  c.tagHandle?.bind fun (handle, c) =>
    (c.tagText? false).bind fun (suffix, c) =>
      if 1 < handle.length ∧ handle.getLast? = some '!' then
        if suffix = [] then none else some (.tag handle suffix, c)
      else
        let suffix := handle.drop 1 ++ suffix
        if suffix = [] then some (.tag [] ['!'], c) else some (.tag ['!'] suffix, c)

/-- Reads a tag at its exclamation mark. -/
def Cursor.tag? (c : Cursor) (flow : Bool) : Option (Token × Cursor) :=
  let read := if (c.rest.drop 1).head? = some '<' then c.verbatimTag? else c.shorthandTag?
  read.bind fun (token, c) => if endsTag flow c.rest then some (token, c) else none

/-! ## Directives -/

/-- Reads a version number of at most nine digits. -/
def Cursor.versionNumber? (c : Cursor) : Option (Nat × Cursor) :=
  let digits := c.takeWhile Char.isDigit
  if digits.1 = [] ∨ 9 < digits.1.length then none
  else some (Decimal.digitsValue digits.1, digits.2)

/-- Reads the version of a version directive. -/
def Cursor.version? (c : Cursor) : Option (Token × Cursor) :=
  (c.skipWhile isGap).versionNumber?.bind fun (major, c) =>
    if c.rest.head? = some '.' then
      (c.skip 1).versionNumber?.map fun (minor, c) => (.version major minor, c)
    else none

/-- Reads the handle and the tag start of a tag directive. -/
def Cursor.tagDirective? (c : Cursor) : Option (Token × Cursor) :=
  (c.skipWhile isGap).tagHandle?.bind fun (handle, c) =>
    if handle.getLast? ≠ some '!' ∨ !(c.rest.head?.any isGap) then none
    else
      ((c.skipWhile isGap).tagText? true).bind fun (start, c) =>
        if start = [] ∨ !endsWord c.rest then none else some (.tagDirective handle start, c)

/-- Reads a directive at its percent sign, to the end of its line. -/
def Cursor.directive? (c : Cursor) : Option (Token × Cursor) :=
  let name := (c.skip 1).takeWhile isWordChar
  if name.1 = [] ∨ !endsWord name.2.rest then none
  else
    let read :=
      if name.1 = "YAML".toList then name.2.version?
      else if name.1 = "TAG".toList then name.2.tagDirective?
      else none
    read.bind fun (token, c) => c.finishLine?.map fun c => (token, c)

end Yaml

end Frontmatter
