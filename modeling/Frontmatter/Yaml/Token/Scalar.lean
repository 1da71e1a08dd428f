import Frontmatter.Json.Reader
import Frontmatter.Yaml.Cursor
import Frontmatter.Yaml.Token

/-! # The texts of YAML scalars

A scalar is written plain, in quotes, or as an indented block. Each reader takes the cursor at the
scalar's first character and returns the scalar's text with the cursor behind it, or nothing when
the scalar is malformed. Line breaks inside plain and quoted scalars fold: one break becomes a
space, and of several the first is dropped. -/

namespace Frontmatter

namespace Yaml

/-! ## Gaps -/

/-- White space between two words of a scalar. -/
structure Gap where
  /-- The spaces and tabs before the first break. -/
  spaces : Text
  /-- Whether there is a line break. -/
  broken : Bool
  /-- The first break. -/
  first : Text
  /-- The breaks after the first. -/
  more : Text

/-- No white space. -/
def Gap.none : Gap := ⟨[], false, [], []⟩

/-- What a gap contributes to the text. -/
def Gap.folded (g : Gap) : Text :=
  if !g.broken then g.spaces
  else if g.first = ['\n'] then (if g.more = [] then [' '] else g.more)
  else g.first ++ g.more

/-- Reads white space. A tab on a line after a break must stand at or beyond the least column. -/
def Cursor.takeGap? : Nat → Int → Gap → Cursor → Option (Gap × Cursor)
  | 0, _, _, _ => Option.none
  | fuel + 1, least, g, c =>
    match c.rest with
    | [] => some (g, c)
    | x :: _ =>
      if isGap x then
        if g.broken ∧ (c.column : Int) < least ∧ x = '\t' then Option.none
        else
          let g := if g.broken then g else { g with spaces := g.spaces ++ [x] }
          Cursor.takeGap? fuel least g (c.skip 1)
      else if isBreak x then
        let b := c.takeBreak
        let g :=
          if g.broken then { g with more := g.more ++ b.1 }
          else { g with broken := true, first := b.1 }
        Cursor.takeGap? fuel least g b.2
      else some (g, c)

/-- Reads the white space at the cursor, after an escaped break when `broken` holds. -/
def Cursor.gap? (c : Cursor) (least : Int) (broken : Bool) : Option (Gap × Cursor) :=
  Cursor.takeGap? (c.rest.length + 1) least { Gap.none with broken := broken } c

/-! ## Plain scalars -/

/-- Whether a character ends a plain scalar inside brackets or braces. -/
def isFlowIndicator (c : Char) : Bool :=
  c = ',' || c = '[' || c = ']' || c = '\x7b' || c = '\x7d'

/-- The word of a plain scalar at the head of a text, and how long it is. Inside brackets a colon
right before an indicator is an error. -/
def plainWord? (flow : Bool) : Text → Option Text
  | [] => some []
  | c :: rest =>
    if isGap c || isBreak c then some []
    else if flow && c = ':' && (rest.head?.any fun d => isFlowIndicator d || d = '?') then none
    else if c = ':' && endsWord rest then some []
    else if flow && isFlowIndicator c then some []
    else (plainWord? flow rest).map (c :: ·)

/-- A plain scalar with the cursor behind it. -/
structure PlainRead where
  /-- The scalar's text. -/
  text : Text
  /-- The cursor behind the scalar and the white space after it. -/
  after : Cursor
  /-- Whether that white space holds a line break. -/
  broken : Bool

/-- Reads the words of a plain scalar onto the text so far; `gap` is the white space before the next
word. In block context the scalar's lines must be indented to `least`. -/
def Cursor.plainWords? : Nat → Bool → Int → Text → Gap → Cursor → Option PlainRead
  | 0, _, _, _, _, _ => none
  | fuel + 1, flow, least, acc, gap, c =>
    if c.atDocumentMark || c.rest.head? = some '#' then some ⟨acc, c, gap.broken⟩
    else
      (plainWord? flow c.rest).bind fun word =>
        let acc := if word = [] then acc else acc ++ gap.folded ++ word
        let broken := if word = [] then gap.broken else false
        let c := c.skip word.length
        if endsWord c.rest && c.rest ≠ [] then
          (c.gap? least broken).bind fun (gap, c) =>
            if !flow ∧ (c.column : Int) < least then some ⟨acc, c, gap.broken⟩
            else Cursor.plainWords? fuel flow least acc gap c
        else some ⟨acc, c, broken⟩

/-- Reads a plain scalar whose lines must be indented deeper than `indent` in block context. -/
def Cursor.plain? (c : Cursor) (flow : Bool) (indent : Int) : Option PlainRead :=
  Cursor.plainWords? (c.rest.length + 1) flow (indent + 1) [] Gap.none c

/-! ## Quoted scalars -/

/-- The number written by hexadecimal digits. -/
def hexNumber? (digits : Text) : Option Nat :=
  digits.foldlM (fun n c => (Json.hexDigit? c).map (16 * n + ·)) 0

/-- The character of a numeric escape with `size` digits at the head of a text. -/
def codeEscape? (size : Nat) (s : Text) : Option Char :=
  if s.length < size then none
  else
    (hexNumber? (s.take size)).bind fun n =>
      if (0xd800 ≤ n ∧ n ≤ 0xdfff) ∨ 0x10ffff < n then none else some (Char.ofNat n)

/-- The character that an escape after a backslash stands for, and the escape's length. -/
def quotedEscape? : Text → Option (Char × Nat)
  | [] => none
  | c :: rest =>
    match c with
    | '0' => some ('\x00', 1)
    | 'a' => some ('\x07', 1)
    | 'b' => some ('\x08', 1)
    | 't' => some ('\t', 1)
    | '\t' => some ('\t', 1)
    | 'n' => some ('\n', 1)
    | 'v' => some ('\x0b', 1)
    | 'f' => some ('\x0c', 1)
    | 'r' => some ('\r', 1)
    | 'e' => some ('\x1b', 1)
    | ' ' => some (' ', 1)
    | '/' => some ('/', 1)
    | 'N' => some ('\u0085', 1)
    | '_' => some ('\u00a0', 1)
    | 'L' => some ('\u2028', 1)
    | 'P' => some ('\u2029', 1)
    | 'x' => (codeEscape? 2 rest).map (·, 3)
    | 'u' => (codeEscape? 4 rest).map (·, 5)
    | 'U' => (codeEscape? 8 rest).map (·, 9)
    | c => if c = '\x22' ∨ c = '\\' then some (c, 1) else none

/-- Reads the characters of a quoted scalar up to white space, the closing quote or an escaped line
break, onto the reversed text so far. The flag says whether an escaped break ended it. -/
def Cursor.quotedWord? : Nat → Bool → Text → Cursor → Option (Text × Cursor × Bool)
  | 0, _, _, _ => none
  | fuel + 1, single, acc, c =>
    match c.rest with
    | [] => some (acc, c, false)
    | x :: rest =>
      if isGap x || isBreak x then some (acc, c, false)
      else if single then
        if x = '\x27' then
          if rest.head? = some '\x27' then
            Cursor.quotedWord? fuel single ('\x27' :: acc) (c.skip 2)
          else some (acc, c, false)
        else Cursor.quotedWord? fuel single (x :: acc) (c.skip 1)
      else if x = '\x22' then some (acc, c, false)
      else if x = '\\' then
        if (rest.head?.any isBreak) then some (acc, (c.skip 1).takeBreak.2, true)
        else
          (quotedEscape? rest).bind fun (e, size) =>
            Cursor.quotedWord? fuel single (e :: acc) (c.skip (size + 1))
      else Cursor.quotedWord? fuel single (x :: acc) (c.skip 1)

/-- Reads a quoted scalar after its opening quote onto the reversed text so far. -/
def Cursor.quotedWords? : Nat → Bool → Text → Cursor → Option (Text × Cursor)
  | 0, _, _, _ => none
  | fuel + 1, single, acc, c =>
    if c.atDocumentMark || c.rest = [] then none
    else
      (Cursor.quotedWord? (c.rest.length + 1) single acc c).bind fun (acc, c, escaped) =>
        if c.rest.head? = some (if single then '\x27' else '\x22') then
          some (acc.reverse, c.skip 1)
        else
          (c.gap? 0 escaped).bind fun (gap, c) =>
            Cursor.quotedWords? fuel single (gap.folded.reverse ++ acc) c

/-- Reads a quoted scalar at its opening quote. -/
def Cursor.quoted? (c : Cursor) (single : Bool) : Option (Text × Cursor) :=
  Cursor.quotedWords? (c.rest.length + 1) single [] (c.skip 1)

/-! ## Block scalars -/

/-- What to do with the line breaks at the end of a block scalar. -/
inductive Chomping where
  /-- Keep the last one. -/
  | clip
  /-- Keep all. -/
  | keep
  /-- Keep none. -/
  | strip
  deriving DecidableEq

/-- The chomping that a character states. -/
def Chomping.ofChar? : Char → Option Chomping
  | '+' => some .keep
  | '-' => some .strip
  | _ => none

/-- The indentation step that a character states; zero is none. -/
def indentStep? (c : Char) : Option Nat :=
  if c.isDigit ∧ c ≠ '0' then some (c.toNat - '0'.toNat) else none

/-- The chomping and the indentation step after a block scalar's indicator, in either order, and the
cursor behind them. -/
def Cursor.blockHeader? (c : Cursor) : Option (Chomping × Option Nat × Cursor) :=
  match c.rest with
  | [] => some (.clip, none, c)
  | x :: rest =>
    match Chomping.ofChar? x with
    | some chomping =>
      match rest with
      | d :: _ =>
        if d.isDigit then (indentStep? d).map fun step => (chomping, some step, c.skip 2)
        else some (chomping, none, c.skip 1)
      | [] => some (chomping, none, c.skip 1)
    | none =>
      if x.isDigit then
        (indentStep? x).map fun step =>
          match rest.head?.bind Chomping.ofChar? with
          | some chomping => (chomping, some step, c.skip 2)
          | none => (.clip, some step, c.skip 1)
      else some (.clip, none, c)

/-- Reads the spaces of an indentation: up to `indent` columns, or all when it is not known. -/
def Cursor.skipIndent (c : Cursor) (indent : Nat) : Cursor :=
  let spaces := (c.rest.takeWhile (· = ' ')).length
  c.skip (if indent = 0 then spaces else min spaces (indent - c.column))

/-- Reads empty lines and the indentation of the line after them: the breaks, the greatest column
seen, and the cursor. A tab within the indentation is an error. -/
def Cursor.blockBreaks? : Nat → Nat → Text → Nat → Cursor → Option (Text × Nat × Cursor)
  | 0, _, _, _, _ => none
  | fuel + 1, indent, breaks, widest, c =>
    let c := c.skipIndent indent
    let widest := max widest c.column
    if (indent = 0 ∨ c.column < indent) ∧ c.rest.head? = some '\t' then none
    else if c.rest.head?.any isBreak then
      let b := c.takeBreak
      Cursor.blockBreaks? fuel indent (breaks ++ b.1) widest b.2
    else some (breaks, widest, c)

/-- The lines of a block scalar read so far. -/
structure BlockRead where
  /-- The text without the last line's break. -/
  text : Text
  /-- The last line's break. -/
  lastBreak : Text
  /-- The breaks of the empty lines after it. -/
  breaks : Text
  /-- Whether the last line started with white space. -/
  indented : Bool

/-- Reads the lines of a block scalar indented to `indent`. In a folded scalar the break between two
lines that do not start with white space becomes a space, or vanishes before empty lines. -/
def Cursor.blockLines? : Nat → Bool → Nat → BlockRead → Cursor → Option (BlockRead × Cursor)
  | 0, _, _, _, _ => none
  | fuel + 1, literal, indent, r, c =>
    if c.column = indent ∧ c.rest ≠ [] then
      let indented := c.rest.head?.any isGap
      let fold := !literal && r.lastBreak = ['\n'] && !r.indented && !indented
      let joint := if fold then (if r.breaks = [] then [' '] else []) else r.lastBreak
      let line := c.takeWhile fun x => !isBreak x
      let b := line.2.takeBreak
      (Cursor.blockBreaks? (c.rest.length + 1) indent [] 0 b.2).bind fun (breaks, _, c) =>
        Cursor.blockLines? fuel literal indent
          ⟨r.text ++ joint ++ r.breaks ++ line.1, b.1, breaks, indented⟩ c
    else some (r, c)

/-- Reads a block scalar at its indicator, inside a collection indented to `parent`. -/
def Cursor.block? (c : Cursor) (literal : Bool) (parent : Int) : Option (Text × Cursor) :=
  (c.skip 1).blockHeader?.bind fun (chomping, step, c) =>
    c.finishLine?.bind fun c =>
      let fuel := c.rest.length + 1
      let stated : Nat :=
        match step with
        | some n => (if 0 ≤ parent then parent + n else n).toNat
        | none => 0
      (Cursor.blockBreaks? fuel stated [] 0 c).bind fun (breaks, widest, c) =>
        let indent := if stated = 0 then max (max widest (parent + 1).toNat) 1 else stated
        (Cursor.blockLines? fuel literal indent ⟨[], [], breaks, false⟩ c).map fun (r, c) =>
          match chomping with
          | .strip => (r.text, c)
          | .clip => (r.text ++ r.lastBreak, c)
          | .keep => (r.text ++ r.lastBreak ++ r.breaks, c)

end Yaml

end Frontmatter
