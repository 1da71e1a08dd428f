import Frontmatter.Pattern.Expression

/-! # Characters and escapes of patterns

The smallest parts of a pattern: a character that stands for itself, and the escapes behind a
backslash, which stand for a character, a set or an assertion. What an escape means depends on the
modes that are on (`Modes`). Every reader takes the text from its place on and gives what it read
with the rest; it gives none when the pattern is wrong. -/

namespace Frontmatter

namespace Pattern

/-- The modes of a pattern, which it may turn on and off. -/
structure Modes where
  /-- Letters that differ in case alone are the same. -/
  ignoreCase : Bool
  /-- The line assertions hold at every line. -/
  multiLine : Bool
  /-- A dot stands for a line break too. -/
  dotAll : Bool
  /-- The short forms stand for characters of all scripts. -/
  unicode : Bool
  /-- A carriage return is part of a line break. -/
  returns : Bool
  /-- White space and comments stand for nothing. -/
  verbose : Bool
  deriving DecidableEq, Repr

/-- The modes at the start of a pattern. -/
def Modes.initial : Modes :=
  { ignoreCase := false, multiLine := false, dotAll := false, unicode := true, returns := false,
    verbose := false }

/-- A text without leading white space and comments; the flag tells whether it starts inside a
comment. -/
def skipComments : Bool → Text → Text
  | _, [] => []
  | true, c :: rest => skipComments (c ≠ '\n') rest
  | false, c :: rest =>
    if Text.isBlank c then skipComments false rest
    else if c = '#' then skipComments true rest
    else c :: rest

/-- A text without what stands for nothing in the modes. -/
def Modes.skip (m : Modes) (s : Text) : Text :=
  if m.verbose then skipComments false s else s

/-- A set in the modes: with the other forms of its letters if case does not matter. -/
def Modes.fold (m : Modes) (s : CharSet) : CharSet :=
  if !m.ignoreCase then s
  else if m.unicode then .folded s
  else .asciiFolded s

/-- The complement of a set in the modes; among ASCII characters only there is none. -/
def Modes.negate? (m : Modes) (negated : Bool) (s : CharSet) : Option CharSet :=
  if !negated then some s
  else if m.unicode then some (.compl s)
  else none

/-- The smallest parts of a pattern. -/
inductive Atom where
  /-- A character. -/
  | char (c : Char)
  /-- A set of characters. -/
  | set (s : CharSet)
  /-- An assertion. -/
  | assertion (a : Assertion)
  deriving DecidableEq, Repr

/-! ## Numbers -/

/-- A text up to a closing brace and the text behind it, where what stands for nothing is left out;
the number bounds the length of the text. -/
def braced? (m : Modes) : Nat → Text → Option (Text × Text)
  | 0, _ => none
  | fuel + 1, s =>
    match m.skip s with
    | [] => none
    | '\x7d' :: rest => some ([], rest)
    | c :: rest => (braced? m fuel rest).map fun p => (c :: p.1, p.2)

/-- The value of a hexadecimal digit. -/
def hexDigit? (c : Char) : Option Nat :=
  if c.isDigit then some (c.toNat - '0'.toNat)
  else if 'a' ≤ c ∧ c ≤ 'f' then some (c.toNat - 'a'.toNat + 10)
  else if 'A' ≤ c ∧ c ≤ 'F' then some (c.toNat - 'A'.toNat + 10)
  else none

/-- The character with a hexadecimal number. -/
def hexChar? (digits : Text) : Option Char :=
  (digits.mapM hexDigit?).bind fun ds =>
    let n := ds.foldl (fun n d => 16 * n + d) 0
    if ds ≠ [] ∧ n.isValidChar then some (Char.ofNat n) else none

/-- A number of characters at the head of a text, where what stands for nothing is left out. -/
def several? (m : Modes) : Nat → Text → Option (Text × Text)
  | 0, s => some ([], s)
  | n + 1, s =>
    match m.skip s with
    | [] => none
    | c :: rest => (several? m n rest).map fun p => (c :: p.1, p.2)

/-- The character of a hexadecimal escape behind its mark: as many digits as the mark asks for, or
any number of them in braces. In a pattern of ASCII characters the two digits of a byte must be an
ASCII character. -/
def hexEscape? (m : Modes) (digits : Nat) (s : Text) : Option (Atom × Text) :=
  match m.skip s with
  | '\x7b' :: rest => do
    let (number, rest) ← braced? m (rest.length + 1) rest
    let c ← hexChar? number
    some (.char c, m.skip rest)
  | rest => do
    let (number, rest) ← several? m digits rest
    let c ← hexChar? number
    if digits = 2 ∧ !m.unicode ∧ 0x80 ≤ c.toNat then none
    else some (.char c, m.skip rest)

/-! ## Sets -/

/-- What stands before and after the first occurrence of one text in another. -/
def cutAt? (mark : Text) : Text → Option (Text × Text)
  | [] => none
  | c :: rest =>
    match Text.stripStart mark (c :: rest) with
    | some after => some ([], after)
    | none => (cutAt? mark rest).map fun p => (c :: p.1, p.2)

/-- The set for what is written between the braces of a property: a name, or a property and its
value. -/
def propertySet? (name : Text) : Option CharSet :=
  match cutAt? "!=" name with
  | some (property, value) => CharSet.valued? property value
  | none =>
    match (Text.cut ':' name).or (Text.cut '=' name) with
    | some (property, value) => CharSet.valued? property value
    | none => CharSet.named? name

/-- The set of a property escape behind its mark. -/
def propertyEscape? (m : Modes) (negated : Bool) (s : Text) : Option (Atom × Text) := do
  let (name, rest) ← match m.skip s with
    | [] => none
    | '\x7b' :: rest => braced? m (rest.length + 1) rest
    | c :: rest => if c = '\\' then none else some ([c], m.skip rest)
  if !m.unicode then none
  else
    let set ← propertySet? name
    let set ← m.negate? negated (m.fold set)
    some (.set set, rest)

/-- The set of a short form. -/
def shortSet? (m : Modes) (negated : Bool) (unicode ascii : CharSet) : Option Atom :=
  (m.negate? negated (if m.unicode then unicode else ascii)).map .set

/-! ## Assertions -/

/-- Whether a character may stand in the name of a boundary. -/
def isBoundaryName (c : Char) : Bool :=
  c.isAlpha || c = '-'

/-- The boundary with a name. -/
def boundary? (ascii : Bool) (name : Text) : Option Assertion :=
  if name = "start".toList then some (.wordStart ascii)
  else if name = "end".toList then some (.wordEnd ascii)
  else if name = "start-half".toList then some (.wordStartHalf ascii)
  else if name = "end-half".toList then some (.wordEndHalf ascii)
  else none

/-- The assertion of a word boundary escape behind its mark. A name in braces tells which kind of
boundary; braces that do not hold a name are left for a repetition. -/
def boundaryEscape? (m : Modes) (s : Text) : Option (Atom × Text) :=
  let plain : Atom := .assertion (.wordBoundary !m.unicode)
  match s with
  | '\x7b' :: inner =>
    match m.skip inner with
    | [] => none
    | c :: _ =>
      if isBoundaryName c then do
        let (name, rest) ← braced? m (inner.length + 1) inner
        if name.all isBoundaryName then
          (boundary? (!m.unicode) name).map fun a => (.assertion a, rest)
        else none
      else some (plain, s)
  | _ => some (plain, s)

/-! ## Escapes -/

/-- Whether a character stands for itself behind a backslash: any ASCII character besides letters,
digits and angle brackets. -/
def isEscapable (c : Char) : Bool :=
  c.toNat < 0x80 && !c.isAlphanum && c ≠ '<' && c ≠ '>'

/-- The atom of an escape, after its backslash. -/
def escape? (m : Modes) : Text → Option (Atom × Text)
  | [] => none
  | c :: rest =>
    let ascii := !m.unicode
    match c with
    | 'x' => hexEscape? m 2 rest
    | 'u' => hexEscape? m 4 rest
    | 'U' => hexEscape? m 8 rest
    | 'p' => propertyEscape? m false rest
    | 'P' => propertyEscape? m true rest
    | 'd' => (shortSet? m false .digit .asciiDigit).map (·, rest)
    | 'D' => (shortSet? m true .digit .asciiDigit).map (·, rest)
    | 's' => (shortSet? m false .blank .asciiBlank).map (·, rest)
    | 'S' => (shortSet? m true .blank .asciiBlank).map (·, rest)
    | 'w' => (shortSet? m false .word .asciiWord).map (·, rest)
    | 'W' => (shortSet? m true .word .asciiWord).map (·, rest)
    | 'a' => some (.char '\x07', rest)
    | 'f' => some (.char '\x0c', rest)
    | 't' => some (.char '\t', rest)
    | 'n' => some (.char '\n', rest)
    | 'r' => some (.char '\r', rest)
    | 'v' => some (.char '\x0b', rest)
    | 'A' => some (.assertion .textStart, rest)
    | 'z' => some (.assertion .textEnd, rest)
    | 'b' => boundaryEscape? m rest
    | 'B' => some (.assertion (.noWordBoundary ascii), rest)
    | '<' => some (.assertion (.wordStart ascii), rest)
    | '>' => some (.assertion (.wordEnd ascii), rest)
    | c => if isEscapable c then some (.char c, rest) else none

end Pattern

end Frontmatter
