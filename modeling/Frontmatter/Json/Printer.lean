import Frontmatter.Number.Decimal
import Frontmatter.Value

/-! # Writing JSON

A `Value` is written on one line (`Json.compact`) or with one item per line and two spaces of
indentation per level (`Json.pretty`). Objects have texts as keys: a record whose keys are numbers
or truth values is written with their texts as keys, and one with other keys cannot be written.
Doubles have the fewest digits that read back; infinities and not a number become null. -/

namespace Frontmatter

namespace Json

/-- The hexadecimal digit of a number below sixteen. -/
def hexDigit (n : Nat) : Char :=
  Nat.digitChar n

/-- How a character stands in a string: quotes, backslashes and control characters are escaped. -/
def escapeChar (c : Char) : Text :=
  if c = '\x22' then ['\\', '\x22']
  else if c = '\\' then ['\\', '\\']
  else if c = '\n' then ['\\', 'n']
  else if c = '\r' then ['\\', 'r']
  else if c = '\t' then ['\\', 't']
  else if c = '\x08' then ['\\', 'b']
  else if c = '\x0c' then ['\\', 'f']
  else if c.toNat < 0x20 then
    ['\\', 'u', '0', '0', hexDigit (c.toNat / 16), hexDigit (c.toNat % 16)]
  else [c]

/-- A text as a string in quotes. -/
def quoted (s : Text) : Text :=
  '\x22' :: (s.map escapeChar).flatten ++ ['\x22']

/-- A double as a number, or null when it is not finite. -/
def floatText : Binary64 → Text
  | .finite negative m e => Decimal.pointed negative m e
  | _ => "null"

/-- Why a value cannot be written. -/
inductive Unwritable where
  /-- A key is no text, number or truth value. -/
  | keyWithoutText
  /-- A key is a number that is not finite. -/
  | keyNotFinite
  deriving DecidableEq, Repr

/-- The text of the reason why a value cannot be written. -/
def Unwritable.message : Unwritable → Text
  | .keyWithoutText => "key must be a string"
  | .keyNotFinite => "float key must be finite"

/-- The key text of a record's key. -/
def keyText : Value → Except Unwritable Text
  | .text s => .ok s
  | .bool b => .ok (if b then "true" else "false")
  | .int n => .ok (Text.ofInt n)
  | .float x => if x.isFinite then .ok (floatText x) else .error .keyNotFinite
  | _ => .error .keyWithoutText

/-- A line break with the indentation of a level. -/
def newline (level : Nat) : Text :=
  '\n' :: List.replicate (2 * level) ' '

/-- Pieces between brackets, one per line at the next level; no pieces leave the brackets
together. -/
def bracketed (opening closing : Char) (level : Nat) (pieces : List Text) : Text :=
  if pieces = [] then [opening, closing]
  else
    opening :: newline (level + 1) ++ Text.join (',' :: newline (level + 1)) pieces
      ++ newline level ++ [closing]

mutual

/-- A value at a level of nesting. The reason why it cannot be written is that of its first key at
fault. -/
def prettyAt (level : Nat) : Value → Except Unwritable Text
  | .null => .ok "null"
  | .bool b => .ok (if b then "true" else "false")
  | .int n => .ok (Text.ofInt n)
  | .float x => .ok (floatText x)
  | .text s => .ok (quoted s)
  | .list items => (prettyItems (level + 1) items).map (bracketed '[' ']' level)
  | .record entries => (prettyEntries (level + 1) entries).map (bracketed '\x7b' '\x7d' level)
  | .tagged tag v =>
    (prettyAt (level + 1) v).map fun shown =>
      bracketed '\x7b' '\x7d' level [quoted tag ++ ": " ++ shown]

/-- The items of a list at a level of nesting. -/
def prettyItems (level : Nat) : List Value → Except Unwritable (List Text)
  | [] => .ok []
  | v :: rest =>
    (prettyAt level v).bind fun shown => (prettyItems level rest).map fun more => shown :: more

/-- The entries of a record at a level of nesting. -/
def prettyEntries (level : Nat) : List (Value × Value) → Except Unwritable (List Text)
  | [] => .ok []
  | (k, v) :: rest =>
    (keyText k).bind fun key =>
      (prettyAt level v).bind fun shown =>
        (prettyEntries level rest).map fun more => (quoted key ++ ": " ++ shown) :: more

end

/-- A value with one item per line. -/
def pretty (v : Value) : Except Unwritable Text :=
  prettyAt 0 v

mutual

/-- A value on one line; keys that JSON cannot have are written as empty texts. -/
def compact : Value → Text
  | .null => "null"
  | .bool b => if b then "true" else "false"
  | .int n => Text.ofInt n
  | .float x => floatText x
  | .text s => quoted s
  | .list items => '[' :: Text.join [','] (compactItems items) ++ [']']
  | .record entries => '\x7b' :: Text.join [','] (compactEntries entries) ++ ['\x7d']
  | .tagged tag v => '\x7b' :: quoted tag ++ ':' :: compact v ++ ['\x7d']

/-- The items of a list, each on one line. -/
def compactItems : List Value → List Text
  | [] => []
  | v :: rest => compact v :: compactItems rest

/-- The entries of a record, each on one line. -/
def compactEntries : List (Value × Value) → List Text
  | [] => []
  | (k, v) :: rest =>
    (quoted ((keyText k).toOption.getD []) ++ ':' :: compact v) :: compactEntries rest

end

end Json

end Frontmatter
