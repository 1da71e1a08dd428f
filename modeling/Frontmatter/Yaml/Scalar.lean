import Frontmatter.Json.Reader

/-! # What plain YAML scalars denote

A plain scalar denotes null, a truth value, an integer or a double when it is spelled like one, and
otherwise the text itself. -/

namespace Frontmatter

namespace Yaml

/-- Whether a word spells null. -/
def isNullWord (s : Text) : Bool :=
  ["null".toList, "Null".toList, "NULL".toList, "~".toList].contains s

/-- The truth value that a word spells. -/
def bool? (s : Text) : Option Bool :=
  if ["true".toList, "True".toList, "TRUE".toList].contains s then some true
  else if ["false".toList, "False".toList, "FALSE".toList].contains s then some false
  else none

/-- The number that digits of a base spell; there is at least one digit. -/
def digits? (base : Nat) (s : Text) : Option Nat :=
  if s = [] then none
  else
    s.foldlM
      (fun n c => (Json.hexDigit? c).bind fun d => if d < base then some (base * n + d) else none) 0

/-- The number that a text spells with a mark of its base in front. -/
def marked? (s : Text) : Option Nat :=
  match s with
  | '0' :: 'x' :: rest => digits? 16 rest
  | '0' :: 'o' :: rest => digits? 8 rest
  | '0' :: 'b' :: rest => digits? 2 rest
  | _ => none

/-- Whether a text is a row of digits that starts with a zero and goes on, behind any sign. Such a
row is no number. -/
def isPaddedDigits (s : Text) : Bool :=
  let unsigned :=
    match s with
    | '-' :: rest => rest
    | '+' :: rest => rest
    | _ => s
  1 < unsigned.length && unsigned.head? = some '0' && unsigned.all Char.isDigit

/-- The natural number that a text spells, with any plus sign. -/
def natural? (s : Text) : Option Nat :=
  let unsigned :=
    match s with
    | '+' :: rest => rest
    | _ => s
  (marked? unsigned).or (if isPaddedDigits s then none else digits? 10 unsigned)

/-- The magnitude of the number that a text spells behind a minus sign. -/
def negated? (s : Text) : Option Nat :=
  match s with
  | '-' :: unsigned =>
    (marked? unsigned).or (if isPaddedDigits s then none else digits? 10 unsigned)
  | _ => none

/-- The double that a text spells. Only the words for infinity spell one, never a large numeral. -/
def double? (s : Text) : Option Binary64 :=
  let unsigned :=
    match s with
    | '+' :: rest => rest
    | _ => s
  let signedTwice := s.head? = some '+' && unsigned.head?.any fun c => c = '+' || c = '-'
  if signedTwice then none
  else if [".inf".toList, ".Inf".toList, ".INF".toList].contains unsigned then
    some (.infinite false)
  else if ["-.inf".toList, "-.Inf".toList, "-.INF".toList].contains s then some (.infinite true)
  else if [".nan".toList, ".NaN".toList, ".NAN".toList].contains s then some .nan
  else
    (Decimal.numeral? unsigned).bind fun n =>
      let x := n.toBinary64
      if x.isFinite then some x else none

/-- What an integer's spelling denotes. -/
inductive IntegerReading where
  /-- The text spells no integer of up to 128 bits. -/
  | none
  /-- An integer of up to 64 bits, signed or unsigned. -/
  | fits (n : Int)
  /-- An integer that needs more than 64 bits. -/
  | tooLarge
  deriving DecidableEq, Repr

/-- Reads a text as an integer. -/
def readInteger (s : Text) : IntegerReading :=
  match natural? s with
  | some n => if n < Nat.pow 2 64 then .fits n else if n < Nat.pow 2 128 then .tooLarge else .none
  | none =>
    match negated? s with
    | some n =>
      if n ≤ Nat.pow 2 63 then .fits (-(n : Int))
      else if n ≤ Nat.pow 2 127 then .tooLarge
      else .none
    | none => .none

/-- The value that a plain scalar denotes. An integer that needs more than 64 bits has none. -/
def plainValue? (s : Text) : Option Value :=
  if s = [] ∨ isNullWord s then some .null
  else
    match bool? s with
    | some b => some (.bool b)
    | none =>
      match readInteger s with
      | .fits n => some (.int n)
      | .tooLarge => none
      | .none =>
        if isPaddedDigits s then some (.text s)
        else
          match double? s with
          | some x => some (.float x)
          | none => some (.text s)

end Yaml

end Frontmatter
