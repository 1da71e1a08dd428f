import Frontmatter.Number.Decimal
import Frontmatter.Value

/-! # Reading JSON

`Json.read?` reads a JSON text into a `Value`. Entries of an object keep their order and may repeat
a key: a reader of fields decides what a repeated key means. Integers stay exact up to 64 bits;
every other number becomes a double by scaling its leading digits, as many as fit into 64 bits, with
a rounded power of ten. -/

namespace Frontmatter

namespace Json

/-- The characters that may stand between the tokens of a JSON text. -/
def isSpace (c : Char) : Bool :=
  c = ' ' || c = '\n' || c = '\t' || c = '\r'

/-- A text without leading JSON white space. -/
def skipSpace (s : Text) : Text :=
  s.dropWhile isSpace

/-! ## Numbers -/

/-- The greatest significand. -/
def greatestSignificand : Nat := Nat.pow 2 64 - 1

/-- Digits read into a significand as long as it fits into 64 bits: the significand, how many digits
were taken, and the digits that were left. -/
def significand : Nat → Nat → Text → Nat × Nat × Text
  | n, taken, [] => (n, taken, [])
  | n, taken, c :: rest =>
    let next := 10 * n + (c.toNat - '0'.toNat)
    if next ≤ greatestSignificand then significand next (taken + 1) rest
    else (n, taken, c :: rest)

/-- The double for `n · 10 ^ power`, by one rounded multiplication or by rounded divisions of at
most `10 ^ 308` each; none when the number is too large. -/
def scaled? : Nat → Binary64 → Int → Option Binary64
  | 0, x, _ => some x
  | fuel + 1, x, power =>
    if power.natAbs ≤ 308 then
      let factor := Binary64.ofDecimal false 1 power.natAbs
      if 0 ≤ power then
        let y := x.mul factor
        if y.isFinite then some y else none
      else some (x.div factor)
    else if x.isZero then some x
    else if 0 ≤ power then none
    else scaled? fuel (x.div (Binary64.ofDecimal false 1 308)) (power + 308)

/-- The signed double for `n · 10 ^ power`. -/
def double? (negative : Bool) (n : Nat) (power : Int) : Option Value :=
  let power := if power < -100000 then -100000 else power
  (scaled? 400 (Binary64.ofInt n) power).map fun x => .float (if negative then x.neg else x)

/-- The number of an exponent mark at the head of a text, and the rest; a mark without digits is an
error. -/
def exponent? : Text → Option (Int × Text)
  | mark :: rest =>
    if mark = 'e' ∨ mark = 'E' then
      let signed := Decimal.takeSign rest
      let digits := signed.2.takeWhile Char.isDigit
      if digits = [] then none
      else
        let size : Int := Decimal.digitsValue digits
        some (if signed.1 then -size else size, signed.2.dropWhile Char.isDigit)
    else some (0, mark :: rest)
  | [] => some (0, [])

/-- Whether a text starts with an exponent mark. -/
def startsExponent : Text → Bool
  | c :: _ => c = 'e' || c = 'E'
  | [] => false

/-- An integer that has neither point nor exponent: exact when it fits into 64 bits with its sign.
The negative zero is a double. -/
def integer (negative : Bool) (n : Nat) : Value :=
  if !negative then .int n
  else if n = 0 ∨ Nat.pow 2 63 < n then .float (Binary64.ofInt n).neg
  else .int (-(n : Int))

/-- The number at the head of a text, and the rest. -/
def number? (s : Text) : Option (Value × Text) :=
  let negative := s.head? = some '-'
  let unsigned := if negative then s.drop 1 else s
  let whole := unsigned.takeWhile Char.isDigit
  let rest := unsigned.dropWhile Char.isDigit
  if whole = [] ∨ (whole.head? = some '0' ∧ 1 < whole.length) then none
  else
    let lead := significand 0 0 whole
    let dropped : Int := lead.2.2.length
    match rest with
    | '.' :: rest =>
      let fraction := rest.takeWhile Char.isDigit
      if fraction = [] then none
      else
        let all := significand lead.1 0 fraction
        (exponent? (rest.dropWhile Char.isDigit)).bind fun e =>
          (double? negative all.1 (dropped - all.2.1 + e.1)).map fun v => (v, e.2)
    | rest =>
      if startsExponent rest then
        (exponent? rest).bind fun e =>
          (double? negative lead.1 (dropped + e.1)).map fun v => (v, e.2)
      else if lead.2.2 = [] then some (integer negative lead.1, rest)
      else (double? negative lead.1 dropped).map fun v => (v, rest)

/-! ## Strings -/

/-- The value of a hexadecimal digit. -/
def hexDigit? (c : Char) : Option Nat :=
  if c.isDigit then some (c.toNat - '0'.toNat)
  else if 'a' ≤ c ∧ c ≤ 'f' then some (c.toNat - 'a'.toNat + 10)
  else if 'A' ≤ c ∧ c ≤ 'F' then some (c.toNat - 'A'.toNat + 10)
  else none

/-- The value of the four hexadecimal digits at the head of a text, and the rest. -/
def hexQuad? : Text → Option (Nat × Text)
  | a :: b :: c :: d :: rest => do
    let a ← hexDigit? a
    let b ← hexDigit? b
    let c ← hexDigit? c
    let d ← hexDigit? d
    some (((a * 16 + b) * 16 + c) * 16 + d, rest)
  | _ => none

/-- The character of a numeric escape, after its mark, and the rest; two halves of a pair stand for
one character and a half alone is an error. -/
def unicodeEscape? (s : Text) : Option (Char × Text) := do
  let (first, rest) ← hexQuad? s
  if 0xd800 ≤ first ∧ first < 0xdc00 then
    match rest with
    | '\\' :: 'u' :: rest =>
      let (second, rest) ← hexQuad? rest
      if 0xdc00 ≤ second ∧ second < 0xe000 then
        some (Char.ofNat (0x10000 + (first - 0xd800) * 1024 + (second - 0xdc00)), rest)
      else none
    | _ => none
  else if 0xdc00 ≤ first ∧ first < 0xe000 then none
  else some (Char.ofNat first, rest)

/-- The character of an escape, after the backslash, and the rest. -/
def escape? : Text → Option (Char × Text)
  | 'n' :: rest => some ('\n', rest)
  | 't' :: rest => some ('\t', rest)
  | 'r' :: rest => some ('\r', rest)
  | 'b' :: rest => some ('\x08', rest)
  | 'f' :: rest => some ('\x0c', rest)
  | 'u' :: rest => unicodeEscape? rest
  | c :: rest => if c = '\x22' ∨ c = '\\' ∨ c = '/' then some (c, rest) else none
  | [] => none

/-- The text of a string after its opening quote, read onto the reversed text so far, and the rest
after its closing quote. -/
def stringBody? : Nat → Text → Text → Option (Text × Text)
  | 0, _, _ => none
  | _ + 1, _, [] => none
  | fuel + 1, acc, c :: rest =>
    if c = '\x22' then some (acc.reverse, rest)
    else if c = '\\' then (escape? rest).bind fun e => stringBody? fuel (e.1 :: acc) e.2
    else if c.toNat < 0x20 then none
    else stringBody? fuel (c :: acc) rest

/-- The text of a string after its opening quote, and the rest. -/
def string? (s : Text) : Option (Text × Text) :=
  stringBody? (s.length + 1) [] s

/-! ## Values -/

/-- A literal word at the head of a text. -/
def word? (word : Text) (v : Value) (s : Text) : Option (Value × Text) :=
  (Text.stripStart word s).map fun rest => (v, rest)

mutual

/-- The value at the head of a text, after white space, and the rest. -/
def value? : Nat → Text → Option (Value × Text)
  | 0, _ => none
  | fuel + 1, s =>
    match skipSpace s with
    | '[' :: rest =>
      match skipSpace rest with
      | ']' :: rest => some (.list [], rest)
      | rest => (items? fuel rest).map fun r => (.list r.1, r.2)
    | '\x7b' :: rest =>
      match skipSpace rest with
      | '\x7d' :: rest => some (.record [], rest)
      | rest => (members? fuel rest).map fun r => (.record r.1, r.2)
    | '\x22' :: rest => (string? rest).map fun r => (.text r.1, r.2)
    | 't' :: rest => word? "rue" (.bool true) rest
    | 'f' :: rest => word? "alse" (.bool false) rest
    | 'n' :: rest => word? "ull" .null rest
    | rest => number? rest

/-- The items of an array up to its closing bracket, and the rest after it. -/
def items? : Nat → Text → Option (List Value × Text)
  | 0, _ => none
  | fuel + 1, s =>
    (value? fuel s).bind fun first =>
      match skipSpace first.2 with
      | ']' :: rest => some ([first.1], rest)
      | ',' :: rest => (items? fuel rest).map fun r => (first.1 :: r.1, r.2)
      | _ => none

/-- The members of an object up to its closing brace, and the rest after it. -/
def members? : Nat → Text → Option (List (Value × Value) × Text)
  | 0, _ => none
  | fuel + 1, s =>
    match skipSpace s with
    | '\x22' :: rest =>
      (string? rest).bind fun key =>
        match skipSpace key.2 with
        | ':' :: rest =>
          (value? fuel rest).bind fun v =>
            match skipSpace v.2 with
            | '\x7d' :: rest => some ([(.text key.1, v.1)], rest)
            | ',' :: rest => (members? fuel rest).map fun r => ((.text key.1, v.1) :: r.1, r.2)
            | _ => none
        | _ => none
    | _ => none

end

/-- The value that a JSON text denotes; nothing but white space may stand around it. -/
def read? (s : Text) : Option Value :=
  (value? (2 * s.length + 2) s).bind fun r => if skipSpace r.2 = [] then some r.1 else none

end Json

end Frontmatter
