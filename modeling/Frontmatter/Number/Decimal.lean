import Frontmatter.Text.Basic
import Frontmatter.Number.Binary64

/-! # Decimal texts of numbers

Reading a decimal text as a double and writing a double with the fewest digits that read back as the
same number. Reading is rounded once from the exact decimal value. Writing tests the neighbours of
the exact value on the decimal grids of one, two, up to seventeen digits and takes the first grid
that has a point inside the interval of the numbers that round to the double. -/

namespace Frontmatter

namespace Decimal

/-! ## Reading -/

/-- The value of a text of ASCII digits. -/
def digitsValue (digits : Text) : Nat :=
  digits.foldl (fun n c => 10 * n + (c.toNat - '0'.toNat)) 0

/-- A decimal numeral taken apart: the digits before and after the point, and the power of ten. -/
structure Numeral where
  /-- Whether a minus sign stands in front. -/
  negative : Bool
  /-- The digits before the point. -/
  whole : Text
  /-- The digits after the point. -/
  fraction : Text
  /-- The power of ten written after an exponent mark, zero without one. -/
  power : Int
  deriving DecidableEq, Repr

/-- The double nearest to a numeral. -/
def Numeral.toBinary64 (n : Numeral) : Binary64 :=
  .ofDecimal n.negative (digitsValue (n.whole ++ n.fraction)) (n.power - n.fraction.length)

/-- The sign in front of a text, and the text after it. -/
def takeSign : Text → Bool × Text
  | '-' :: rest => (true, rest)
  | '+' :: rest => (false, rest)
  | s => (false, s)

/-- The power of ten that a text states: nothing, or an exponent mark with a signed numeral. -/
def exponent? : Text → Option Int
  | [] => some 0
  | mark :: rest =>
    if mark = 'e' ∨ mark = 'E' then
      let signed := takeSign rest
      if signed.2 ≠ [] ∧ signed.2.all Char.isDigit then
        some (if signed.1 then -(digitsValue signed.2 : Int) else digitsValue signed.2)
      else none
    else none

/-- A numeral: an optional sign, digits with an optional point, and an optional exponent. At least
one digit stands before or after the point. -/
def numeral? (s : Text) : Option Numeral :=
  let signed := takeSign s
  let whole := signed.2.takeWhile Char.isDigit
  let afterWhole := signed.2.dropWhile Char.isDigit
  let pointed : Text × Text :=
    match afterWhole with
    | '.' :: rest => (rest.takeWhile Char.isDigit, rest.dropWhile Char.isDigit)
    | rest => ([], rest)
  if whole = [] ∧ pointed.1 = [] then none
  else (exponent? pointed.2).map fun power => ⟨signed.1, whole, pointed.1, power⟩

/-! ## Shortest digits -/

/-- The numbers that round to a double form an interval. It is given in units of a quarter of the
double's last place, times a power of two that is kept apart. -/
structure Interval where
  /-- The lower end. -/
  low : Nat
  /-- The double itself. -/
  middle : Nat
  /-- The upper end. -/
  high : Nat
  /-- The common denominator of the three. -/
  den : Nat
  /-- Whether the ends belong to it. -/
  closed : Bool
  deriving Repr

/-- The interval of a positive finite double: half a unit of the last place on both sides, but a
quarter below a power of two. Its ends round to the double exactly when the mantissa is even. -/
def interval (mantissa : Nat) (exponent : Int) : Interval :=
  let atBoundary := mantissa = Nat.pow 2 52 ∧ Binary64.leastExponent < exponent
  let below := if atBoundary then 1 else 2
  let scale := Binary64.scaledRatio 1 1 (-(exponent - 2))
  { low := (4 * mantissa - below) * scale.1
    middle := 4 * mantissa * scale.1
    high := (4 * mantissa + 2) * scale.1
    den := scale.2
    closed := mantissa % 2 = 0 }

/-- Whether `digits · num / den'` lies in an interval, where the grid step is `num / den'`. -/
def Interval.holds (i : Interval) (digits num den' : Nat) : Bool :=
  let point := digits * num * i.den
  let low := i.low * den'
  let high := i.high * den'
  if i.closed then low ≤ point && point ≤ high else low < point && point < high

/-- The grid step `10 ^ power` as numerator and denominator. -/
def step (power : Int) : Nat × Nat :=
  if 0 ≤ power then (Nat.pow 10 power.toNat, 1) else (1, Nat.pow 10 (-power).toNat)

/-- The point of the grid `10 ^ power` nearest to the middle of an interval among those inside
it. -/
def Interval.gridPoint? (i : Interval) (power : Int) : Option Nat :=
  let s := step power
  let exact := i.middle * s.2
  let unit := i.den * s.1
  let below := exact / unit
  let hitsBelow := i.holds below s.1 s.2
  let hitsAbove := i.holds (below + 1) s.1 s.2
  if hitsBelow && hitsAbove then
    let gap := exact % unit
    if 2 * gap < unit then some below
    else if unit < 2 * gap then some (below + 1)
    else if below % 2 = 0 then some below else some (below + 1)
  else if hitsBelow then some below
  else if hitsAbove then some (below + 1)
  else none

/-- The first of the grids `10 ^ power`, `10 ^ (power - 1)`, … that has a point in the interval. -/
def Interval.firstGrid (i : Interval) : Nat → Int → Nat × Int
  | 0, power => (i.middle / i.den, power)
  | fuel + 1, power =>
    match i.gridPoint? power with
    | some digits => (digits, power)
    | none => i.firstGrid fuel (power - 1)

/-- The power of ten of the leading digit of `num / den`, or one more. -/
def leadingPower (num den : Nat) : Int :=
  if den ≤ num then ((Nat.toDigits 10 (num / den)).length : Int) - 1
  else -((Nat.toDigits 10 (den / num)).length : Int) + 1

/-- Trailing zeros of the digits moved into the power of ten. -/
def dropZeros : Nat → Nat → Int → Nat × Int
  | 0, digits, power => (digits, power)
  | fuel + 1, digits, power =>
    if digits ≠ 0 ∧ digits % 10 = 0 then dropZeros fuel (digits / 10) (power + 1)
    else (digits, power)

/-- The fewest digits, with their power of ten, that read back as the double
`mantissa · 2 ^ exponent`; of several the nearest to it. -/
def shortest (mantissa : Nat) (exponent : Int) : Nat × Int :=
  if mantissa = 0 then (0, 0)
  else
    let i := interval mantissa exponent
    let found := i.firstGrid 20 (leadingPower i.middle i.den + 1)
    dropZeros 400 found.1 found.2

/-! ## Writing -/

/-- Digits with a power of ten written without an exponent. -/
def positional (digits : Nat) (power : Int) : Text :=
  let shown := Text.ofNat digits
  if 0 ≤ power then shown ++ List.replicate power.toNat '0'
  else
    let places := (-power).toNat
    if places < shown.length then
      shown.take (shown.length - places) ++ '.' :: shown.drop (shown.length - places)
    else "0.".toList ++ List.replicate (places - shown.length) '0' ++ shown

/-- A minus sign for a negative number. -/
def signText (negative : Bool) : Text :=
  if negative then ['-'] else []

/-- A double in the fewest digits that read back, never with an exponent. -/
def display : Binary64 → Text
  | .nan => "NaN"
  | .infinite negative => signText negative ++ "inf"
  | .finite negative m e =>
    let d := shortest m e
    signText negative ++ positional d.1 d.2

/-- A finite double in the fewest digits that read back, always with a point or an exponent:
positional when the point falls after the fifth place below and not beyond the sixteenth place
above, and otherwise with one digit before the point. -/
def pointed (negative : Bool) (m : Nat) (e : Int) : Text :=
  let d := shortest m e
  let shown := Text.ofNat d.1
  let point : Int := shown.length + d.2
  signText negative ++
    if m = 0 then "0.0".toList
    else if 0 ≤ d.2 ∧ point ≤ 16 then positional d.1 d.2 ++ ".0"
    else if -5 < point ∧ point ≤ 16 then positional d.1 d.2
    else
      let power := 'e' :: Text.ofInt (point - 1)
      match shown with
      | [digit] => digit :: power
      | digit :: more => digit :: '.' :: more ++ power
      | [] => power

end Decimal

end Frontmatter
