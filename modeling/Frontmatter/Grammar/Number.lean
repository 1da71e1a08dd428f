import Frontmatter.Rule.Basic
import Frontmatter.Text.Digit
import Frontmatter.Verdict

/-! # Numbers with units

A number value is a numeral with a unit behind it. The numeral is taken as far as it goes: a sign,
digits, a point and more digits, where at least one digit stands before or after the point. What is
left, without the white space around it, is the unit. -/

namespace Frontmatter

/-- What a number value must be like. -/
structure NumberGrammar where
  /-- The units that it may have. -/
  units : List Text
  /-- What it does with units. -/
  unitPolicy : UnitPolicy
  /-- The least number. -/
  min : Option Binary64
  /-- The greatest number. -/
  max : Option Binary64
  /-- Whether it may have a fraction. -/
  allowDecimals : Bool
  deriving DecidableEq, Repr

/-- A numeral and the unit behind it. -/
structure Quantity where
  /-- The numeral. -/
  numeral : Text
  /-- The unit, empty when there is none. -/
  unit : Text
  deriving DecidableEq, Repr

namespace Quantity

/-- The sign at the head of a text, and the rest. -/
def splitSign : Text → Text × Text
  | c :: rest => if c = '+' ∨ c = '-' then ([c], rest) else ([], c :: rest)
  | [] => ([], [])

/-- The digits at the head of a text, with a point and the digits behind it, and the rest. -/
def splitUnsigned? (s : Text) : Option (Text × Text) :=
  let whole := s.takeWhile Text.isDecimalDigit
  match s.dropWhile Text.isDecimalDigit with
  | '.' :: rest =>
    let fraction := rest.takeWhile Text.isDecimalDigit
    if whole = [] ∧ fraction = [] then none
    else some (whole ++ '.' :: fraction, rest.dropWhile Text.isDecimalDigit)
  | rest => if whole = [] then none else some (whole, rest)

/-- The longest numeral at the head of a text, and the rest. -/
def splitNumeral? (s : Text) : Option (Text × Text) :=
  let signed := splitSign s
  (splitUnsigned? signed.2).map fun p => (signed.1 ++ p.1, p.2)

/-- The quantity of a trimmed text. A line break may only stand right behind the numeral. -/
def parse? (s : Text) : Option Quantity :=
  (splitNumeral? s).bind fun (numeral, rest) =>
    let unit := Text.trimStart rest
    if '\n' ∈ unit then none else some ⟨numeral, Text.trimEnd unit⟩

/-- The number of a quantity, when its numeral is made of ASCII digits. -/
def number? (q : Quantity) : Option Binary64 :=
  (Decimal.numeral? q.numeral).map Decimal.Numeral.toBinary64

end Quantity

namespace NumberGrammar

/-- Numbers with units, and no other demands. -/
def withUnits (units : List Text) : NumberGrammar :=
  { units, unitPolicy := .required, min := none, max := none, allowDecimals := true }

/-- A numeral with the first unit, if there is one and units may stand. -/
def withUnit (g : NumberGrammar) (numeral : Text) : Text :=
  match g.units with
  | unit :: _ => if g.unitPolicy = .forbidden then numeral else numeral ++ unit
  | [] => numeral

/-- A number value. -/
def sample (g : NumberGrammar) : Text :=
  g.withUnit "10"

/-- What is wrong with the unit of a quantity. -/
def unitFault? (g : NumberGrammar) (q : Quantity) : Option Rejection :=
  if q.unit = [] then
    if g.units ≠ [] ∧ g.unitPolicy = .required then
      some (.unitRequired (g.withUnit q.numeral) g.units)
    else none
  else if g.units = [] ∨ g.unitPolicy = .forbidden then some (.noUnitExpected q.numeral)
  else if g.units.contains q.unit then none
  else some (.invalidUnit g.units)

/-- Whether a number lies within the bounds. -/
def inBounds (g : NumberGrammar) (x : Binary64) : Bool :=
  !(g.min.any fun min => x.lt min) && !(g.max.any fun max => max.lt x)

/-- What is wrong with a number, apart from its unit. -/
def numberFault? (g : NumberGrammar) (x : Binary64) (unit : Text) : Option Rejection :=
  if !g.inBounds x then some (.outOfRange g.min g.max)
  else if !g.allowDecimals && !x.isInteger then some (.decimalNotAllowed x.round unit)
  else none

/-- What is wrong with a value. -/
def fault? (g : NumberGrammar) (value : Text) : Option Rejection :=
  match Quantity.parse? (Text.trim value) with
  | none => some (.invalidNumber g.sample)
  | some q =>
    match q.number? with
    | none => some (.invalidNumber g.sample)
    | some x => (g.unitFault? q).or (g.numberFault? x q.unit)

end NumberGrammar

end Frontmatter
