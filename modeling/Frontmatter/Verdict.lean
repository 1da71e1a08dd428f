import Frontmatter.Number.Decimal

/-! # Verdicts

The outcome of checking a value. A rejection is kept as its cause with what a reader needs to know
to mend the value; `Rejection.label` and `Rejection.advice` put it into words. -/

namespace Frontmatter

/-- Why a value is rejected. -/
inductive Rejection where
  /-- The value is missing. -/
  | required (sample : Text)
  /-- The value is not a number. -/
  | invalidNumber (sample : Text)
  /-- The number has no unit. -/
  | unitRequired (sample : Text) (units : List Text)
  /-- The number has a unit that is not one of its units. -/
  | invalidUnit (units : List Text)
  /-- The number has a unit and must not. -/
  | noUnitExpected (numeral : Text)
  /-- The number lies outside its bounds. -/
  | outOfRange (min max : Option Binary64)
  /-- The number has a fraction and must not. -/
  | decimalNotAllowed (whole : Binary64) (unit : Text)
  /-- The value is not a truth value. -/
  | invalidBoolean
  /-- The value is not one of the allowed ones. -/
  | invalidValue (values : List Text)
  /-- The text is too short. -/
  | tooShort (min length : Nat)
  /-- The text is too long. -/
  | tooLong (max length : Nat)
  /-- The text does not match its pattern. -/
  | patternMismatch (pattern : Text)
  deriving DecidableEq, Repr

namespace Rejection

/-- The name of a rejection's cause. -/
def name : Rejection → Text
  | .required _ => "required"
  | .invalidNumber _ => "invalid_number"
  | .unitRequired _ _ => "unit_required"
  | .invalidUnit _ => "invalid_unit"
  | .noUnitExpected _ => "no_unit_expected"
  | .outOfRange _ _ => "out_of_range"
  | .decimalNotAllowed _ _ => "decimal_not_allowed"
  | .invalidBoolean => "invalid_boolean"
  | .invalidValue _ => "invalid_value"
  | .tooShort _ _ => "too_short"
  | .tooLong _ _ => "too_long"
  | .patternMismatch _ => "pattern_mismatch"

/-- The short text of a rejection's cause. -/
def label : Rejection → Text
  | .required _ => "required"
  | .invalidNumber _ => "invalid number"
  | .unitRequired _ _ => "unit required"
  | .invalidUnit _ => "invalid unit"
  | .noUnitExpected _ => "no unit expected"
  | .outOfRange _ _ => "out of range"
  | .decimalNotAllowed _ _ => "decimals not allowed"
  | .invalidBoolean => "invalid boolean"
  | .invalidValue _ => "invalid value"
  | .tooShort _ _ => "too short"
  | .tooLong _ _ => "too long"
  | .patternMismatch _ => "pattern mismatch"

/-- Texts with a comma and a space between neighbours. -/
def listing (items : List Text) : Text :=
  Text.join ", " items

/-- What a rejection advises to do. -/
def advice : Rejection → Text
  | .required e => "enter a value, e.g. ".toList ++ e
  | .invalidNumber e => "enter a number, e.g. ".toList ++ e
  | .unitRequired e units =>
    "add a unit, e.g. ".toList ++ e ++ " (valid units: ".toList ++ listing units ++ [')']
  | .invalidUnit units => "valid units: ".toList ++ listing units
  | .noUnitExpected numeral => "remove the unit: ".toList ++ numeral
  | .outOfRange (some min) (some max) =>
    "enter a value between ".toList ++ Decimal.display min ++ " and ".toList ++ Decimal.display max
  | .outOfRange (some min) none => "enter a value of at least ".toList ++ Decimal.display min
  | .outOfRange none (some max) => "enter a value of at most ".toList ++ Decimal.display max
  | .outOfRange none none => []
  | .decimalNotAllowed whole unit =>
    "use a whole number, e.g. ".toList ++ Decimal.display whole ++ unit
  | .invalidBoolean => "use one of: true, false, yes, no"
  | .invalidValue values => "valid values: ".toList ++ listing values
  | .tooShort min length =>
    "use at least ".toList ++ Text.ofNat min ++ " characters (".toList ++ Text.ofNat length
      ++ " now)".toList
  | .tooLong max length =>
    "use at most ".toList ++ Text.ofNat max ++ " characters (".toList ++ Text.ofNat length
      ++ " now)".toList
  | .patternMismatch pattern => "value must match ".toList ++ pattern

end Rejection

/-- The outcome of checking a value. -/
inductive Verdict where
  /-- The value is fine. -/
  | valid
  /-- The value is rejected. -/
  | invalid (why : Rejection)
  /-- There is nothing to check the value against. -/
  | unchecked
  deriving DecidableEq, Repr

namespace Verdict

/-- The rejection of an invalid value. -/
def rejection? : Verdict → Option Rejection
  | .invalid why => some why
  | _ => none

/-- Whether a value is rejected. -/
def isInvalid (v : Verdict) : Bool :=
  v.rejection?.isSome

/-- The name of an outcome. -/
def name : Verdict → Text
  | .valid => "valid"
  | .invalid _ => "invalid"
  | .unchecked => "unchecked"

end Verdict

end Frontmatter
