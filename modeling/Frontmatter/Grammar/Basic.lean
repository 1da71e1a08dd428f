import Frontmatter.Grammar.Number
import Frontmatter.Grammar.Text

/-! # Grammars of values

What the value of a field must be like. A grammar comes from the type of a candidate key or from a
rule's value configuration; `FieldGrammar.forField?` gives the first the preference.
`FieldGrammar.check` checks a value as it is written on its line: white space around it and one pair
of quotes do not count, and an empty value is fine unless a value is required. -/

namespace Frontmatter

/-- The grammar of a value that is there. -/
inductive Grammar where
  /-- A number with its unit. -/
  | number (g : NumberGrammar)
  /-- A truth value. -/
  | boolean
  /-- One of the values, or anything if there are none. -/
  | enum (values : List Text)
  /-- A text. -/
  | text (g : TextGrammar)
  /-- Anything. -/
  | anything
  deriving DecidableEq, Repr

namespace Grammar

/-- The words for truth values. -/
def booleanWords : List Text := ["true", "false", "yes", "no"]

/-- What is wrong with a truth value: it must be one of the words, in small or capital ASCII
letters. -/
def booleanFault? (value : Text) : Option Rejection :=
  if booleanWords.contains (Text.asciiLower (Text.trim value)) then none else some .invalidBoolean

/-- What is wrong with one of several values. -/
def enumFault? (values : List Text) (value : Text) : Option Rejection :=
  if values = [] ∨ values.contains (Text.trim value) then none else some (.invalidValue values)

/-- What is wrong with a value. -/
def fault? (g : Grammar) (value : Text) : Option Rejection :=
  match g with
  | .number g => g.fault? value
  | .boolean => booleanFault? value
  | .enum values => enumFault? values value
  | .text g => g.fault? value
  | .anything => none

/-- A value to show to someone who has to enter one. -/
def sample : Grammar → Text
  | .number g => g.sample
  | .boolean => "true"
  | .enum values => values.head?.getD "value"
  | .text _ => "text"
  | .anything => "text"

/-- The grammar of a candidate's type. -/
def ofType : CandidateType → Grammar
  | .number units => .number (.withUnits units)
  | .boolean => .boolean
  | .enum values => .enum values

/-- The grammar of a value configuration. A pattern that does not compile is left out. -/
def ofConfig (c : ValueConfig) : Grammar :=
  match c.kind with
  | .number =>
    .number
      { units := c.units, unitPolicy := c.unitPolicy, min := c.min, max := c.max,
        allowDecimals := c.allowDecimals }
  | .boolean => .boolean
  | .enum => .enum c.values
  | .text =>
    .text
      { minLength := c.minLength, maxLength := c.maxLength,
        pattern := c.pattern.bind Pattern.compile? }
  | .none => .anything

end Grammar

/-- The grammar of a field's value. -/
structure FieldGrammar where
  /-- Whether a value must be there. -/
  required : Bool
  /-- What a value that is there must be like. -/
  grammar : Grammar
  deriving DecidableEq, Repr

namespace FieldGrammar

/-- The grammar of a field whose key is a candidate of a type. -/
def ofType (type : CandidateType) : FieldGrammar :=
  ⟨false, .ofType type⟩

/-- The grammar of the fields of a rule with a value configuration. -/
def ofConfig (c : ValueConfig) : FieldGrammar :=
  ⟨c.required, .ofConfig c⟩

/-- The grammar of the field with a key below a rule. The type of the candidate with that key counts
first, and then the rule's value configuration. -/
def forField? (r : Rule) (key : Text) : Option FieldGrammar :=
  match (r.candidate? key).bind (·.type) with
  | some type => some (ofType type)
  | none => r.value.map ofConfig

/-- A text without the pair of a quote around it, if there is one. -/
def stripQuote? (quote : Char) (s : Text) : Option Text :=
  if s.head? = some quote ∧ s.getLast? = some quote ∧ 2 ≤ s.length then
    some (s.drop 1).dropLast
  else none

/-- A text without the pair of double or single quotes around it, if there is one. -/
def unquoted (s : Text) : Text :=
  ((stripQuote? '\x22' s).or (stripQuote? '\'' s)).getD s

/-- A value to show to someone who has to enter one. -/
def sample (g : FieldGrammar) : Text :=
  g.grammar.sample

/-- What is wrong with a value as it is written. -/
def fault? (g : FieldGrammar) (raw : Text) : Option Rejection :=
  let value := unquoted (Text.trim raw)
  if value = [] then
    if g.required then some (.required g.sample) else none
  else g.grammar.fault? value

/-- The verdict on a value as it is written. -/
def check (g : FieldGrammar) (raw : Text) : Verdict :=
  match g.fault? raw with
  | some why => .invalid why
  | none => .valid

/-- The verdict on a value that may have no grammar. -/
def checkOptional : Option FieldGrammar → Text → Verdict
  | some g, raw => g.check raw
  | none, _ => .unchecked

end FieldGrammar

end Frontmatter
