import Frontmatter.Pattern.Basic
import Frontmatter.Verdict

/-! # Free texts

A text value has a length in characters and may have to match a pattern. -/

namespace Frontmatter

/-- What a text value must be like. -/
structure TextGrammar where
  /-- The least number of characters. -/
  minLength : Option Nat
  /-- The greatest number of characters. -/
  maxLength : Option Nat
  /-- The pattern that a part of it must fit. -/
  pattern : Option Pattern
  deriving DecidableEq, Repr

namespace TextGrammar

/-- What is wrong with the length of a value. -/
def lengthFault? (g : TextGrammar) (length : Nat) : Option Rejection :=
  ((g.minLength.filter (length < ·)).map (.tooShort · length)).or
    ((g.maxLength.filter (· < length)).map (.tooLong · length))

/-- What is wrong with a value. -/
def fault? (g : TextGrammar) (value : Text) : Option Rejection :=
  (g.lengthFault? value.length).or
    ((g.pattern.filter fun p => !p.occursIn value).map fun p => .patternMismatch p.source)

end TextGrammar

end Frontmatter
