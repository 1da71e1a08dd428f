import Frontmatter.Pattern.Reader

/-! # Patterns

A pattern is a text that describes other texts. `Pattern.compile?` gives none for a text that is no
pattern, and for one whose matching machine would grow too large. -/

namespace Frontmatter

/-- A pattern as it is written, with the expression that it stands for. -/
structure Pattern where
  /-- The text of the pattern. -/
  source : Text
  /-- What it describes. -/
  expression : Expression
  deriving DecidableEq, Repr

namespace Pattern

/-- The storage that a matching machine may take. -/
def greatestCost : Nat := 10 * Nat.pow 2 20

/-- The pattern that a text states. -/
def compile? (source : Text) : Option Pattern :=
  (read? source).bind fun e => if e.cost ≤ greatestCost then some ⟨source, e⟩ else none

/-- Whether some part of a text fits a pattern. -/
def occursIn (p : Pattern) (s : Text) : Bool :=
  p.expression.occursIn s

end Pattern

end Frontmatter
