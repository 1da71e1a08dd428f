import Frontmatter.Text.CaseFold

/-! # Sets of characters

A pattern describes the characters that may stand at a place by a set. A set is kept as it is
described, by ranges of code points and by the operations on sets, and `CharSet.mem` decides
membership by following the description. -/

namespace Frontmatter

/-- A description of a set of characters. -/
inductive CharSet where
  /-- The characters in ranges of code points, both ends included. -/
  | ranges (rs : List (Nat × Nat))
  /-- The characters of either set. -/
  | union (a b : CharSet)
  /-- The characters of both sets. -/
  | inter (a b : CharSet)
  /-- The characters that are not in a set. -/
  | compl (a : CharSet)
  /-- The characters of a set and those that differ from one of them in case alone. -/
  | folded (a : CharSet)
  /-- The same, where only ASCII letters have a case. -/
  | asciiFolded (a : CharSet)
  deriving DecidableEq, Repr

namespace CharSet

/-- The ASCII letter of the other case, and any other character unchanged. -/
def otherCase (c : Char) : Char :=
  if c.isLower then c.toUpper else c.toLower

/-- Whether a character belongs to a set. -/
def mem : CharSet → Char → Bool
  | .ranges rs, c => Text.inRanges rs c.toNat
  | .union a b, c => a.mem c || b.mem c
  | .inter a b, c => a.mem c && b.mem c
  | .compl a, c => !a.mem c
  | .folded a, c => (Text.caseVariants c).any a.mem
  | .asciiFolded a, c => a.mem c || a.mem (otherCase c)

/-! ## Common sets -/

/-- The set without characters. -/
def empty : CharSet := .ranges []

/-- The set of all characters. -/
def full : CharSet := .ranges [(0, 0x10ffff)]

/-- The set of a single character. -/
def single (c : Char) : CharSet := .ranges [(c.toNat, c.toNat)]

/-- The characters of one set that are not in another. -/
def diff (a b : CharSet) : CharSet := .inter a (.compl b)

/-- The characters of exactly one of two sets. -/
def symmDiff (a b : CharSet) : CharSet := .union (a.diff b) (b.diff a)

/-! ## Ranges in order -/

/-- A range and others that start behind its start, where those that touch or overlap become one. -/
def joinTouching : Nat × Nat → List (Nat × Nat) → List (Nat × Nat)
  | r, [] => [r]
  | r, next :: rest =>
    if next.1 ≤ r.2 + 1 then joinTouching (r.1, max r.2 next.2) rest
    else r :: joinTouching next rest

/-- The set of the characters in any of the given ranges, which may come in any order. -/
def ofRanges (rs : List (Nat × Nat)) : CharSet :=
  match rs.mergeSort fun a b => a.1 ≤ b.1 with
  | [] => empty
  | r :: rest => .ranges (joinTouching r rest)

/-- The number of ranges that a set takes, estimated from above. -/
def extent : CharSet → Nat
  | .ranges rs => rs.length
  | .union a b => a.extent + b.extent
  | .inter a b => a.extent + b.extent
  | .compl a => a.extent + 1
  | .folded a => 2 * a.extent
  | .asciiFolded a => 2 * a.extent

end CharSet

end Frontmatter
