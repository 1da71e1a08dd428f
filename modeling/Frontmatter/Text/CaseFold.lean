import Frontmatter.Text.Lowercase

/-! # Case folding

Letters that differ in case alone form a class, and `foldChar` picks the representative of each
class. A letter's representative is its lower case form, save for some small letters that stand for
the same letter in another shape. `caseVariants` lists a whole class. -/

namespace Frontmatter

namespace Text

/-- Small letters that differ from another small letter only in shape, with that letter. -/
def foldAliases : List (Nat × Nat) :=
  [(0x17f, 0x73), (0xb5, 0x3bc), (0x345, 0x3b9), (0x1fbe, 0x3b9), (0x1fd3, 0x390), (0x3d0, 0x3b2),
   (0x3f5, 0x3b5), (0x3d1, 0x3b8), (0x3f0, 0x3ba), (0x3d6, 0x3c0), (0x3f1, 0x3c1), (0x3c2, 0x3c3),
   (0x3d5, 0x3c6), (0x1fe3, 0x3b0), (0x1c80, 0x432), (0x1c81, 0x434), (0x1c82, 0x43e),
   (0x1c83, 0x441), (0x1c84, 0x442), (0x1c85, 0x442), (0x1c86, 0x44a), (0x1c87, 0x463),
   (0x1c88, 0xa64b), (0x1e9b, 0x1e61), (0xfb06, 0xfb05)]

/-- The representative of the letters that differ from a letter in case alone. -/
def foldChar (c : Char) : Char :=
  let low := lowerChar c
  match foldAliases.lookup low.toNat with
  | some n => Char.ofNat n
  | none => low

/-- The letters with a given letter as their lower case form, that letter apart. -/
def capitals (c : Char) : List Char :=
  lowerRuns.filterMap fun (first, last, step, distance) =>
    let n := ((c.toNat : Int) - distance).toNat
    if first ≤ n ∧ n ≤ last ∧ (n - first) % step = 0 then some (Char.ofNat n) else none

/-- The letters that differ from a letter in case alone, and the letter itself. -/
def caseVariants (c : Char) : List Char :=
  let f := foldChar c
  let shapes := (foldAliases.filter fun a => a.2 = f.toNat).map fun a => Char.ofNat a.1
  (f :: shapes).flatMap fun x => x :: capitals x

end Text

end Frontmatter
