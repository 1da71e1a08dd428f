import Frontmatter.Text.Basic

/-! # File name patterns

A file name pattern is a text in which `?` stands for any character, `*` for any text, and brackets
for one of the characters or ranges that they list, or for any other one if they start with `!`. Two
stars stand for whole directories and may only make up a whole part of a path. -/

namespace Frontmatter

namespace Glob

/-- What a part of a pattern stands for. -/
inductive Part where
  /-- A character. -/
  | char (c : Char)
  /-- Any character. -/
  | any
  /-- Any text. -/
  | many
  /-- Any number of directories. -/
  | directories
  /-- A character in one of the ranges, or in none of them. -/
  | oneOf (negated : Bool) (ranges : List (Char × Char))
  deriving DecidableEq, Repr

/-- The ranges that brackets list. -/
def ranges : Text → List (Char × Char)
  | low :: '-' :: high :: rest => (low, high) :: ranges rest
  | c :: rest => (c, c) :: ranges rest
  | [] => []

/-- What a text up to the next closing bracket lists, and the rest behind it; the first character
may be a closing bracket itself. -/
def listed? : Text → Option (List (Char × Char) × Text)
  | [] => none
  | first :: rest =>
    if ']' ∈ rest then
      some (ranges (first :: rest.takeWhile (· ≠ ']')), (rest.dropWhile (· ≠ ']')).drop 1)
    else none

/-- The part for brackets behind their opening one, and the rest. -/
def brackets? : Text → Option (Part × Text)
  | '!' :: rest => (listed? rest).map fun r => (.oneOf true r.1, r.2)
  | rest => (listed? rest).map fun r => (.oneOf false r.1, r.2)

/-- The rest behind two stars that make up a whole part of a path. -/
def afterDirectories? (previous : Option Char) (rest : Text) : Option Text :=
  if previous = none ∨ previous = some '/' then
    match rest with
    | [] => some []
    | '/' :: rest => some rest
    | _ => none
  else none

/-- The parts of a pattern, given the character before; the number bounds its length. -/
def parts? : Nat → Option Char → Text → Option (List Part)
  | 0, _, _ => none
  | _ + 1, _, [] => some []
  | fuel + 1, previous, c :: rest =>
    if c = '?' then (parts? fuel (some c) rest).map (.any :: ·)
    else if c = '*' then
      let stars := rest.takeWhile (· = '*')
      let rest := rest.dropWhile (· = '*')
      match stars.length with
      | 0 => (parts? fuel (some c) rest).map (.many :: ·)
      | 1 =>
        (afterDirectories? previous rest).bind fun behind =>
          (parts? fuel (if rest = [] then some '*' else some '/') behind).map (.directories :: ·)
      | _ => none
    else if c = '[' then
      (brackets? rest).bind fun r => (parts? fuel (some ']') r.2).map (r.1 :: ·)
    else (parts? fuel (some c) rest).map (.char c :: ·)

/-- Whether a test holds for some end of a text. -/
def someEnd (test : Text → Bool) : Text → Bool
  | [] => test []
  | c :: rest => test (c :: rest) || someEnd test rest

/-- Whether a test holds for a text, for some end of it behind a slash, or for the empty text. -/
def someDirectory (test : Text → Bool) : Text → Bool
  | [] => test []
  | c :: rest => (c = '/' && test rest) || someDirectory test rest

/-- Whether a text fits the parts of a pattern. -/
def fits : List Part → Text → Bool
  | [], s => s = []
  | .many :: parts, s => someEnd (fits parts) s
  | .directories :: parts, s => fits parts s || someDirectory (fits parts) s
  | _ :: _, [] => false
  | .char x :: parts, c :: rest => x = c && fits parts rest
  | .any :: parts, _ :: rest => fits parts rest
  | .oneOf negated rs :: parts, c :: rest =>
    (rs.any (fun r => r.1 ≤ c && c ≤ r.2) != negated) && fits parts rest

end Glob

/-- A pattern of file names. -/
structure Glob where
  /-- The parts of the pattern. -/
  parts : List Glob.Part
  deriving DecidableEq, Repr

namespace Glob

/-- The pattern that a text states. -/
def parse? (s : Text) : Option Glob :=
  (parts? (s.length + 1) none s).map Glob.mk

/-- Whether a file name fits a pattern. -/
def matches? (g : Glob) (name : Text) : Bool :=
  fits g.parts name

end Glob

end Frontmatter
