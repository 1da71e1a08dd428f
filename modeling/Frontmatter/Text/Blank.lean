import Frontmatter.Text.Basic

/-! # White space

The characters with the Unicode property White_Space, and what the library does with them: trimming
a text and measuring its indentation. -/

namespace Frontmatter

namespace Text

/-- The character ranges with the property White_Space. -/
def blankRanges : List (Nat × Nat) :=
  [(0x09, 0x0d), (0x20, 0x20), (0x85, 0x85), (0xa0, 0xa0), (0x1680, 0x1680), (0x2000, 0x200a),
   (0x2028, 0x2029), (0x202f, 0x202f), (0x205f, 0x205f), (0x3000, 0x3000)]

/-- Whether a code point lies in one of a list of ranges. -/
def inRanges (ranges : List (Nat × Nat)) (n : Nat) : Bool :=
  ranges.any fun r => r.1 ≤ n && n ≤ r.2

/-- Whether a character is white space. -/
def isBlank (c : Char) : Bool :=
  inRanges blankRanges c.toNat

/-- A text without its leading white space. -/
def trimStart (s : Text) : Text :=
  s.dropWhile isBlank

/-- A text without its trailing white space. -/
def trimEnd (s : Text) : Text :=
  (s.reverse.dropWhile isBlank).reverse

/-- A text without leading and trailing white space. -/
def trim (s : Text) : Text :=
  trimEnd (trimStart s)

/-- The number of white space characters a line starts with; a tab counts as one. -/
def indentation (line : Text) : Nat :=
  (line.takeWhile isBlank).length

/-- Whether a text holds nothing but white space. -/
def isBlankLine (line : Text) : Bool :=
  line.all isBlank

end Text

end Frontmatter
