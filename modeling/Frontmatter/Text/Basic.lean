/-! # Text as a list of characters

Every text the library reads or writes is a list of Unicode scalar values, so that columns are
indices and cutting is `take` and `drop`. This module holds the operations that do not depend on a
character class: splitting at a character, joining, the lines of a document, and containment. -/

namespace Frontmatter

/-- A text is the list of its characters. -/
abbrev Text := List Char

/-- A string literal stands for its characters. -/
instance : Coe String Text := ⟨String.toList⟩

namespace Text

/-! ## Splitting and joining -/

/-- The parts of a text between the occurrences of a separator; there is always at least one. -/
def splitOn (sep : Char) : Text → List Text
  | [] => [[]]
  | c :: rest =>
    if c = sep then [] :: splitOn sep rest
    else
      match splitOn sep rest with
      | [] => [[c]]
      | part :: parts => (c :: part) :: parts

/-- Parts written one after the other with a separator between neighbours. -/
def join (sep : Text) : List Text → Text
  | [] => []
  | [part] => part
  | part :: parts => part ++ sep ++ join sep parts

/-- What stands before and after the first occurrence of a separator, if there is one. -/
def cut (sep : Char) : Text → Option (Text × Text)
  | [] => none
  | c :: rest => if c = sep then some ([], rest) else (cut sep rest).map fun p => (c :: p.1, p.2)

/-- Splitting yields at least one part. -/
theorem splitOn_ne_nil (sep : Char) (s : Text) : splitOn sep s ≠ [] := by
  cases s with
  | nil => simp [splitOn]
  | cons c rest =>
    rw [splitOn]
    split
    · simp
    · split <;> simp

/-- A non-empty list of parts is joined by putting the separator before what follows the first. -/
theorem join_cons_of_ne_nil (sep part : Text) {parts : List Text} (h : parts ≠ []) :
    join sep (part :: parts) = part ++ sep ++ join sep parts := by
  cases parts with
  | nil => exact absurd rfl h
  | cons _ _ => rfl

/-- Joining the parts of a text with their separator gives the text back. -/
theorem join_splitOn (sep : Char) (s : Text) : join [sep] (splitOn sep s) = s := by
  induction s with
  | nil => rfl
  | cons c rest ih =>
    rw [splitOn]
    split
    · rename_i h
      rw [join_cons_of_ne_nil _ _ (splitOn_ne_nil sep rest), ih, h]
      rfl
    · cases hs : splitOn sep rest with
      | nil => exact absurd hs (splitOn_ne_nil sep rest)
      | cons part parts =>
        rw [hs] at ih
        cases parts with
        | nil => simpa [join] using ih
        | cons q qs => simpa [join] using ih

/-! ## Lines -/

/-- A line without the carriage return that belonged to its line ending. -/
def dropReturn (line : Text) : Text :=
  if line.getLast? = some '\r' then line.dropLast else line

/-- Line parts become lines: a carriage return before a line feed is part of the line ending, and
an empty last part is no line. -/
def closeLines : List Text → List Text
  | [] => []
  | [last] => if last = [] then [] else [last]
  | part :: parts => dropReturn part :: closeLines parts

/-- The lines of a text, each without its line ending. -/
def lines (s : Text) : List Text :=
  closeLines (splitOn '\n' s)

/-! ## Containment -/

/-- Whether a text occurs somewhere in another. -/
def occursIn (needle : Text) : Text → Bool
  | [] => needle.isEmpty
  | c :: rest => needle.isPrefixOf (c :: rest) || occursIn needle rest

/-- What remains of a text after a leading part, if it starts with it. -/
def stripStart : Text → Text → Option Text
  | [], s => some s
  | _ :: _, [] => none
  | p :: ps, c :: cs => if p = c then stripStart ps cs else none

/-- A text repeated `n` times. -/
def repeated (n : Nat) (s : Text) : Text :=
  (List.replicate n s).flatten

/-- A text filled up with spaces on the right to a width. -/
def padRight (width : Nat) (s : Text) : Text :=
  s ++ List.replicate (width - s.length) ' '

/-- A text filled up with spaces on the left to a width. -/
def padLeft (width : Nat) (s : Text) : Text :=
  List.replicate (width - s.length) ' ' ++ s

/-- A natural number in decimal digits. -/
def ofNat (n : Nat) : Text :=
  Nat.toDigits 10 n

/-- An integer in decimal digits, with a minus sign when negative. -/
def ofInt : Int → Text
  | .ofNat n => ofNat n
  | .negSucc n => '-' :: ofNat (n + 1)

/-- The small letter of an ASCII capital, and any other character unchanged. -/
def asciiLower (s : Text) : Text :=
  s.map Char.toLower

end Text

end Frontmatter
