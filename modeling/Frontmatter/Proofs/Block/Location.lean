import Frontmatter.Proofs.Block.Interior
import Frontmatter.Proofs.FieldLine

/-! # Where a block stands

A document has a block exactly when its lines are an opening delimiter, lines that are no
delimiters, a closing delimiter, and anything behind it. `locate?_eq_some_iff` says this of the
place that is found, `exists_lines_of_parse?` reads the parts off a block, and `parse?_of_lines`
finds the block of a document that is made of such parts. -/

namespace Frontmatter

namespace BlockSpan

variable {delimiter : Text}

/-- The first line with a property is found behind lines that do not have it. -/
theorem findIdx?_eq_some_iff_append {α : Type} {p : α → Bool} {xs : List α} {i : Nat} :
    xs.findIdx? p = some i
      ↔ ∃ before x after, xs = before ++ x :: after ∧ (∀ y ∈ before, p y = false) ∧ p x = true
          ∧ before.length = i := by
  rw [List.findIdx?_eq_some_iff_getElem]
  constructor
  · rintro ⟨hi, hx, hbefore⟩
    refine ⟨xs.take i, xs[i], xs.drop (i + 1), by simp, ?_, hx,
      List.length_take_of_le (Nat.le_of_lt hi)⟩
    intro y hy
    obtain ⟨j, hj, rfl⟩ := List.mem_take_iff_getElem.mp hy
    simpa using hbefore j (by omega)
  · rintro ⟨before, x, after, rfl, hbefore, hx, rfl⟩
    refine ⟨by simp, by simpa using hx, ?_⟩
    intro j hj
    rw [List.getElem_append_left hj]
    simpa using hbefore _ (List.getElem_mem hj)

/-- A block stands between the first line and the next one that is the delimiter. -/
theorem locate?_eq_some_iff {lines : List Text} {span : BlockSpan} :
    locate? lines delimiter = some span
      ↔ ∃ opening inside closing rest, lines = opening :: (inside ++ closing :: rest)
          ∧ isDelimiter delimiter opening = true
          ∧ (∀ line ∈ inside, isDelimiter delimiter line = false)
          ∧ isDelimiter delimiter closing = true ∧ span = ⟨0, inside.length + 1⟩ := by
  cases lines with
  | nil => simp [locate?]
  | cons first others =>
      rw [locate?]
      constructor
      · intro h
        split at h
        · rename_i hopening
          obtain ⟨i, hi, rfl⟩ := Option.map_eq_some_iff.mp h
          obtain ⟨inside, closing, rest, rfl, hinside, hclosing, rfl⟩ :=
            findIdx?_eq_some_iff_append.mp hi
          exact ⟨first, inside, closing, rest, rfl, hopening, hinside, hclosing, rfl⟩
        · exact absurd h (by simp)
      · -- The lines inside are those before the first delimiter behind the opening one.
        rintro ⟨opening, inside, closing, rest, heq, hopening, hinside, hclosing, rfl⟩
        obtain ⟨rfl, rfl⟩ := List.cons.inj heq
        rw [if_pos hopening, findIdx?_eq_some_iff_append.mpr
          ⟨inside, closing, rest, rfl, hinside, hclosing, rfl⟩]
        rfl

/-- A field line is not the default delimiter. -/
theorem isDelimiter_of_parse? {text : Text} {field : FieldLine}
    (h : FieldLine.parse? text = some field) : isDelimiter defaultDelimiter text = false := by
  rw [isDelimiter, decide_eq_false_iff_not]
  intro htrim
  -- Trimming leaves the colon, which the delimiter does not hold.
  have hcolon : ':' ∈ Text.trim text :=
    Text.mem_trim (FieldLine.colon_mem_of_parse? h) (by decide)
  rw [htrim] at hcolon
  exact absurd hcolon (by decide)

end BlockSpan

namespace Block

variable {source delimiter opening closing : Text} {inside rest : List Text} {b : Block}

/-- A block that is read from a text has the text's lines. -/
theorem lines_of_parse? (h : parse? source delimiter = some b) : b.lines = Text.lines source := by
  obtain ⟨span, -, rfl⟩ := Option.map_eq_some_iff.mp h
  rfl

/-- The lines of a document that has a block. -/
theorem exists_lines_of_parse? (h : parse? source delimiter = some b) :
    ∃ opening closing rest, Text.lines source = opening :: (b.inside ++ closing :: rest)
      ∧ BlockSpan.isDelimiter delimiter opening = true
      ∧ (∀ line ∈ b.inside, BlockSpan.isDelimiter delimiter line = false)
      ∧ BlockSpan.isDelimiter delimiter closing = true
      ∧ b.span = ⟨0, b.inside.length + 1⟩ := by
  obtain ⟨span, hspan, rfl⟩ := Option.map_eq_some_iff.mp h
  obtain ⟨opening, inside, closing, rest, hlines, hopening, hinside, hclosing, rfl⟩ :=
    BlockSpan.locate?_eq_some_iff.mp hspan
  have heq : ((Text.lines source).take (inside.length + 1)).drop (0 + 1) = inside := by
    rw [hlines]
    simp
  simp only [Block.inside, heq]
  exact ⟨opening, closing, rest, hlines, hopening, hinside, hclosing, trivial⟩

/-- A block that is read from a text stands from its first line up to behind the lines inside. -/
theorem span_of_parse? (h : parse? source delimiter = some b) :
    b.span = ⟨0, b.inside.length + 1⟩ := by
  obtain ⟨-, -, -, -, -, -, -, hspan⟩ := exists_lines_of_parse? h
  exact hspan

/-- A document that is made of delimiters with other lines between them has a block. -/
theorem parse?_of_lines (hlines : Text.lines source = opening :: (inside ++ closing :: rest))
    (hopening : BlockSpan.isDelimiter delimiter opening = true)
    (hinside : ∀ line ∈ inside, BlockSpan.isDelimiter delimiter line = false)
    (hclosing : BlockSpan.isDelimiter delimiter closing = true) :
    ∃ b, parse? source delimiter = some b ∧ b.inside = inside
      ∧ b.span = ⟨0, inside.length + 1⟩ := by
  have hspan : BlockSpan.locate? (Text.lines source) delimiter = some ⟨0, inside.length + 1⟩ :=
    BlockSpan.locate?_eq_some_iff.mpr
      ⟨opening, inside, closing, rest, hlines, hopening, hinside, hclosing, rfl⟩
  refine ⟨_, Option.map_eq_some_iff.mpr ⟨_, hspan, rfl⟩, ?_, rfl⟩
  rw [Block.inside, hlines]
  simp

end Block

end Frontmatter
