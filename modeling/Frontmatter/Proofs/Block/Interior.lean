import Frontmatter.Block.Basic

/-! # The interior of a block

The lines strictly between the delimiters are `Block.inside`; numbered from the first of them they
are `Block.interior`. `fieldsFrom` reads the field lines among consecutive lines, and
`Block.fields_eq` says that it reads the fields of a block. Because it goes line by line, the fields
of lines put one after the other are the fields of each, with the numbers moved on. -/

namespace Frontmatter

/-! ## Field lines among consecutive lines -/

/-- The field lines among consecutive lines, of which the first has a given number. -/
def fieldsFrom : Nat → List Text → List PlacedField
  | _, [] => []
  | n, text :: rest =>
    ((FieldLine.parse? text).map fun field => ⟨n, field⟩).toList ++ fieldsFrom (n + 1) rest

/-- A field line whose number is greater by `d`. -/
def PlacedField.moved (d : Nat) (p : PlacedField) : PlacedField :=
  { p with line := p.line + d }

/-- Only the number of a moved field line changes. -/
@[simp] theorem PlacedField.moved_field (d : Nat) (p : PlacedField) :
    (p.moved d).field = p.field := rfl

/-- No lines have no field lines. -/
@[simp] theorem fieldsFrom_nil (n : Nat) : fieldsFrom n [] = [] := rfl

/-- Field lines after the first line: its own, if it has one, and those of the rest. -/
theorem fieldsFrom_cons (n : Nat) (text : Text) (rest : List Text) :
    fieldsFrom n (text :: rest)
      = ((FieldLine.parse? text).map fun field => ⟨n, field⟩).toList ++ fieldsFrom (n + 1) rest :=
  rfl

/-- The field lines of two runs of lines are those of the first and then those of the second. -/
theorem fieldsFrom_append (n : Nat) (xs ys : List Text) :
    fieldsFrom n (xs ++ ys) = fieldsFrom n xs ++ fieldsFrom (n + xs.length) ys := by
  induction xs generalizing n with
  | nil => rfl
  | cons text rest ih =>
      rw [List.cons_append, fieldsFrom_cons, fieldsFrom_cons, ih (n + 1), List.append_assoc,
        List.length_cons, Nat.add_right_comm, Nat.add_assoc]

/-- Counting from a greater number moves every field line. -/
theorem fieldsFrom_add (n d : Nat) (texts : List Text) :
    fieldsFrom (n + d) texts = (fieldsFrom n texts).map (·.moved d) := by
  induction texts generalizing n with
  | nil => rfl
  | cons text rest ih =>
      rw [fieldsFrom_cons, fieldsFrom_cons, List.map_append, Nat.add_right_comm, ih (n + 1)]
      cases FieldLine.parse? text <;> rfl

/-- The field lines are the lines that are read as such. -/
theorem mem_fieldsFrom {n : Nat} {texts : List Text} {p : PlacedField} :
    p ∈ fieldsFrom n texts
      ↔ ∃ i text, texts[i]? = some text ∧ p.line = n + i
          ∧ FieldLine.parse? text = some p.field := by
  induction texts generalizing n with
  | nil => simp
  | cons first rest ih =>
      rw [fieldsFrom_cons, List.mem_append, ih]
      constructor
      · rintro (h | ⟨i, text, hi, hline, hfield⟩)
        · obtain ⟨field, hfield, rfl⟩ := Option.map_eq_some_iff.mp (Option.mem_toList.mp h)
          exact ⟨0, first, rfl, rfl, hfield⟩
        · exact ⟨i + 1, text, hi, by omega, hfield⟩
      · rintro ⟨i, text, hi, hline, hfield⟩
        cases i with
        | zero =>
            refine .inl (Option.mem_toList.mpr (Option.map_eq_some_iff.mpr ⟨p.field, ?_, ?_⟩))
            · rw [← hfield, Option.some.inj hi]
            · cases p
              simp_all
        | succ i => exact .inr ⟨i, text, hi, by omega, hfield⟩

/-- Field lines start at the first number. -/
theorem le_line_of_mem_fieldsFrom {n : Nat} {texts : List Text} {p : PlacedField}
    (h : p ∈ fieldsFrom n texts) : n ≤ p.line := by
  obtain ⟨i, -, -, hline, -⟩ := mem_fieldsFrom.mp h
  omega

/-- Field lines end before the number after the last line. -/
theorem line_lt_of_mem_fieldsFrom {n : Nat} {texts : List Text} {p : PlacedField}
    (h : p ∈ fieldsFrom n texts) : p.line < n + texts.length := by
  obtain ⟨i, text, hi, hline, -⟩ := mem_fieldsFrom.mp h
  have hlt := (List.getElem?_eq_some_iff.mp hi).1
  omega

/-- Field lines come in the order of their numbers, each once. -/
theorem pairwise_fieldsFrom (n : Nat) (texts : List Text) :
    (fieldsFrom n texts).Pairwise (·.line < ·.line) := by
  induction texts generalizing n with
  | nil => exact .nil
  | cons first rest ih =>
      rw [fieldsFrom_cons, List.pairwise_append]
      refine ⟨?_, ih (n + 1), ?_⟩
      · cases FieldLine.parse? first <;> simp
      · intro p hp q hq
        obtain ⟨field, -, rfl⟩ := Option.map_eq_some_iff.mp (Option.mem_toList.mp hp)
        exact le_line_of_mem_fieldsFrom hq

/-! ## The lines of the interior -/

/-- A line stands between the delimiters if it is below the first and above the last of them. -/
theorem BlockSpan.contains_iff {span : BlockSpan} {n : Nat} :
    span.contains n = true ↔ span.first < n ∧ n < span.last := by
  rw [contains, Bool.and_eq_true, decide_eq_true_eq, decide_eq_true_eq]

/-- The lines between the delimiters, with their numbers, in terms of the lines alone. -/
theorem BlockSpan.interior_eq (span : BlockSpan) (lines : List Text) :
    span.interior lines
      = (((lines.take span.last).drop (span.first + 1)).zipIdx (span.first + 1)).map
          fun p => (p.2, p.1) := by
  rw [interior]
  congr 1
  -- Cutting and numbering lines commute.
  apply List.ext_getElem?
  intro i
  simp only [List.getElem?_drop, List.getElem?_take, List.getElem?_zipIdx]
  by_cases h : span.first + 1 + i < span.last <;> simp [h]

namespace Block

/-- The lines between the delimiters. -/
def inside (b : Block) : List Text :=
  (b.lines.take b.span.last).drop (b.span.first + 1)

/-- The text of a line between the delimiters. -/
def interiorText? (b : Block) (n : Nat) : Option Text :=
  if b.span.contains n then b.lines[n]? else none

/-- A line has a text between the delimiters if it stands there. -/
theorem interiorText?_eq_some_iff {b : Block} {n : Nat} {text : Text} :
    b.interiorText? n = some text ↔ b.span.contains n = true ∧ b.lines[n]? = some text := by
  rw [interiorText?]
  split <;> simp_all

/-- A line between the delimiters stands below the first of them. -/
theorem first_lt_of_interiorText? {b : Block} {n : Nat} {text : Text}
    (h : b.interiorText? n = some text) : b.span.first < n :=
  (BlockSpan.contains_iff.mp (interiorText?_eq_some_iff.mp h).1).1

/-- A line between the delimiters stands above the last of them. -/
theorem lt_last_of_interiorText? {b : Block} {n : Nat} {text : Text}
    (h : b.interiorText? n = some text) : n < b.span.last :=
  (BlockSpan.contains_iff.mp (interiorText?_eq_some_iff.mp h).1).2

/-- The lines between the delimiters are counted from the one after the first delimiter. -/
theorem inside_getElem? (b : Block) (i : Nat) :
    b.inside[i]? = b.interiorText? (b.span.first + 1 + i) := by
  rw [inside, interiorText?, List.getElem?_drop, List.getElem?_take, BlockSpan.contains]
  have h : b.span.first < b.span.first + 1 + i := by omega
  simp [h]

/-- The lines inside the block below one of them. -/
theorem getElem?_drop_inside {b : Block} {n : Nat} (hfirst : b.span.first < n) (i : Nat) :
    (b.inside.drop (n - b.span.first))[i]? = b.interiorText? (n + 1 + i) := by
  rw [List.getElem?_drop, inside_getElem?]
  congr 1
  omega

/-- The numbered lines of the interior are the lines between the delimiters. -/
theorem mem_interior {b : Block} {n : Nat} {text : Text} :
    (n, text) ∈ b.interior ↔ b.interiorText? n = some text := by
  rw [interior, BlockSpan.interior_eq, ← inside, List.mem_map]
  constructor
  · rintro ⟨⟨text', m⟩, hmem, heq⟩
    obtain ⟨rfl, rfl⟩ := Prod.mk.inj heq
    obtain ⟨hle, hget⟩ := List.mk_mem_zipIdx_iff_le_and_getElem?_sub.mp hmem
    rw [← hget, inside_getElem?, Nat.add_sub_cancel' hle]
  · intro h
    have hle := first_lt_of_interiorText? h
    refine ⟨(text, n), List.mk_mem_zipIdx_iff_le_and_getElem?_sub.mpr ⟨hle, ?_⟩, rfl⟩
    rw [inside_getElem?, Nat.add_sub_cancel' hle, h]

/-- Looking for a line's number among the numbered lines finds its text. -/
theorem find?_interior (b : Block) (n : Nat) :
    b.interior.find? (·.1 = n) = (b.interiorText? n).map fun text => (n, text) := by
  cases hf : b.interior.find? (·.1 = n) with
  | none =>
      cases ht : b.interiorText? n with
      | none => rfl
      | some text =>
          have hnot := List.find?_eq_none.mp hf (n, text) (mem_interior.mpr ht)
          simp at hnot
  | some p =>
      obtain ⟨m, text⟩ := p
      obtain rfl : m = n := by simpa using List.find?_some hf
      rw [mem_interior.mp (List.mem_of_find?_eq_some hf), Option.map_some]

/-- The fields of a block are the field lines between the delimiters. -/
theorem fields_eq (b : Block) : b.fields = fieldsFrom (b.span.first + 1) b.inside := by
  rw [fields, interior, BlockSpan.interior_eq, ← inside]
  generalize b.span.first + 1 = n
  induction b.inside generalizing n with
  | nil => rfl
  | cons text rest ih =>
      rw [List.zipIdx_cons, List.map_cons, fieldsFrom_cons, ← ih (n + 1)]
      cases h : FieldLine.parse? text <;> simp [h]

/-- The fields of a block are the lines between the delimiters that are read as field lines. -/
theorem mem_fields {b : Block} {p : PlacedField} :
    p ∈ b.fields
      ↔ ∃ text, b.interiorText? p.line = some text ∧ FieldLine.parse? text = some p.field := by
  rw [fields_eq, mem_fieldsFrom]
  constructor
  · rintro ⟨i, text, hi, hline, hfield⟩
    exact ⟨text, by rw [hline, ← inside_getElem?, hi], hfield⟩
  · rintro ⟨text, htext, hfield⟩
    have hle := first_lt_of_interiorText? htext
    refine ⟨p.line - (b.span.first + 1), text, ?_, (Nat.add_sub_cancel' hle).symm, hfield⟩
    rw [inside_getElem?, Nat.add_sub_cancel' hle, htext]

/-- The fields of a block come in the order of their lines, each line once. -/
theorem pairwise_fields (b : Block) : b.fields.Pairwise (·.line < ·.line) := by
  rw [fields_eq]
  exact pairwise_fieldsFrom _ _

end Block

end Frontmatter
