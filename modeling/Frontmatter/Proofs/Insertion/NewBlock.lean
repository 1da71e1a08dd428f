import Frontmatter.Proofs.Insertion.Placement

/-! # The block after an insertion

A document in which keys are inserted at a context still has its block. Its fields are those above
the inserted keys, the keys themselves, and those below, moved down by the lines that came in. This
is `exists_block_of_ofKeys?`. What stands above the inserted keys still leads to the context's path,
which is `Block.Resolution.ascend_path`. -/

namespace Frontmatter

namespace Block

variable {source delimiter text : Text} {b : Block} {n k column : Nat} {c : Context}

/-! ## Above and below a line -/

/-- The interior fields below a line. -/
def fieldsBelow (b : Block) (n : Nat) : List PlacedField :=
  b.fields.filter (n < ·.line)

/-- The fields below a line are those with greater numbers. -/
theorem mem_fieldsBelow {p : PlacedField} : p ∈ b.fieldsBelow n ↔ p ∈ b.fields ∧ n < p.line := by
  rw [fieldsBelow, List.mem_filter, decide_eq_true_eq]

/-- The fields of a block are those above a line, that line included, and those below it. -/
theorem fields_eq_above_below (b : Block) (n : Nat) :
    b.fields = (b.fieldsAbove (n + 1)).reverse ++ b.fieldsBelow n :=
  b.fields_eq_fieldsAbove_append (n + 1)

/-- The fields of a block that opens on the first line, split behind some lines of the interior. -/
theorem fields_eq_take_append_drop (hfirst : b.span.first = 0) (hk : k ≤ b.inside.length) :
    b.fields = fieldsFrom 1 (b.inside.take k) ++ fieldsFrom (k + 1) (b.inside.drop k) := by
  have happend := fieldsFrom_append 1 (b.inside.take k) (b.inside.drop k)
  rw [List.take_append_drop, List.length_take_of_le hk, Nat.add_comm 1 k] at happend
  rw [fields_eq, hfirst]
  exact happend

/-- The fields among the first lines of the interior are those above the next line. -/
theorem reverse_fieldsAbove (hfirst : b.span.first = 0) (hk : k ≤ b.inside.length) :
    (b.fieldsAbove (k + 1)).reverse = fieldsFrom 1 (b.inside.take k) := by
  rw [fieldsAbove_eq (fields_eq_take_append_drop hfirst hk), List.reverse_reverse]
  · intro p hp
    have hlt := line_lt_of_mem_fieldsFrom hp
    rw [List.length_take_of_le hk] at hlt
    omega
  · exact fun p hp => le_line_of_mem_fieldsFrom hp

/-- The fields among the last lines of the interior are those below the line before. -/
theorem fieldsBelow_eq (hfirst : b.span.first = 0) (hk : k ≤ b.inside.length) :
    b.fieldsBelow k = fieldsFrom (k + 1) (b.inside.drop k) := by
  have hsplit := b.fields_eq_above_below k
  rw [reverse_fieldsAbove hfirst hk, fields_eq_take_append_drop hfirst hk] at hsplit
  exact (List.append_cancel_left hsplit).symm

namespace Resolution

/-- A resolved cursor stands on a line of the interior. -/
theorem line_pos (h : b.Resolution n column text c) : 0 < n :=
  Nat.zero_lt_of_lt (first_lt_of_interiorText? h.text_eq)

/-- A resolved cursor stands at most on the last line of the interior. -/
theorem line_lt (h : b.Resolution n column text c) : n < b.span.last :=
  lt_last_of_interiorText? h.text_eq

/-- There are as many lines inside as the number of the cursor's line, at least. -/
theorem line_le_length (h : b.Resolution n column text c) (hb : parse? source delimiter = some b) :
    n ≤ b.inside.length := by
  have hlt := h.line_lt
  rw [span_of_parse? hb] at hlt
  exact Nat.le_of_lt_succ hlt

/-- Keys are inserted on the line of the cursor or on the next one. -/
theorem exists_insertionLine_eq (h : b.Resolution n column text c) :
    ∃ k, c.insertionLine = k + 1 ∧ k ≤ n ∧ n ≤ k + 1 := by
  rw [Context.insertionLine, h.line_eq]
  cases c.kind with
  | field => exact ⟨n, rfl, Nat.le_refl n, Nat.le_succ n⟩
  | placeholder =>
      obtain ⟨k, rfl⟩ := Nat.exists_eq_succ_of_ne_zero (Nat.ne_of_gt h.line_pos)
      exact ⟨k, rfl, Nat.le_succ k, Nat.le_refl _⟩

/-- The fields of a block are those above the line where keys are inserted, and those below the
line of the cursor. -/
theorem fields_eq_above_below (h : b.Resolution n column text c) :
    b.fields = (b.fieldsAbove c.insertionLine).reverse ++ b.fieldsBelow c.line := by
  rw [Context.insertionLine, h.line_eq, h.kind_eq]
  cases hparse : FieldLine.parse? text with
  | some field => exact b.fields_eq_above_below n
  | none =>
      have hbelow : b.fieldsBelow n = b.fields.filter (n ≤ ·.line) := by
        refine List.filter_congr fun p hp => decide_eq_decide.mpr ⟨Nat.le_of_lt, fun hle => ?_⟩
        refine Nat.lt_of_le_of_ne hle ?_
        -- The line of the cursor holds no field.
        rintro rfl
        obtain ⟨text', htext, hfield⟩ := mem_fields.mp hp
        obtain rfl : text = text' := Option.some.inj (h.text_eq ▸ htext)
        exact absurd hfield (by simp [hparse])
      rw [hbelow]
      exact b.fields_eq_fieldsAbove_append n

/-- Keys that are inserted at a field come right below it. -/
theorem fieldsAbove_of_field {field : FieldLine} (h : b.Resolution n column text c)
    (hparse : FieldLine.parse? text = some field) :
    b.fieldsAbove c.insertionLine = ⟨n, field⟩ :: b.fieldsAbove n := by
  rw [Context.insertionLine, h.line_eq, h.kind_eq, hparse]
  have hp : (⟨n, field⟩ : PlacedField) ∈ b.fields := mem_fields.mpr ⟨text, h.text_eq, hparse⟩
  exact fieldsAbove_succ hp

/-- Going upwards from where keys are inserted, at the indentation of the context, leads to the
context's path. -/
theorem ascend_path (h : b.Resolution n column text c) :
    chainPath? (ascend (some c.indent) (b.fieldsAbove c.insertionLine)) = some c.path := by
  rw [← h.path_eq, h.indent_eq]
  cases hparse : FieldLine.parse? text with
  | none =>
      rw [chain_of_parse?_eq_none hparse, Context.insertionLine, h.line_eq, h.kind_eq, hparse]
      rfl
  | some field =>
      rw [chain_of_parse? hparse, ← FieldLine.indent_of_parse? hparse,
        h.fieldsAbove_of_field hparse, ascend_cons, if_pos rfl]

end Resolution

end Block

namespace Insertion

/-- The number of lines by which keys that are inserted at a context move the lines below it. -/
def growth (c : Context) (keys : List Text) : Nat :=
  c.insertionLine + keys.length - (c.line + 1)

/-- The field lines of inserted keys. -/
def keyFields (c : Context) (keys : List Text) : List PlacedField :=
  fieldsFrom c.insertionLine (keys.map (keyLine (c.indent + 2)))

/-- The lines after an insertion are those of a document with a block: the keys stand between lines
of the interior. -/
theorem insertedLines_eq {c : Context} {keys inside rest : List Text} {opening closing : Text}
    {k : Nat} (hm : c.insertionLine = k + 1) (hk : k ≤ inside.length)
    (hn : c.line ≤ inside.length) :
    insertedLines c keys (opening :: (inside ++ closing :: rest))
      = opening :: ((inside.take k ++ keys.map (keyLine (c.indent + 2)) ++ inside.drop c.line)
          ++ closing :: rest) := by
  rw [insertedLines, hm, List.take_succ_cons, List.drop_succ_cons, List.take_append_of_le_length hk,
    List.drop_append_of_le_length hn]
  simp only [List.cons_append, List.append_assoc]

/-- Keys can be inserted at every context of a block. The document has its block afterwards: the
keys stand between lines of the interior. -/
theorem exists_inside_of_ofKeys? {source delimiter : Text} {b : Block} {n column : Nat}
    {c : Context} {keys : List Text} (hb : Block.parse? source delimiter = some b)
    (hc : b.resolve? n column = some c)
    (hreturn : ∀ l ∈ Text.lines source, l.getLast? ≠ some '\r') (hne : keys ≠ [])
    (hkeys : ∀ k ∈ keys, IsKey k) (hdelimiter : ∀ k ∈ keys, k ++ [':'] ≠ delimiter) :
    ∃ i new b', ofKeys? c keys true = some i ∧ i.applied? source = some new
      ∧ Text.lines new = insertedLines c keys (Text.lines source)
      ∧ Block.parse? new delimiter = some b'
      ∧ b'.inside = b.inside.take (c.insertionLine - 1)
          ++ keys.map (keyLine (c.indent + 2)) ++ b.inside.drop c.line := by
  obtain ⟨text, hres⟩ := Block.resolution_of_resolve? hc
  obtain ⟨opening, closing, rest, hlines, hopening, hinside, hclosing, -⟩ :=
    Block.exists_lines_of_parse? hb
  obtain ⟨k, hm, hkn, -⟩ := hres.exists_insertionLine_eq
  have hn := hres.line_le_length hb
  obtain ⟨i, hi⟩ : ∃ i, ofKeys? c keys true = some i := by
    rw [ofKeys?, List.getLast?_eq_some_getLast hne]
    exact ⟨_, rfl⟩
  have hline : (Text.lines source)[c.line]? = some text := by
    rw [← Block.lines_of_parse? hb, hres.line_eq]
    exact (Block.interiorText?_eq_some_iff.mp hres.text_eq).2
  have hlast : c.line + 1 < (Text.lines source).length := by
    rw [hlines, hres.line_eq, List.length_cons, List.length_append, List.length_cons]
    omega
  obtain ⟨new, hnew, hnewlines⟩ := exists_applied?_of_ofKeys? hi (fun k hk => (hkeys k hk).2.2.1)
    hline hres.lineLength_eq hreturn hlast
  have hparts := hnewlines
  rw [hlines, insertedLines_eq hm (Nat.le_trans hkn hn) (by rw [hres.line_eq]; exact hn)] at hparts
  -- None of the lines between the delimiters is a delimiter, so the block ends where it did.
  have hnone : ∀ line ∈ b.inside.take k ++ keys.map (keyLine (c.indent + 2))
      ++ b.inside.drop c.line, BlockSpan.isDelimiter delimiter line = false := by
    intro line hmem
    rw [List.mem_append, List.mem_append, List.mem_map] at hmem
    rcases hmem with (hmem | ⟨key, hkey, rfl⟩) | hmem
    · exact hinside line (List.mem_of_mem_take hmem)
    · exact isDelimiter_keyLine (hkeys key hkey) (hdelimiter key hkey)
    · exact hinside line (List.mem_of_mem_drop hmem)
  obtain ⟨b', hb', hinside', -⟩ := Block.parse?_of_lines hparts hopening hnone hclosing
  exact ⟨i, new, b', hi, hnew, hnewlines, hb', by rw [hinside', hm, Nat.add_sub_cancel]⟩

/-- The fields of a block in which keys stand between lines of the interior. -/
theorem fields_of_inside {source new delimiter text : Text} {b b' : Block} {n column : Nat}
    {c : Context} {keys : List Text} (hb : Block.parse? source delimiter = some b)
    (hb' : Block.parse? new delimiter = some b') (hres : b.Resolution n column text c)
    (hne : keys ≠ [])
    (hinside : b'.inside = b.inside.take (c.insertionLine - 1)
      ++ keys.map (keyLine (c.indent + 2)) ++ b.inside.drop c.line) :
    b'.fields = (b.fieldsAbove c.insertionLine).reverse ++ keyFields c keys
      ++ (b.fieldsBelow c.line).map (·.moved (growth c keys)) := by
  obtain ⟨k, hm, hkn, hnk⟩ := hres.exists_insertionLine_eq
  have hn := hres.line_le_length hb
  have hk : k ≤ b.inside.length := Nat.le_trans hkn hn
  have hfirst : b.span.first = 0 := by rw [Block.span_of_parse? hb]
  have hfirst' : b'.span.first = 0 := by rw [Block.span_of_parse? hb']
  have hlength : (b.inside.take k ++ keys.map (keyLine (c.indent + 2))).length
      = k + keys.length := by
    rw [List.length_append, List.length_map, List.length_take_of_le hk]
  -- The lines below the cursor are counted on from those of the keys.
  have hcount : 0 + 1 + (k + keys.length) = n + 1 + growth c keys := by
    have hpos := List.length_pos_iff.mpr hne
    rw [growth, hm, hres.line_eq]
    omega
  have hbelow : (b.fieldsBelow c.line).map (·.moved (growth c keys))
      = fieldsFrom (0 + 1 + (k + keys.length)) (b.inside.drop c.line) := by
    rw [hcount, fieldsFrom_add (n + 1), hres.line_eq, Block.fieldsBelow_eq hfirst hn]
  rw [Block.fields_eq, hfirst', hinside, hm, Nat.add_sub_cancel, fieldsFrom_append,
    fieldsFrom_append, hlength, hbelow, List.length_take_of_le hk, keyFields, hm,
    Block.reverse_fieldsAbove hfirst hk, Nat.zero_add, Nat.add_comm 1 k]

/-- Keys can be inserted at every context of a block. The document has its block afterwards, with
the fields above the keys, the keys, and the fields below, moved down. -/
theorem exists_block_of_ofKeys? {source delimiter : Text} {b : Block} {n column : Nat} {c : Context}
    {keys : List Text} (hb : Block.parse? source delimiter = some b)
    (hc : b.resolve? n column = some c)
    (hreturn : ∀ l ∈ Text.lines source, l.getLast? ≠ some '\r') (hne : keys ≠ [])
    (hkeys : ∀ k ∈ keys, IsKey k) (hdelimiter : ∀ k ∈ keys, k ++ [':'] ≠ delimiter) :
    ∃ i new b', ofKeys? c keys true = some i ∧ i.applied? source = some new
      ∧ Text.lines new = insertedLines c keys (Text.lines source)
      ∧ Block.parse? new delimiter = some b'
      ∧ b'.fields = (b.fieldsAbove c.insertionLine).reverse ++ keyFields c keys
          ++ (b.fieldsBelow c.line).map (·.moved (growth c keys)) := by
  obtain ⟨text, hres⟩ := Block.resolution_of_resolve? hc
  obtain ⟨i, new, b', hi, hnew, hlines, hb', hinside⟩ :=
    exists_inside_of_ofKeys? hb hc hreturn hne hkeys hdelimiter
  exact ⟨i, new, b', hi, hnew, hlines, hb', fields_of_inside hb hb' hres hne hinside⟩

end Insertion

end Frontmatter
