import Frontmatter.Proofs.Children
import Frontmatter.Proofs.Insertion.Frame

/-! # Inserted keys as children

Keys that are inserted below a field become its first children. The scan for its children meets
their lines before those that were there (`Insertion.scanChildKeys_keyLines`), and a cursor on the
field's line has the same path and the same query as before. Both are told by
`Insertion.exists_block_of_field`, which also keeps what another insertion needs. -/

namespace Frontmatter

namespace Block

variable {source delimiter text : Text} {b b' : Block} {n : Nat} {p : PlacedField}

/-- The text of a field's line tells the query that a cursor on the line has. -/
theorem query_of_mem_fields {column : Nat} {c : Context} (hc : b.resolve? n column = some c)
    (htext : b.interiorText? n = some text) {field : FieldLine}
    (hparse : FieldLine.parse? text = some field) :
    c.query = Text.trim (slice text field.valueColumn (min column text.length)) := by
  obtain ⟨text', hres⟩ := resolution_of_resolve? hc
  obtain rfl : text = text' := Option.some.inj (htext.symm.trans hres.text_eq)
  rw [hres.query_eq, hres.queryStart_eq, hres.column_eq, hparse]
  rfl

end Block

namespace Insertion

variable {source delimiter : Text} {b : Block} {column : Nat} {c : Context} {keys : List Text}
  {p : PlacedField}

/-- The scan for children finds the keys whose lines come first. -/
theorem scanChildKeys_keyLines {parent : Nat} (hkeys : ∀ k ∈ keys, IsKey k) (rest : List Text) :
    scanChildKeys parent (keys.map (keyLine (parent + 2)) ++ rest)
      = keys ++ scanChildKeys parent rest := by
  induction keys with
  | nil => rfl
  | cons key keys ih =>
      obtain ⟨hkey, hkeys⟩ := List.forall_mem_cons.mp hkeys
      -- The line of a key is one step deeper than the parent.
      have hdeep : ¬ parent + 2 ≤ parent := by omega
      rw [List.map_cons, List.cons_append, scanChildKeys_cons_of_parse? (parse?_keyLine hkey),
        if_neg hdeep, ih hkeys, List.cons_append]
      exact if_pos rfl

variable {b' : Block} {text : Text} {field : FieldLine} {new : Text} {n : Nat}

/-- Keys that are inserted at a field stand behind its line. -/
theorem inside_of_field (hres : b.Resolution n column text c)
    (hparse : FieldLine.parse? text = some field)
    (hinside : b'.inside = b.inside.take (c.insertionLine - 1)
      ++ keys.map (keyLine (c.indent + 2)) ++ b.inside.drop c.line) :
    b'.inside = b.inside.take n
      ++ (keys.map (keyLine (Text.indentation text + 2)) ++ b.inside.drop n) := by
  have hline : c.insertionLine = n + 1 := by
    rw [Context.insertionLine, hres.kind_eq, hparse, hres.line_eq]
    rfl
  rw [hinside, hline, Nat.add_sub_cancel, hres.indent_eq, hres.line_eq, List.append_assoc]

/-- The field's line stays where it is. -/
theorem interiorText?_of_field (hb : Block.parse? source delimiter = some b)
    (hb' : Block.parse? new delimiter = some b') (hres : b.Resolution n column text c)
    {others : List Text} (hinside : b'.inside = b.inside.take n ++ others) :
    b'.interiorText? n = some text := by
  -- Counted from the first line inside, it is the last one in front of the keys.
  obtain ⟨m, rfl⟩ := Nat.exists_eq_succ_of_ne_zero (Nat.ne_of_gt hres.line_pos)
  have hm : m + 1 ≤ b.inside.length := hres.line_le_length hb
  have hget := b.inside_getElem? m
  have hget' := b'.inside_getElem? m
  rw [Block.span_of_parse? hb, Nat.zero_add, Nat.add_comm 1 m, hres.text_eq] at hget
  rw [Block.span_of_parse? hb', Nat.zero_add, Nat.add_comm 1 m] at hget'
  rw [← hget', hinside, List.getElem?_append_left (by rw [List.length_take_of_le hm]; omega),
    List.getElem?_take_of_lt (Nat.lt_succ_self m), hget]

/-- The scan for the children of the field finds the keys, and then what it found before. -/
theorem scannedKeys_of_field (hb : Block.parse? source delimiter = some b)
    (hb' : Block.parse? new delimiter = some b') (hres : b.Resolution n column text c)
    (hkeys : ∀ k ∈ keys, IsKey k)
    (hinside : b'.inside = b.inside.take n
      ++ (keys.map (keyLine (Text.indentation text + 2)) ++ b.inside.drop n)) :
    b'.scannedKeys n = keys ++ b.scannedKeys n := by
  have hfirst : b.span.first = 0 := by rw [Block.span_of_parse? hb]
  have hfirst' : b'.span.first = 0 := by rw [Block.span_of_parse? hb']
  have hlength : (b.inside.take n).length = n :=
    List.length_take_of_le (hres.line_le_length hb)
  rw [Block.scannedKeys_eq hres.text_eq, hfirst,
    Block.scannedKeys_eq (interiorText?_of_field hb hb' hres hinside), hfirst', Nat.sub_zero,
    hinside, List.drop_left' hlength, scanChildKeys_keyLines hkeys]

/-- Keys can be inserted below a field. They are its first children afterwards, and a cursor on the
field's line has the same path and the same query as before. -/
theorem exists_block_of_field (hb : Block.parse? source delimiter = some b) (hp : p ∈ b.fields)
    (hc : b.resolve? p.line column = some c)
    (hreturn : ∀ l ∈ Text.lines source, l.getLast? ≠ some '\r') (hne : keys ≠ [])
    (hkeys : ∀ k ∈ keys, IsKey k) (hdelimiter : ∀ k ∈ keys, k ++ [':'] ≠ delimiter) :
    ∃ i new b', ofKeys? c keys true = some i ∧ i.applied? source = some new
      ∧ (∀ l ∈ Text.lines new, l.getLast? ≠ some '\r')
      ∧ Block.parse? new delimiter = some b' ∧ p ∈ b'.fields
      ∧ b'.scannedKeys p.line = keys ++ b.scannedKeys p.line
      ∧ ∃ c', b'.resolve? p.line column = some c' ∧ c'.path = c.path ∧ c'.query = c.query := by
  obtain ⟨text, htext, hparse⟩ := Block.mem_fields.mp hp
  obtain ⟨text', hres⟩ := Block.resolution_of_resolve? hc
  obtain rfl : text = text' := Option.some.inj (htext.symm.trans hres.text_eq)
  obtain ⟨i, new, b', hi, hnew, hlines, hb', hinside⟩ :=
    exists_inside_of_ofKeys? hb hc hreturn hne hkeys hdelimiter
  have hfields := fields_of_inside hb hb' hres hne hinside
  have hstays := inside_of_field hres hparse hinside
  have hend : ∀ l ∈ Text.lines new, l.getLast? ≠ some '\r' := by
    intro l hl
    rw [hlines] at hl
    rcases mem_insertedLines hl with hl | ⟨k, -, rfl⟩
    · exact hreturn l hl
    · -- The line of a key ends in a space.
      rw [getLast?_keyLine]
      decide
  have habove : p ∈ b.fieldsAbove c.insertionLine := by
    rw [hres.fieldsAbove_of_field hparse]
    exact List.mem_cons_self
  rw [List.append_assoc] at hfields
  obtain ⟨hp', hpath⟩ := pathOf_above hfields habove
  -- The field stands on its line in both blocks, and its path is read off what is above.
  obtain ⟨c', hc', -, -, hcpath'⟩ := Block.exists_resolve?_of_mem_fields hp' column
  obtain ⟨d, hd, -, -, hcpath⟩ := Block.exists_resolve?_of_mem_fields hp column
  obtain rfl : c = d := Option.some.inj (hc.symm.trans hd)
  refine ⟨i, new, b', hi, hnew, hend, hb', hp', scannedKeys_of_field hb hb' hres hkeys hstays,
    c', hc', ?_, ?_⟩
  · rw [hcpath', hpath, hcpath]
  · rw [Block.query_of_mem_fields hc htext hparse, Block.query_of_mem_fields hc'
      (interiorText?_of_field hb hb' hres hstays) hparse]

end Insertion

end Frontmatter
