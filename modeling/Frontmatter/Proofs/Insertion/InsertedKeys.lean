import Frontmatter.Proofs.Insertion.NewBlock

/-! # The paths of inserted keys

Inserted keys are children of the context that they are inserted at. Going upwards from one of them
passes over those inserted before it, which are indented alike, and then goes on where the context's
own chain starts. `inserted_keys_resolve` follows the edit from the cursor that asked for it to the
cursor that it leaves behind. -/

namespace Frontmatter

namespace Insertion

variable {c : Context} {keys before after : List Text} {key : Text}

/-- The field line of a key that is inserted at a context behind a number of others. -/
def keyField (c : Context) (count : Nat) (key : Text) : PlacedField :=
  ⟨c.insertionLine + count, ⟨c.indent + 2, key, [], c.indent + 2 + key.length + 2⟩⟩

/-- The field lines of inserted keys are indented one step below the context. -/
theorem indent_of_mem_keyFields (hkeys : ∀ k ∈ keys, IsKey k) {p : PlacedField}
    (hp : p ∈ keyFields c keys) : p.field.indent = c.indent + 2 := by
  obtain ⟨j, text, htext, -, hfield⟩ := mem_fieldsFrom.mp hp
  obtain ⟨k, hk, rfl⟩ := List.mem_map.mp (List.mem_of_getElem? htext)
  rw [parse?_keyLine (hkeys k hk)] at hfield
  rw [← Option.some.inj hfield]

/-- The field lines of inserted keys, split at one of the keys. -/
theorem keyFields_append_cons (hkeys : ∀ k ∈ before ++ key :: after, IsKey k) :
    keyFields c (before ++ key :: after)
      = keyFields c before ++ keyField c before.length key
          :: fieldsFrom (c.insertionLine + before.length + 1)
              (after.map (keyLine (c.indent + 2))) := by
  rw [keyFields, List.map_append, fieldsFrom_append, List.map_cons, fieldsFrom_cons,
    parse?_keyLine (hkeys key (by simp)), List.length_map]
  rfl

/-- Going upwards over inserted keys leads to the context's indentation. -/
theorem ascend_keyFields {v : Nat} (hkeys : ∀ k ∈ keys, IsKey k) (hv : v ≠ c.indent + 2)
    (above : List PlacedField) :
    ascend (some v) ((keyFields c keys).reverse ++ above) = ascend (some v) above := by
  apply ascend_append_of_forall_ne
  intro p hp
  rw [indent_of_mem_keyFields hkeys (List.mem_reverse.mp hp)]
  exact Ne.symm hv

/-- The lineage of an inserted key has the path of a child of the context. -/
theorem chainPath_keyField {above : List PlacedField} (hkeys : ∀ k ∈ before, IsKey k)
    (hpath : chainPath? (ascend (some c.indent) above) = some c.path) :
    chainPath (lineage ((keyFields c before).reverse ++ above) (keyField c before.length key))
      = c.path.child key := by
  rw [lineage, chainPath_cons]
  show keyPath key (ascend (some c.indent) _) = _
  rw [ascend_keyFields hkeys (by omega), keyPath, hpath]

/-- An inserted key is a child of the context that it is inserted at. -/
theorem pathOf_keyField {b' : Block} {above below : List PlacedField}
    (hfields : b'.fields = above.reverse ++ keyFields c (before ++ key :: after) ++ below)
    (hpath : chainPath? (ascend (some c.indent) above) = some c.path)
    (hkeys : ∀ k ∈ before ++ key :: after, IsKey k) :
    keyField c before.length key ∈ b'.fields
      ∧ b'.pathOf (keyField c before.length key) = c.path.child key := by
  rw [keyFields_append_cons hkeys, ← List.append_assoc, List.append_assoc _ _ below,
    List.cons_append] at hfields
  refine ⟨by rw [hfields]; simp, ?_⟩
  rw [Block.pathOf, Block.fieldsAbove_line hfields, List.reverse_append, List.reverse_reverse]
  exact chainPath_keyField (fun k hk => hkeys k (List.mem_append_left _ hk)) hpath

/-- Keys are inserted within the document. -/
theorem insertionLine_le_length {source delimiter text : Text} {b : Block} {n column : Nat}
    (hb : Block.parse? source delimiter = some b) (hres : b.Resolution n column text c) :
    c.insertionLine ≤ (Text.lines source).length := by
  obtain ⟨k, hm, hkn, -⟩ := hres.exists_insertionLine_eq
  have hget := (Block.interiorText?_eq_some_iff.mp hres.text_eq).2
  have hlt := (List.getElem?_eq_some_iff.mp hget).1
  rw [Block.lines_of_parse? hb] at hlt
  omega

/-- The line of an inserted key among the lines of the document. -/
theorem insertedLines_getElem? {lines : List Text} (h : c.insertionLine ≤ lines.length) :
    (insertedLines c (before ++ key :: after) lines)[c.insertionLine + before.length]?
      = some (keyLine (c.indent + 2) key) := by
  rw [insertedLines, List.append_assoc, List.getElem?_append_right]
  · simp [List.length_take_of_le h]
  · rw [List.length_take_of_le h]
    exact Nat.le_add_right _ _

/-- Inserting keys at a context can always be carried out. The lines of the document stay, but for a
placeholder's own, and each key has a line at the insertion. The block is still found, each key is a
child of the context's path in its outline, and the cursor that the edit leaves stands at the end of
the last key's line, where it resolves to that key with nothing typed yet. -/
theorem inserted_keys_resolve {source delimiter : Text} {b : Block} {n column : Nat} {c : Context}
    {keys : List Text} (hb : Block.parse? source delimiter = some b)
    (hreturn : ∀ l ∈ Text.lines source, l.getLast? ≠ some '\r')
    (hc : b.resolve? n column = some c) (hne : keys ≠ []) (hkeys : ∀ k ∈ keys, IsKey k)
    (hdelimiter : ∀ k ∈ keys, k ++ [':'] ≠ delimiter) :
    ∃ i new b', ofKeys? c keys true = some i ∧ i.applied? source = some new
      ∧ Text.lines new = (Text.lines source).take c.insertionLine
          ++ keys.map (fun k => List.replicate (c.indent + 2) ' ' ++ (k ++ ": ".toList))
          ++ (Text.lines source).drop (c.line + 1)
      ∧ Block.parse? new delimiter = some b'
      ∧ (∀ j k, keys[j]? = some k →
          ∃ f ∈ b'.outline, f.line = c.insertionLine + j ∧ f.path = c.path.child k)
      ∧ i.cursor.line + 1 = c.insertionLine + keys.length
      ∧ (Text.lines new)[i.cursor.line]?.map List.length = some i.cursor.column
      ∧ ∃ c', b'.resolve? i.cursor.line i.cursor.column = some c' ∧ c'.kind = .field
          ∧ c'.path = c.path.child (keys.getLast hne) ∧ c'.query = [] := by
  obtain ⟨text, hres⟩ := Block.resolution_of_resolve? hc
  obtain ⟨i, new, b', hi, hnew, hlines, hb', hfields⟩ :=
    exists_block_of_ofKeys? hb hc hreturn hne hkeys hdelimiter
  have hchild : ∀ before key after, keys = before ++ key :: after →
      keyField c before.length key ∈ b'.fields
        ∧ b'.pathOf (keyField c before.length key) = c.path.child key := by
    rintro before key after rfl
    exact pathOf_keyField hfields hres.ascend_path hkeys
  obtain ⟨before, last, hkeysLast⟩ : ∃ before last, keys = before ++ [last] :=
    ⟨_, _, (List.dropLast_concat_getLast hne).symm⟩
  have hlast : keys.getLast hne = last := by simp [hkeysLast]
  have hcursor : i.cursor = ⟨c.insertionLine + before.length, c.indent + 2 + last.length + 2⟩ := by
    rw [ofKeys?, hkeysLast, List.getLast?_concat, Option.map_some] at hi
    rw [← Option.some.inj hi, Context.insertionLine]
    cases c.kind <;> simp [width, indentStep, Nat.add_comm, Nat.add_left_comm]
  have hline : (Text.lines new)[c.insertionLine + before.length]?
      = some (keyLine (c.indent + 2) last) := by
    rw [hlines, hkeysLast]
    exact insertedLines_getElem? (insertionLine_le_length hb hres)
  refine ⟨i, new, b', hi, hnew, hlines, hb', ?_, ?_, ?_, ?_⟩
  · -- Each key has a field line of its own.
    intro j k hk
    obtain ⟨hlt, rfl⟩ := List.getElem?_eq_some_iff.mp hk
    have hsplit : keys = keys.take j ++ keys[j] :: keys.drop (j + 1) := by simp
    obtain ⟨hmem, hpath⟩ := hchild _ _ _ hsplit
    refine ⟨_, Block.mem_outline.mpr ⟨_, hmem, rfl⟩, ?_, hpath⟩
    rw [keyField, List.length_take_of_le (Nat.le_of_lt hlt)]
  · rw [hcursor, hkeysLast, List.length_append, List.length_singleton, Nat.add_assoc]
  · rw [hcursor, hline, Option.map_some, length_keyLine]
  · -- The cursor stands at the end of the last key's line.
    obtain ⟨hmem, hpath⟩ := hchild before last [] hkeysLast
    obtain ⟨c', hc', hkind, -, hcpath⟩ :=
      Block.exists_resolve?_of_mem_fields hmem i.cursor.column
    refine ⟨c', ?_, hkind, ?_, ?_⟩
    · rw [hcursor] at hc' ⊢
      exact hc'
    · rw [hcpath, hpath, hlast]
    · obtain ⟨text', hres'⟩ := Block.resolution_of_resolve? hc'
      have htext' : text' = keyLine (c.indent + 2) last := by
        have hget := (Block.interiorText?_eq_some_iff.mp hres'.text_eq).2
        rw [Block.lines_of_parse? hb'] at hget
        exact Option.some.inj (hget.symm.trans hline)
      have hkey : IsKey last := hkeys last (by simp [hkeysLast])
      -- The query would start behind the space that ends the line.
      have hstart : c'.queryStart = text'.length := by
        rw [hres'.queryStart_eq, htext', parse?_keyLine hkey, length_keyLine]
        rfl
      have hslice : Block.slice text' c'.queryStart c'.column = [] := by
        rw [Block.slice, hstart]
        exact List.drop_eq_nil_of_le (List.length_take_le' _ _)
      rw [hres'.query_eq, hslice]
      rfl

/-- A document with a half typed key between two fields. -/
def halfTypedDocument : Text :=
  "---\nA:\n  B: 1\nhi\n  C: 2\n---\n".toList

/-- Two keys take the place of a half typed one, and the cursor resolves to the second of them. -/
theorem inserted_keys_resolve_in_halfTypedDocument :
    ∃ b c, Block.parse? halfTypedDocument defaultDelimiter = some b ∧ b.resolve? 3 2 = some c
      ∧ c.kind = .placeholder ∧ c.path = "A".toList
      ∧ ∃ i new b', ofKeys? c ["x y".toList, "運動".toList] true = some i
        ∧ i.applied? halfTypedDocument = some new
        ∧ Text.lines new = ["---", "A:", "  B: 1", "  x y: ", "  運動: ", "  C: 2", "---"].map
            String.toList
        ∧ Block.parse? new defaultDelimiter = some b'
        ∧ ∃ c', b'.resolve? i.cursor.line i.cursor.column = some c' ∧ c'.kind = .field
          ∧ c'.path = "A.運動".toList ∧ c'.query = [] := by
  obtain ⟨i, new, b', hi, hnew, hlines, hb', -, -, -, c', hc', hkind, hpath, hquery⟩ :=
    @inserted_keys_resolve halfTypedDocument defaultDelimiter _ 3 2 _
      ["x y".toList, "運動".toList] rfl (by decide) rfl (by decide) (by decide) (by decide)
  exact ⟨_, _, rfl, rfl, rfl, rfl, i, new, b', hi, hnew, hlines.trans (by decide), hb', c', hc',
    hkind, hpath, hquery⟩

end Insertion

end Frontmatter
