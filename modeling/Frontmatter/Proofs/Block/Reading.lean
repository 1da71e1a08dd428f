import Frontmatter.Proofs.Children

/-! # Reading a block by line numbers

A cursor's context and the keys below it are found by going over the lines of a document by their
numbers, upwards to the first delimiter and downwards to the last. `Block.readContext?` and
`Block.readKeys?` do so and have no result if there is no line of some number. This never happens in
the block of a document: the numbers stay between the delimiters. `Block.Bounded` says how a context
keeps to its block and to its line, and `reading_stays_within_block` puts the two together. -/

namespace Frontmatter

namespace Block

variable {b : Block} {source delimiter : Text} {n column : Nat} {text : Text} {c : Context}

/-! ## Upwards -/

/-- The fields met going upwards over the first lines of the interior, each at the indentation
expected of it. -/
def climb? (b : Block) : Option Nat → Nat → Option (List PlacedField)
  | none, _ => some []
  | some _, 0 => some []
  | some expected, i + 1 =>
    (b.lines[b.span.first + 1 + i]?).bind fun text =>
      match FieldLine.parse? text with
      | some field =>
        if field.indent = expected then
          (b.climb? (parentIndent expected) i).map (⟨b.span.first + 1 + i, field⟩ :: ·)
        else b.climb? (some expected) i
      | none => b.climb? (some expected) i

/-- The chain of fields that leads to a line. -/
def readChain? (b : Block) (line : Nat) (text : Text) : Option (List PlacedField) :=
  let above := line - (b.span.first + 1)
  match FieldLine.parse? text with
  | some field => (b.climb? (parentIndent field.indent) above).map (⟨line, field⟩ :: ·)
  | none => b.climb? (some (Text.indentation text)) above

/-- The context that the text of a line and the chain that leads to it make. -/
def contextAt? (b : Block) (line column : Nat) (text : Text) (chain : List PlacedField) :
    Option Context :=
  chain.head?.map fun innermost =>
    let path := Path.ofKeys (chain.map (·.field.key)).reverse
    let column := min column text.length
    let indent := Text.indentation text
    let start :=
      match FieldLine.parse? text with
      | some field => (LineKind.field, field.valueColumn)
      | none => (LineKind.placeholder, min indent column)
    { path
      line
      indent
      value := b.tree.bind (·.lookup? path)
      kind := start.1
      keyLine := innermost.line
      column
      lineLength := text.length
      query := Text.trim (slice text start.2 column)
      queryStart := start.2 }

/-- The context of a cursor. -/
def readContext? (b : Block) (line column : Nat) : Option (Option Context) :=
  if b.span.contains line then
    (b.lines[line]?).bind fun text => (b.readChain? line text).map (b.contextAt? line column text)
  else some none

/-- Between the delimiters there is a line of every number. -/
theorem exists_interiorText? (hlast : b.span.last ≤ b.lines.length)
    (hn : b.span.contains n = true) : ∃ text, b.interiorText? n = some text := by
  have hlt := Nat.lt_of_lt_of_le (BlockSpan.contains_iff.mp hn).2 hlast
  exact ⟨_, interiorText?_eq_some_iff.mpr ⟨hn, List.getElem?_eq_getElem hlt⟩⟩

/-- No field stands above the line below the first delimiter. -/
theorem fieldsAbove_first (b : Block) : b.fieldsAbove (b.span.first + 1) = [] := by
  refine List.eq_nil_iff_forall_not_mem.mpr fun p hp => ?_
  obtain ⟨hmem, hlt⟩ := mem_fieldsAbove.mp hp
  obtain ⟨text, htext, -⟩ := mem_fields.mp hmem
  have hfirst := first_lt_of_interiorText? htext
  omega

/-- Going one line further up, there is the field of that line, if it has one. -/
theorem fieldsAbove_succ_of_text (htext : b.interiorText? n = some text) :
    b.fieldsAbove (n + 1)
      = ((FieldLine.parse? text).map fun field => ⟨n, field⟩).toList ++ b.fieldsAbove n := by
  cases hparse : FieldLine.parse? text with
  | some field =>
      exact fieldsAbove_succ (b := b) (p := ⟨n, field⟩) (mem_fields.mpr ⟨text, htext, hparse⟩)
  | none =>
      refine fieldsAbove_succ_of_ne fun p hp hline => ?_
      obtain ⟨text', htext', hfield⟩ := mem_fields.mp hp
      rw [hline, htext] at htext'
      rw [← Option.some.inj htext', hparse] at hfield
      exact absurd hfield (by simp)

/-- Going upwards over lines of the block meets the fields of an ascent. -/
theorem climb?_eq (hlast : b.span.last ≤ b.lines.length) {i : Nat}
    (hi : b.span.first + 1 + i ≤ b.span.last) (expected : Option Nat) :
    b.climb? expected i = some (ascend expected (b.fieldsAbove (b.span.first + 1 + i))) := by
  -- The lines still to be read all stand between the delimiters.
  induction i generalizing expected with
  | zero =>
      rw [Nat.add_zero, fieldsAbove_first, ascend_nil]
      cases expected <;> rfl
  | succ i ih =>
      cases expected with
      | none => rw [climb?, ascend_none]
      | some expected =>
          obtain ⟨text, htext⟩ : ∃ text, b.interiorText? (b.span.first + 1 + i) = some text :=
            exists_interiorText? hlast (BlockSpan.contains_iff.mpr ⟨by omega, by omega⟩)
          rw [climb?, (interiorText?_eq_some_iff.mp htext).2, Option.bind_some, ← Nat.add_assoc,
            fieldsAbove_succ_of_text htext]
          -- Reading and the ascent both pass over the line or go on above its field.
          cases FieldLine.parse? text with
          | none => exact ih (by omega) (some expected)
          | some field =>
              change (if field.indent = expected then _ else _) = some (ascend (some expected)
                (⟨b.span.first + 1 + i, field⟩ :: b.fieldsAbove (b.span.first + 1 + i)))
              rw [ascend, ih (by omega), ih (by omega)]
              split <;> rfl

/-- Reading the chain that leads to a line of the interior gives that chain. -/
theorem readChain?_eq (hlast : b.span.last ≤ b.lines.length)
    (htext : b.interiorText? n = some text) : b.readChain? n text = some (b.chain n text) := by
  have hfirst := first_lt_of_interiorText? htext
  have hlt := lt_last_of_interiorText? htext
  have hn : b.span.first + 1 + (n - (b.span.first + 1)) = n := Nat.add_sub_cancel' hfirst
  have hclimb : ∀ expected, b.climb? expected (n - (b.span.first + 1))
      = some (ascend expected (b.fieldsAbove n)) := by
    intro expected
    rw [climb?_eq hlast (by omega), hn]
  rw [readChain?, chain]
  cases FieldLine.parse? text with
  | some field =>
      change (b.climb? (parentIndent field.indent) _).map _ = _
      rw [hclimb]
      rfl
  | none => exact hclimb _

/-- A cursor outside the block is not resolved. -/
theorem resolve?_of_not_contains (hn : b.span.contains n = false) :
    b.resolve? n column = none := by
  rw [resolve?, find?_interior, interiorText?, hn]
  rfl

/-- A cursor inside the block is resolved by the text of its line and the chain that leads there. -/
theorem resolve?_eq_contextAt? (htext : b.interiorText? n = some text) :
    b.resolve? n column = b.contextAt? n column text (b.chain n text) := by
  rw [resolve?, find?_interior, htext]
  rfl

/-- Reading the context of a cursor gives what the cursor is resolved to. -/
theorem readContext?_eq (hlast : b.span.last ≤ b.lines.length) (n column : Nat) :
    b.readContext? n column = some (b.resolve? n column) := by
  rw [readContext?]
  split
  · rename_i hcontains
    obtain ⟨text, htext⟩ := exists_interiorText? hlast hcontains
    rw [(interiorText?_eq_some_iff.mp htext).2, Option.bind_some, readChain?_eq hlast htext,
      resolve?_eq_contextAt? htext]
    rfl
  · rename_i hcontains
    rw [resolve?_of_not_contains (eq_false_of_ne_true hcontains)]

/-! ## Downwards -/

/-- The keys of the field lines one step below a parent among some lines, of which the first has a
given number. -/
def scanLines? (b : Block) (parent : Nat) : Nat → Nat → Option (List Text)
  | _, 0 => some []
  | n, count + 1 =>
    (b.lines[n]?).bind fun text =>
      if Text.isBlankLine text then b.scanLines? parent (n + 1) count
      else
        let indent := Text.indentation text
        if indent ≤ parent then some []
        else if indent = parent + indentStep then
          (b.scanLines? parent (n + 1) count).map
            (((FieldLine.parse? text).map (·.key)).toList ++ ·)
        else b.scanLines? parent (n + 1) count

/-- The children's keys found by scanning the lines below a key's line. -/
def readScan? (b : Block) (keyLine : Nat) : Option (List Text) :=
  (b.lines[keyLine]?).bind fun text =>
    b.scanLines? (Text.indentation text) (keyLine + 1) (b.span.last - (keyLine + 1))

/-- The keys that stand below the field of a context. -/
def readKeys? (b : Block) (c : Context) : Option (List Text) :=
  (b.readScan? c.keyLine).map fun scanned =>
    if scanned = [] then (b.tree.bind (·.childKeys? c.path)).getD [] else scanned

/-- Scanning lines of the document by their numbers finds what scanning these lines finds. -/
theorem scanLines?_eq (parent : Nat) {count : Nat} (h : n + count ≤ b.lines.length) :
    b.scanLines? parent n count = some (scanChildKeys parent ((b.lines.drop n).take count)) := by
  induction count generalizing n with
  | zero => rfl
  | succ count ih =>
      have hlt : n < b.lines.length := by omega
      rw [scanLines?, List.getElem?_eq_getElem hlt, Option.bind_some,
        List.drop_eq_getElem_cons hlt, List.take_succ_cons, scanChildKeys, ih (by omega)]
      dsimp only
      split
      · rfl
      · split
        · rfl
        · split <;> rfl

/-- Reading the keys below a line above the last delimiter gives those that the scan finds. -/
theorem readScan?_eq (hlast : b.span.last ≤ b.lines.length) (hn : n < b.span.last) :
    b.readScan? n = some (b.scannedKeys n) := by
  have hget := List.getElem?_eq_getElem (Nat.lt_of_lt_of_le hn hlast)
  rw [readScan?, scannedKeys, hget, Option.bind_some, scanLines?_eq _ (by omega), List.drop_take]

/-- Reading the keys below the field of a context gives the existing ones. -/
theorem readKeys?_eq (hlast : b.span.last ≤ b.lines.length) (hc : c.keyLine < b.span.last) :
    b.readKeys? c = some (b.existingKeys c) := by
  rw [readKeys?, readScan?_eq hlast hc]
  rfl

/-! ## Bounds -/

/-- The context of a cursor that stands on a line with a text keeps to its block and to that
line. -/
structure Bounded (b : Block) (n column : Nat) (text : Text) (c : Context) : Prop where
  /-- The line is the cursor's. -/
  line_eq : c.line = n
  /-- The text is that of the line. -/
  text_eq : b.lines[n]? = some text
  /-- The key line stands below the first delimiter. -/
  first_lt : b.span.first < c.keyLine
  /-- The key line is the cursor's line or stands above it. -/
  keyLine_le : c.keyLine ≤ n
  /-- The cursor's line stands above the last delimiter. -/
  lt_last : n < b.span.last
  /-- The key line is the cursor's line exactly if that carries a field. -/
  kind_eq_field_iff : c.kind = .field ↔ c.keyLine = n
  /-- The length is that of the line, in characters. -/
  lineLength_eq : c.lineLength = text.length
  /-- The column is the cursor's, or the end of the line. -/
  column_eq : c.column = min column text.length
  /-- The indentation ends within the line. -/
  indent_le : c.indent ≤ text.length
  /-- The query starts within the line. -/
  queryStart_le : c.queryStart ≤ text.length
  /-- The query is what stands between its start and the cursor. -/
  query_eq : c.query = Text.trim ((text.take c.column).drop c.queryStart)
  /-- There is no query if the cursor stands at or before its start. -/
  query_eq_nil : c.column ≤ c.queryStart → c.query = []
  /-- The path is not empty. -/
  path_ne_nil : c.path ≠ []
  /-- The key line carries a field, and the path ends with its key. -/
  exists_key : ∃ keyText field, b.lines[c.keyLine]? = some keyText
    ∧ FieldLine.parse? keyText = some field
    ∧ (c.path = field.key ∨ ∃ parent : Path, c.path = parent.child field.key)
  /-- A cursor on the key line is resolved to the same path. -/
  resolve_keyLine : ∀ column', ∃ c', b.resolve? c.keyLine column' = some c' ∧ c'.path = c.path

/-- The path of a key ends with the key. -/
theorem keyPath_eq_or (key : Text) (parents : List PlacedField) :
    keyPath key parents = key ∨ ∃ parent : Path, keyPath key parents = parent.child key := by
  rw [keyPath]
  cases chainPath? parents with
  | none => exact .inl rfl
  | some parent => exact .inr ⟨parent, rfl⟩

/-- A query starts within its line. -/
theorem Resolution.queryStart_le (h : b.Resolution n column text c) :
    c.queryStart ≤ text.length := by
  rw [h.queryStart_eq]
  cases hparse : FieldLine.parse? text with
  | some field =>
      obtain ⟨before, happend, hcolumn⟩ := FieldLine.exists_append_value_of_parse? hparse
      rw [Option.map_some, Option.getD_some, ← hcolumn, happend, List.length_append]
      exact Nat.le_add_right _ _
  | none =>
      rw [Option.map_none, Option.getD_none, h.column_eq]
      omega

/-- What a context holds keeps to the block and to the line. -/
theorem Resolution.bounded (h : b.Resolution n column text c) : b.Bounded n column text c := by
  obtain ⟨p, hp, hline, hpath, hat⟩ := h.exists_field
  obtain ⟨keyText, hkeyText, hfield⟩ := mem_fields.mp hp
  have hkey : c.path = p.field.key ∨ ∃ parent : Path, c.path = parent.child p.field.key := by
    rw [← hpath, pathOf_eq_keyPath]
    exact keyPath_eq_or _ _
  refine {
    line_eq := h.line_eq
    text_eq := (interiorText?_eq_some_iff.mp h.text_eq).2
    first_lt := hline ▸ first_lt_of_interiorText? hkeyText
    keyLine_le := ?_
    lt_last := lt_last_of_interiorText? h.text_eq
    kind_eq_field_iff := ?_
    lineLength_eq := h.lineLength_eq
    column_eq := h.column_eq
    indent_le := ?_
    queryStart_le := h.queryStart_le
    query_eq := h.query_eq
    query_eq_nil := fun hle => ?_
    path_ne_nil := ?_
    exists_key :=
      ⟨keyText, p.field, hline ▸ (interiorText?_eq_some_iff.mp hkeyText).2, hfield, hkey⟩
    resolve_keyLine := fun column' => ?_ }
  · rw [← hline]
    rcases hat with ⟨-, hat⟩ | ⟨-, hat⟩ <;> omega
  · -- Only on a field line the field is that of the line.
    rw [h.kind_eq, ← hline]
    rcases hat with ⟨hparse, hat⟩ | ⟨hparse, hat⟩
    · simp [hparse, hat]
    · simp [hparse, Nat.ne_of_lt hat]
  · rw [h.indent_eq]
    exact (List.takeWhile_sublist _).length_le
  · have hnil : slice text c.queryStart c.column = [] := by
      rw [slice, List.drop_eq_nil_iff, List.length_take]
      omega
    rw [h.query_eq, hnil]
    rfl
  · have hne := FieldLine.key_ne_nil_of_parse? hfield
    rcases hkey with hkey | ⟨parent, hkey⟩
    · rwa [hkey]
    · rw [hkey]
      exact List.append_ne_nil_of_right_ne_nil _ (List.cons_ne_nil _ _)
  · obtain ⟨c', hc', -, -, hpath'⟩ := exists_resolve?_of_mem_fields hp column'
    rw [← hline, ← hpath]
    exact ⟨c', hc', hpath'⟩

/-- The last delimiter is a line of the document. -/
theorem last_lt_length_of_parse? (h : parse? source delimiter = some b) :
    b.span.last < b.lines.length := by
  obtain ⟨opening, closing, rest, hlines, -, -, -, hspan⟩ := exists_lines_of_parse? h
  rw [lines_of_parse? h, hlines, hspan]
  simp

/-- **In the block of a document, all lines that are read to resolve a cursor and to find the keys
below it are there**, and reading them gives the context and the existing keys. Outside the block a
cursor is not resolved. A context keeps to the block and to the cursor's line. -/
theorem reading_stays_within_block (h : parse? source delimiter = some b) (line column : Nat) :
    b.readContext? line column = some (b.resolve? line column)
      ∧ (b.span.contains line = false → b.resolve? line column = none)
      ∧ ∀ c, b.resolve? line column = some c →
          b.readKeys? c = some (b.existingKeys c) ∧ ∃ text, b.Bounded line column text c := by
  have hlast := Nat.le_of_lt (last_lt_length_of_parse? h)
  refine ⟨readContext?_eq hlast line column, resolve?_of_not_contains, fun c hc => ?_⟩
  obtain ⟨text, hres⟩ := resolution_of_resolve? hc
  have hbounded := hres.bounded
  exact ⟨readKeys?_eq hlast (Nat.lt_of_le_of_lt hbounded.keyLine_le hbounded.lt_last), text,
    hbounded⟩

/-- A document with a half typed value below a field. -/
def halfTypedValueDocument : Text :=
  "---\nA:\n  B:  some te\n---\ntext".toList

/-- A cursor beyond the end of the half typed value stands at its end, with the value as its query.
A cursor on a line that is not there is not resolved. -/
theorem reading_stays_within_block_in_halfTypedValueDocument :
    ∃ b c, parse? halfTypedValueDocument defaultDelimiter = some b ∧ b.resolve? 2 40 = some c
      ∧ c.keyLine = 2 ∧ c.queryStart = 6 ∧ c.query = "some te".toList
      ∧ (∃ text, b.Bounded 2 40 text c) ∧ b.readKeys? c = some (b.existingKeys c)
      ∧ b.readContext? 9 0 = some (b.resolve? 9 0) ∧ b.resolve? 9 0 = none := by
  obtain ⟨b, hb, hresolved, houtside⟩ :
      ∃ b, parse? halfTypedValueDocument defaultDelimiter = some b
        ∧ (b.resolve? 2 40).map (fun c => (c.keyLine, c.queryStart, c.query))
          = some (2, 6, "some te".toList)
        ∧ b.span.contains 9 = false := ⟨_, rfl, by decide +kernel, by decide +kernel⟩
  obtain ⟨c, hc, heq⟩ := Option.map_eq_some_iff.mp hresolved
  obtain ⟨hkeyLine, heq⟩ := Prod.mk.inj heq
  obtain ⟨hstart, hquery⟩ := Prod.mk.inj heq
  obtain ⟨hkeys, hbounded⟩ := (reading_stays_within_block hb 2 40).2.2 c hc
  obtain ⟨hread, hnone, -⟩ := reading_stays_within_block hb 9 0
  exact ⟨b, c, hb, hc, hkeyLine, hstart, hquery, hbounded, hkeys, hread, hnone houtside⟩

end Block

end Frontmatter
