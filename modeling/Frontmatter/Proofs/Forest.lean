import Frontmatter.Proofs.Children

/-! # Written forests

Fields nest as an ordered forest: each field has the fields of a forest below it. `Forest.document`
writes one down in pre-order, every level indented one step deeper than the one above, between
delimiters and with any text behind them. Reading it back gives the forest: `document_reads_back`
says that the outline lists the nodes in pre-order with the paths from their roots, that a cursor on
a node's line resolves to the node's path, and that the keys which exist there are those of the
node's children. The paths rest on `outline_lines`, an induction over the forest that knows the keys
above it, and the children on `scannedKeys_of_mem_nodes`, one that knows where the lines of a
subtree end. -/

namespace Frontmatter

/-! ## Entries -/

/-- What a line of a forest holds: a key, and a value if there is one. -/
structure Entry where
  /-- The key. -/
  key : Text
  /-- The value. -/
  value : Option Text
  /-- The key can be the key of a field line. -/
  isKey : IsKey key
  /-- The value stands on one line and has no white space around it. -/
  value_tight : ∀ v ∈ value, '\n' ∉ v ∧ Text.trim v = v

namespace Entry

variable {width n : Nat} {c : Char}

/-- The text of an entry: the key and a colon, and behind a space the value. -/
def text (e : Entry) : Text :=
  match e.value with
  | none => e.key ++ [':']
  | some v => e.key ++ ':' :: ' ' :: v

/-- The line of an entry behind an indentation. -/
def line (width : Nat) (e : Entry) : Text :=
  List.replicate width ' ' ++ e.text

/-- The field line that the line of an entry is. -/
def field (width : Nat) (e : Entry) : FieldLine :=
  { indent := width
    key := e.key
    value := e.value.getD []
    valueColumn := width + e.key.length + if e.value.isSome then 2 else 1 }

/-- The field of an entry that stands on a line at a depth. -/
def placed (n depth : Nat) (e : Entry) : PlacedField :=
  ⟨n, e.field (2 * depth)⟩

/-- The line of an entry is read back. -/
theorem parse?_line (width : Nat) (e : Entry) :
    FieldLine.parse? (e.line width) = some (e.field width) := by
  obtain ⟨hne, hcolon, -, htrim⟩ := e.isKey
  have hwidth : ∀ c ∈ List.replicate width ' ', Text.isBlank c = true :=
    fun _ => Text.isBlank_of_mem_replicate
  rw [line, text, field]
  cases hvalue : e.value with
  | none =>
      -- Nothing stands behind the colon.
      have h := FieldLine.parse?_written hwidth hne hcolon htrim (List.forall_mem_nil _) rfl
        List.not_mem_nil
      rw [List.append_assoc, List.length_replicate] at h
      exact h
  | some v =>
      obtain ⟨hfeed, htight⟩ := e.value_tight v hvalue
      have hspace : ∀ c ∈ [' '], Text.isBlank c = true :=
        List.forall_mem_singleton.mpr Text.isBlank_space
      have h := FieldLine.parse?_written hwidth hne hcolon htrim hspace
        (Text.trim_eq_self_iff.mp htight).1 hfeed
      rw [List.append_assoc, List.length_replicate] at h
      exact h

/-- The line of an entry holds no line feed. -/
theorem lineFeed_not_mem_line (width : Nat) (e : Entry) : '\n' ∉ e.line width := by
  obtain ⟨-, -, hkey, -⟩ := e.isKey
  rw [line, text, List.mem_append, not_or]
  refine ⟨fun h => absurd (List.eq_of_mem_replicate h) (by decide), ?_⟩
  cases hvalue : e.value with
  | none => simp [hkey]
  | some v => simp [hkey, (e.value_tight v hvalue).1]

/-- The line of an entry ends in a colon, in the space behind it, or in a value. -/
theorem getLast?_line_ne (width : Nat) (e : Entry) : (e.line width).getLast? ≠ some '\r' := by
  rw [line, text, List.getLast?_append]
  cases hvalue : e.value with
  | none => simp
  | some v =>
      -- A carriage return is white space, which a value does not end in.
      have hend := (Text.trim_eq_self_iff.mp (e.value_tight v hvalue).2).2
      rw [Text.trimEnd_eq_self_iff] at hend
      cases hlast : v.getLast? with
      | none => simp [List.getLast?_append, List.getLast?_eq_none_iff.mp hlast]
      | some c =>
          have hblank := hend c hlast
          have hne : c ≠ '\r' := by
            rintro rfl
            exact absurd hblank (by decide)
          simp [List.getLast?_append, List.getLast?_cons, hlast, hne]

end Entry

/-! ## Forests -/

/-- An ordered forest of fields. -/
inductive Forest where
  /-- There is no field. -/
  | nil
  /-- A field with the fields below it, and the fields next to it. -/
  | cons (entry : Entry) (children others : Forest)

/-- A node of a forest as it stands in a document. -/
structure Node where
  /-- The line. -/
  line : Nat
  /-- The keys from the root down to the parent. -/
  above : List Text
  /-- What the line holds. -/
  entry : Entry
  /-- The keys of the children. -/
  children : List Text

namespace Node

/-- The path of a node: the keys from its root down to it. -/
def path (x : Node) : Path :=
  Path.ofKeys (x.above ++ [x.entry.key])

/-- A node as a field of an outline: each level is indented by two columns. -/
def outlineField (x : Node) : OutlineField :=
  ⟨x.line, x.path, x.entry.field (2 * x.above.length)⟩

end Node

namespace Forest

/-- The lines of a forest in pre-order, at a depth. -/
def lines : Nat → Forest → List Text
  | _, nil => []
  | depth, cons entry children others =>
    entry.line (2 * depth) :: (children.lines (depth + 1) ++ others.lines depth)

/-- The document of a forest: its lines between delimiters, and lines of any text behind them. -/
def document (f : Forest) (after : List Text) : Text :=
  Text.join ['\n'] (defaultDelimiter :: f.lines 0 ++ defaultDelimiter :: after)

/-- The number of a forest's nodes. -/
def size : Forest → Nat
  | nil => 0
  | cons _ children others => 1 + children.size + others.size

/-- The keys of a forest's roots. -/
def roots : Forest → List Text
  | nil => []
  | cons entry _ others => entry.key :: others.roots

/-- The nodes of a forest in pre-order, from a line on, below fields with given keys. -/
def nodes (above : List Text) : Nat → Forest → List Node
  | _, nil => []
  | n, cons entry children others =>
    ⟨n, above, entry, children.roots⟩
      :: (children.nodes (above ++ [entry.key]) (n + 1)
        ++ others.nodes above (n + 1 + children.size))

/-! ## The lines of a forest -/

variable {b : Block} {depth n : Nat} {above : List Text} {up after : List PlacedField}
  {before rest : List Text}

/-- A forest has a line for each of its entries. -/
theorem length_lines (depth : Nat) (f : Forest) : (f.lines depth).length = f.size := by
  induction f generalizing depth with
  | nil => rfl
  | cons entry children others ihc iho =>
      rw [lines, size, List.length_cons, List.length_append, ihc, iho]
      omega

/-- Every line of a forest is the line of an entry. -/
theorem exists_entry_of_mem_lines {text : Text} {f : Forest} (h : text ∈ f.lines depth) :
    ∃ (entry : Entry) (width : Nat), text = entry.line width := by
  induction f generalizing depth with
  | nil => exact absurd h List.not_mem_nil
  | cons entry children others ihc iho =>
      rw [lines, List.mem_cons, List.mem_append] at h
      rcases h with rfl | h | h
      · exact ⟨entry, _, rfl⟩
      · exact ihc h
      · exact iho h

/-- The fields of a forest are no shallower than the forest. -/
theorem le_indent_of_mem_fieldsFrom {p : PlacedField} {f : Forest}
    (h : p ∈ fieldsFrom n (f.lines depth)) : 2 * depth ≤ p.field.indent := by
  induction f generalizing depth n with
  | nil => exact absurd h List.not_mem_nil
  | cons entry children others ihc iho =>
      rw [lines, fieldsFrom_cons, entry.parse?_line, fieldsFrom_append, List.mem_append,
        List.mem_append] at h
      rcases h with h | h | h
      · -- The entry's own line is as deep as the forest.
        rw [List.mem_singleton.mp h]
        exact Nat.le_refl _
      · have hle := ihc h
        omega
      · exact iho h

/-- The document of a forest has a block, whose lines are the first delimiter and the lines of the
forest. -/
theorem exists_block_of_document (f : Forest) (after : List Text) :
    ∃ b, Block.parse? (f.document after) defaultDelimiter = some b ∧ b.span.first = 0
      ∧ b.lines.take b.span.last = defaultDelimiter :: f.lines 0 := by
  -- No line up to the closing delimiter is changed by reading the document.
  have hread : ∀ text ∈ defaultDelimiter :: f.lines 0 ++ [defaultDelimiter],
      '\n' ∉ text ∧ text.getLast? ≠ some '\r' := by
    intro text htext
    rw [List.cons_append, List.mem_cons, List.mem_append, List.mem_singleton] at htext
    rcases htext with rfl | htext | rfl
    · decide
    · obtain ⟨entry, width, rfl⟩ := exists_entry_of_mem_lines htext
      exact ⟨entry.lineFeed_not_mem_line width, entry.getLast?_line_ne width⟩
    · decide
  have hlast : (defaultDelimiter :: f.lines 0 ++ [defaultDelimiter]).getLast? ≠ some [] := by
    rw [List.getLast?_concat]
    decide
  obtain ⟨rest, hrest⟩ := Text.exists_lines_join_append (by simp) hlast
    (fun text htext => (hread text htext).1) (fun text htext => (hread text htext).2) after
  have hlines : Text.lines (f.document after)
      = defaultDelimiter :: (f.lines 0 ++ defaultDelimiter :: rest) := by
    rw [document, List.append_cons, hrest]
    simp
  have hnone : ∀ text ∈ f.lines 0, BlockSpan.isDelimiter defaultDelimiter text = false := by
    intro text htext
    obtain ⟨entry, width, rfl⟩ := exists_entry_of_mem_lines htext
    exact BlockSpan.isDelimiter_of_parse? (entry.parse?_line width)
  obtain ⟨b, hb, -, hspan⟩ := Block.parse?_of_lines hlines (by decide) hnone (by decide)
  refine ⟨b, hb, by rw [hspan], ?_⟩
  rw [Block.lines_of_parse? hb, hlines, hspan, List.take_succ_cons, List.take_left]

/-! ## Paths -/

/-- The fields of a forest's lines: the first node's, those of its children and the others. -/
theorem fieldsFrom_lines_cons (n depth : Nat) (entry : Entry) (children others : Forest) :
    fieldsFrom n ((cons entry children others).lines depth)
      = entry.placed n depth
        :: (fieldsFrom (n + 1) (children.lines (depth + 1))
          ++ fieldsFrom (n + 1 + children.size) (others.lines depth)) := by
  rw [lines, fieldsFrom_cons, entry.parse?_line, fieldsFrom_append, length_lines]
  rfl

/-- The keys of the lineage of an entry's field, if those above it are known. -/
theorem map_lineage (entry : Entry)
    (hup : (ascend (parentIndent (2 * above.length)) up).map (·.field.key) = above.reverse) :
    (lineage up (entry.placed n above.length)).map (·.field.key)
      = (above ++ [entry.key]).reverse := by
  rw [List.reverse_append, ← hup]
  rfl

/-- The outline of a forest's lines, in a block where going upwards from the forest meets the fields
with the keys above it. -/
theorem outline_lines (f : Forest)
    (hfields : b.fields = up.reverse ++ (fieldsFrom n (f.lines above.length) ++ after))
    (hup : (ascend (parentIndent (2 * above.length)) up).map (·.field.key) = above.reverse) :
    (fieldsFrom n (f.lines above.length)).map
        (fun p => (⟨p.line, b.pathOf p, p.field⟩ : OutlineField))
      = (f.nodes above n).map Node.outlineField := by
  induction f generalizing above n up after with
  | nil => rfl
  | cons entry children others ihc iho =>
      rw [fieldsFrom_lines_cons, List.cons_append, List.append_assoc] at hfields
      have hdepth : (above ++ [entry.key]).length = above.length + 1 := by simp
      have hpath : b.pathOf (entry.placed n above.length)
          = Path.ofKeys (above ++ [entry.key]) := by
        rw [Block.pathOf, Block.fieldsAbove_line hfields, List.reverse_reverse, chainPath,
          map_lineage entry hup, List.reverse_reverse]
      -- Going upwards from the children meets the entry's field and then what is above it.
      have hbelow : b.fields = (entry.placed n above.length :: up).reverse
          ++ (fieldsFrom (n + 1) (children.lines (above ++ [entry.key]).length)
            ++ (fieldsFrom (n + 1 + children.size) (others.lines above.length) ++ after)) := by
        rw [hfields, hdepth, List.reverse_cons, List.append_assoc, List.singleton_append]
      have hparent : parentIndent (2 * (above ++ [entry.key]).length)
          = some (2 * above.length) := by
        rw [hdepth]
        exact if_pos (Nat.le_add_left 2 _)
      have hchildren := ihc hbelow (by
        rw [hparent, ascend_cons, if_pos (by rfl), map_lineage entry hup])
      -- Going upwards from the others passes over the children and over the entry's field.
      have hnext : b.fields
          = ((fieldsFrom (n + 1) (children.lines (above.length + 1))).reverse
              ++ [entry.placed n above.length] ++ up).reverse
            ++ (fieldsFrom (n + 1 + children.size) (others.lines above.length) ++ after) := by
        rw [hfields]
        simp
      have hothers := iho hnext (by
        rw [ascend_parentIndent_append, hup]
        intro p hp
        rw [List.mem_append, List.mem_reverse, List.mem_singleton] at hp
        rcases hp with hp | rfl
        · have hle := le_indent_of_mem_fieldsFrom hp
          omega
        · exact Nat.le_refl _)
      rw [hdepth] at hchildren
      rw [fieldsFrom_lines_cons, List.map_cons, List.map_append, hchildren, hothers, hpath, nodes,
        List.map_cons, List.map_append]
      rfl

/-! ## Children -/

/-- The scan for children passes over lines that are more than one step deeper. -/
theorem scanChildKeys_lines_of_lt (f : Forest) {parent : Nat} (h : parent + indentStep < 2 * depth)
    (rest : List Text) :
    scanChildKeys parent (f.lines depth ++ rest) = scanChildKeys parent rest := by
  induction f generalizing depth rest with
  | nil => rfl
  | cons entry children others ihc iho =>
      -- The entry's line neither ends the scan nor holds a child, and its subtree is deeper still.
      have hparse := entry.parse?_line (2 * depth)
      have hdeep : ¬ (entry.field (2 * depth)).indent ≤ parent := by
        show ¬ 2 * depth ≤ parent
        omega
      have hstep : (entry.field (2 * depth)).indent ≠ parent + indentStep := by
        show 2 * depth ≠ parent + indentStep
        omega
      rw [lines, List.cons_append, scanChildKeys_cons_of_parse? hparse, if_neg hdeep, if_neg hstep,
        List.append_assoc, ihc (by omega), iho h]

/-- The scan for children finds the roots of a forest one step deeper. -/
theorem scanChildKeys_lines (f : Forest) (depth : Nat) (rest : List Text) :
    scanChildKeys (2 * depth) (f.lines (depth + 1) ++ rest)
      = f.roots ++ scanChildKeys (2 * depth) rest := by
  induction f generalizing rest with
  | nil => rfl
  | cons entry children others _ iho =>
      -- The entry is a child, and its own children are two steps deeper than the parent.
      have hparse := entry.parse?_line (2 * (depth + 1))
      have hdeep : ¬ (entry.field (2 * (depth + 1))).indent ≤ 2 * depth := by
        show ¬ 2 * (depth + 1) ≤ 2 * depth
        omega
      have hstep : (entry.field (2 * (depth + 1))).indent = 2 * depth + indentStep := by
        show 2 * (depth + 1) = 2 * depth + 2
        omega
      have hlt : 2 * depth + indentStep < 2 * (depth + 1 + 1) := by
        rw [indentStep]
        omega
      rw [lines, List.cons_append, scanChildKeys_cons_of_parse? hparse, if_neg hdeep, if_pos hstep,
        List.append_assoc, scanChildKeys_lines_of_lt children hlt, iho]
      rfl

/-- Whether lines end the scan for the children of a parent at once: there are none, or the first
one is no deeper than the parent. -/
def Stops (parent : Nat) (rest : List Text) : Prop :=
  ∀ text ∈ rest.head?, endsScan parent text = true

/-- What stops the scan for the children of a parent stops that of a deeper one. -/
theorem Stops.mono {parent parent' : Nat} (h : Stops parent rest) (hle : parent ≤ parent') :
    Stops parent' rest := by
  intro text htext
  have hends := h text htext
  rw [endsScan, Bool.and_eq_true, decide_eq_true_eq] at hends ⊢
  exact ⟨hends.1, Nat.le_trans hends.2 hle⟩

/-- A scan that is stopped at once finds nothing. -/
theorem Stops.scanChildKeys {parent : Nat} (h : Stops parent rest) :
    scanChildKeys parent rest = [] := by
  cases rest with
  | nil => rfl
  | cons text rest =>
      have hends := h text rfl
      rw [endsScan, Bool.and_eq_true, Bool.not_eq_true', decide_eq_true_eq] at hends
      rw [Frontmatter.scanChildKeys, hends.1, if_neg (by decide), if_pos hends.2]

/-- The lines of a forest, followed by lines that are no deeper, end the scan for children of the
same depth. -/
theorem Stops.lines_append (f : Forest) (h : Stops (2 * depth) rest) :
    Stops (2 * depth) (f.lines depth ++ rest) := by
  cases f with
  | nil => exact h
  | cons entry children others =>
      intro text htext
      obtain rfl : entry.line (2 * depth) = text := Option.some.inj htext
      have hparse := entry.parse?_line (2 * depth)
      rw [endsScan, FieldLine.isBlankLine_eq_false_of_parse? hparse,
        ← FieldLine.indent_of_parse? hparse]
      exact decide_eq_true (Nat.le_refl (2 * depth))

/-- The scan below the line of a node finds the keys of its children. The lines behind the forest
are no deeper than the forest. -/
theorem scannedKeys_of_mem_nodes (f : Forest)
    (hlines : b.lines.take b.span.last = before ++ (f.lines above.length ++ rest))
    (hrest : Stops (2 * above.length) rest) {x : Node} (hx : x ∈ f.nodes above before.length) :
    b.scannedKeys x.line = x.children := by
  induction f generalizing above before rest with
  | nil => exact absurd hx List.not_mem_nil
  | cons entry children others ihc iho =>
      have hothers := hrest.lines_append others
      have hdepth : (above ++ [entry.key]).length = above.length + 1 := by simp
      rw [lines, List.cons_append, List.append_assoc] at hlines
      rw [nodes, List.mem_cons, List.mem_append] at hx
      rcases hx with rfl | hx | hx
      · -- The lines of the children follow, and then the others end the scan.
        have hget : b.lines[before.length]? = some (entry.line (2 * above.length)) := by
          have htake := congrArg (·[before.length]?) hlines
          simp only [List.getElem?_append_right (Nat.le_refl _), Nat.sub_self] at htake
          rw [List.getElem?_take] at htake
          split at htake
          · exact htake
          · exact absurd htake (by simp)
        have hindent := FieldLine.indent_of_parse? (entry.parse?_line (2 * above.length))
        show b.scannedKeys before.length = children.roots
        rw [Block.scannedKeys, hget, hlines, List.drop_length_add_append, List.drop_succ_cons,
          List.drop_zero]
        show scanChildKeys (Text.indentation _) _ = children.roots
        rw [← hindent]
        show scanChildKeys (2 * above.length) _ = children.roots
        rw [scanChildKeys_lines, hothers.scanChildKeys, List.append_nil]
      · -- What follows the children is no deeper than the entry, so it stops their scans too.
        have hbelow : b.lines.take b.span.last = before ++ [entry.line (2 * above.length)]
            ++ (children.lines (above ++ [entry.key]).length
              ++ (others.lines above.length ++ rest)) := by
          rw [hlines, hdepth]
          simp
        refine ihc hbelow ?_ (by simpa using hx)
        rw [hdepth]
        exact hothers.mono (by omega)
      · have hnext : b.lines.take b.span.last
            = before ++ entry.line (2 * above.length) :: children.lines (above.length + 1)
              ++ (others.lines above.length ++ rest) := by
          rw [hlines]
          simp
        refine iho hnext hrest ?_
        simpa [length_lines, Nat.add_assoc, Nat.add_comm 1] using hx

/-! ## The document of a forest -/

/-- The document of a forest gives the forest back. Its outline lists the nodes in pre-order, each
with the path from its root and its value. A cursor on the line of a node resolves to the node's
path, and the keys that exist there are those of the node's children, if it has any. -/
theorem document_reads_back (f : Forest) (after : List Text) :
    ∃ b, Block.parse? (f.document after) defaultDelimiter = some b
      ∧ b.outline = (f.nodes [] 1).map Node.outlineField
      ∧ ∀ x ∈ f.nodes [] 1, ∀ column, ∃ c, b.resolve? x.line column = some c
          ∧ c.path = x.path ∧ (x.children ≠ [] → b.existingKeys c = x.children) := by
  obtain ⟨b, hb, hfirst, hlines⟩ := exists_block_of_document f after
  have hfields : b.fields = fieldsFrom 1 (f.lines 0) := by
    rw [Block.fields_eq, Block.inside, hlines, hfirst]
    rfl
  have hfields' : b.fields = ([] : List PlacedField).reverse
      ++ (fieldsFrom 1 (f.lines ([] : List Text).length) ++ []) := by
    rw [hfields, List.append_nil]
    rfl
  have houtline : b.outline = (f.nodes [] 1).map Node.outlineField := by
    rw [Block.outline_eq_map, hfields]
    exact outline_lines f hfields' rfl
  refine ⟨b, hb, houtline, ?_⟩
  intro x hx column
  have hmem : x.outlineField ∈ b.outline := by
    rw [houtline]
    exact List.mem_map_of_mem hx
  obtain ⟨p, hp, hpx⟩ := Block.mem_outline.mp hmem
  obtain ⟨c, hc, -, hkey, hpath⟩ := Block.exists_resolve?_of_mem_fields hp column
  have hline : p.line = x.line := congrArg OutlineField.line hpx
  have hpathx : b.pathOf p = x.path := congrArg OutlineField.path hpx
  rw [hline] at hc hkey
  refine ⟨c, hc, hpath.trans hpathx, fun hne => ?_⟩
  -- Nothing stands between the forest and the closing delimiter.
  have hlines' : b.lines.take b.span.last
      = [defaultDelimiter] ++ (f.lines ([] : List Text).length ++ []) := by
    rw [hlines, List.append_nil]
    rfl
  have hscan : b.scannedKeys x.line = x.children :=
    scannedKeys_of_mem_nodes f hlines' (fun _ h => absurd h (by simp)) hx
  rw [Block.existingKeys, hkey, hscan, if_neg hne]

/-- A field without a value has a field with one below it, and a note stands behind the block. -/
example :
    let f : Forest :=
      .cons ⟨"a".toList, none, by decide, by decide⟩
        (.cons ⟨"b c".toList, some "1".toList, by decide, by decide⟩ .nil .nil) .nil
    f.document ["note".toList] = "---\na:\n  b c: 1\n---\nnote".toList
      ∧ (f.nodes [] 1).map Node.path = ["a".toList, "a.b c".toList] := by
  decide

end Forest

end Frontmatter
