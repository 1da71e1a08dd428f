import Frontmatter.Children
import Frontmatter.Proofs.Block.Resolution
import Frontmatter.Proofs.Numbered

/-! # Parents and children

Where a field belongs is told upwards: its parent is the nearest field above it that is indented one
step less, and `path_eq_of_mem_outline` reads its path off that parent's. What a key's children are
is told downwards, by a scan that some lines end. `mem_scannedKeys_iff` ties the two together: the
scan finds the fields one step deeper that are not cut off from the key by such a line, and no
others. `scan_agrees_with_resolution` adds that it finds them in their order, and that the key is
the parent of each. -/

namespace Frontmatter

/-! ## The scan for children -/

/-- Whether a line ends the scan for the children of a parent: it is not blank, and it is indented
no deeper than the parent. -/
def endsScan (parent : Nat) (text : Text) : Bool :=
  !Text.isBlankLine text && Text.indentation text ≤ parent

/-- What the scan for children does with a field line: it ends, or finds the key, or passes on. -/
theorem scanChildKeys_cons_of_parse? {parent : Nat} {text : Text} {field : FieldLine}
    (h : FieldLine.parse? text = some field) (rest : List Text) :
    scanChildKeys parent (text :: rest)
      = if field.indent ≤ parent then []
        else if field.indent = parent + indentStep then field.key :: scanChildKeys parent rest
        else scanChildKeys parent rest := by
  rw [scanChildKeys, FieldLine.isBlankLine_eq_false_of_parse? h, if_neg (by decide),
    ← FieldLine.indent_of_parse? h, h]
  rfl

/-- The scan for children finds the keys of the fields one step deeper, as far as no line ends
it. -/
theorem scanChildKeys_eq (parent n : Nat) (lines : List Text) :
    scanChildKeys parent lines
      = ((fieldsFrom n (lines.takeWhile fun l => !endsScan parent l)).filter
          (·.field.indent = parent + indentStep)).map (·.field.key) := by
  induction lines generalizing n with
  | nil => rfl
  | cons text rest ih =>
      rw [scanChildKeys, List.takeWhile_cons, endsScan]
      by_cases hblank : Text.isBlankLine text = true
      · have hparse : FieldLine.parse? text = none := by
          cases hfield : FieldLine.parse? text with
          | none => rfl
          | some field =>
              rw [FieldLine.isBlankLine_eq_false_of_parse? hfield] at hblank
              exact absurd hblank (by decide)
        rw [if_pos hblank, hblank, ih (n + 1)]
        simp [fieldsFrom_cons, hparse]
      · rw [if_neg hblank, eq_false_of_ne_true hblank]
        by_cases hle : Text.indentation text ≤ parent
        · simp [hle]
        · simp only [hle, decide_false, Bool.not_false, Bool.and_false, if_true, if_false,
            fieldsFrom_cons, List.filter_append, List.map_append, ← ih (n + 1)]
          -- A field line is indented like its text.
          cases hfield : FieldLine.parse? text with
          | none => simp
          | some field =>
              have hindent := FieldLine.indent_of_parse? hfield
              by_cases hstep : Text.indentation text = parent + indentStep
              · simp [hstep, hindent]
              · simp [hstep, hindent]

/-- As far as the items of a list pass a test, taking while they pass keeps them. -/
theorem getElem?_takeWhile {α : Type} {test : α → Bool} {xs : List α} {i : Nat}
    (h : ∀ j ≤ i, ∀ x, xs[j]? = some x → test x = true) : (xs.takeWhile test)[i]? = xs[i]? := by
  induction xs generalizing i with
  | nil => rfl
  | cons x xs ih =>
      rw [List.takeWhile_cons_of_pos (h 0 (Nat.zero_le i) x rfl)]
      cases i with
      | zero => rfl
      | succ i =>
          rw [List.getElem?_cons_succ, List.getElem?_cons_succ]
          exact ih fun j hj y hy => h (j + 1) (Nat.succ_le_succ hj) y hy

/-- What is taken while a test passes are the first items, as far as they pass it. -/
theorem getElem?_takeWhile_eq_some_iff {α : Type} {test : α → Bool} {xs : List α} {i : Nat}
    {x : α} : (xs.takeWhile test)[i]? = some x
      ↔ xs[i]? = some x ∧ ∀ j ≤ i, ∀ y, xs[j]? = some y → test y = true := by
  constructor
  · intro hx
    have htaken : ∀ j ≤ i, xs[j]? = (xs.takeWhile test)[j]? := by
      intro j hj
      have hlt := Nat.lt_of_le_of_lt hj (List.getElem?_eq_some_iff.mp hx).1
      calc xs[j]? = (xs.takeWhile test ++ xs.dropWhile test)[j]? := by
            rw [List.takeWhile_append_dropWhile]
        _ = (xs.takeWhile test)[j]? := List.getElem?_append_left hlt
    refine ⟨(htaken i (Nat.le_refl i)).trans hx, fun j hj y hy => ?_⟩
    rw [htaken j hj] at hy
    exact List.all_eq_true.mp List.all_takeWhile y (List.mem_of_getElem? hy)
  · rintro ⟨hx, hpass⟩
    rw [getElem?_takeWhile hpass, hx]

namespace Block

variable {b : Block} {n : Nat} {f g : OutlineField} {p : PlacedField} {text key : Text}

/-- Whether a line that ends the scan for the children of a key's line stands between that line and
one below. -/
def CutOff (b : Block) (keyLine n : Nat) : Prop :=
  ∃ key j text, b.lines[keyLine]? = some key ∧ keyLine < j ∧ j < n ∧ b.lines[j]? = some text
    ∧ endsScan (Text.indentation key) text = true

/-- Whether a field is one step below the line of a key and not cut off from it. -/
def IsChildLine (b : Block) (keyLine : Nat) (p : PlacedField) : Prop :=
  p ∈ b.fields ∧ keyLine < p.line
    ∧ (∃ text, b.lines[keyLine]? = some text
        ∧ p.field.indent = Text.indentation text + indentStep)
    ∧ ¬ b.CutOff keyLine p.line

/-- The lines that may cut off a field are those between the two, which are finitely many. -/
instance (b : Block) (keyLine n : Nat) : Decidable (b.CutOff keyLine n) :=
  decidable_of_iff (∃ key ∈ b.lines[keyLine]?, ∃ j, j < n ∧ keyLine < j ∧
      ∃ text ∈ b.lines[j]?, endsScan (Text.indentation key) text = true) <| by
    constructor
    · rintro ⟨key, hkey, j, hjn, hlt, text, htext, hends⟩
      exact ⟨key, j, text, hkey, hlt, hjn, htext, hends⟩
    · rintro ⟨key, j, text, hkey, hlt, hjn, htext, hends⟩
      exact ⟨key, hkey, j, hjn, hlt, text, htext, hends⟩

/-- Whether a field is a child of a key is tested part by part. -/
instance (b : Block) (keyLine : Nat) : DecidablePred (b.IsChildLine keyLine) := fun p =>
  inferInstanceAs (Decidable (p ∈ b.fields ∧ keyLine < p.line
    ∧ (∃ text ∈ b.lines[keyLine]?, p.field.indent = Text.indentation text + indentStep)
    ∧ ¬ b.CutOff keyLine p.line))

/-- The scan for the children of a line goes over the lines inside the block below it. -/
theorem scannedKeys_eq (h : b.interiorText? n = some text) :
    b.scannedKeys n
      = scanChildKeys (Text.indentation text) (b.inside.drop (n - b.span.first)) := by
  have hfirst := first_lt_of_interiorText? h
  have hbelow : b.span.first + 1 + (n - b.span.first) = n + 1 := by omega
  rw [scannedKeys, (interiorText?_eq_some_iff.mp h).2, inside, List.drop_drop, hbelow]

/-- A line between the delimiters is not cut off exactly if no line between the two ends the
scan. -/
theorem not_cutOff_iff (htext : b.interiorText? n = some text) {m : Nat} {line : Text}
    (hline : b.interiorText? m = some line) :
    ¬ b.CutOff n m ↔ ∀ j l, n < j → j < m → b.interiorText? j = some l →
      endsScan (Text.indentation text) l = false := by
  have hget := (interiorText?_eq_some_iff.mp htext).2
  have hbetween : ∀ j, n < j → j < m → b.interiorText? j = b.lines[j]? := by
    intro j hnj hjm
    have hfirst := Nat.lt_trans (first_lt_of_interiorText? htext) hnj
    have hlast := Nat.lt_trans hjm (lt_last_of_interiorText? hline)
    exact if_pos (BlockSpan.contains_iff.mpr ⟨hfirst, hlast⟩)
  constructor
  · intro hcut j l hnj hjm hl
    rw [hbetween j hnj hjm] at hl
    exact eq_false_of_ne_true fun hends => hcut ⟨text, j, l, hget, hnj, hjm, hl, hends⟩
  · rintro hpass ⟨key, j, l, hkey, hnj, hjm, hl, hends⟩
    obtain rfl : text = key := Option.some.inj (hget.symm.trans hkey)
    rw [← hbetween j hnj hjm] at hl
    exact absurd hends (by simp [hpass j l hnj hjm hl])

/-- The scan goes over the lines that neither end it nor are cut off. -/
theorem getElem?_scanned (htext : b.interiorText? n = some text) {i : Nat} {line : Text} :
    ((b.inside.drop (n - b.span.first)).takeWhile
          fun l => !endsScan (Text.indentation text) l)[i]? = some line
      ↔ b.interiorText? (n + 1 + i) = some line
        ∧ endsScan (Text.indentation text) line = false ∧ ¬ b.CutOff n (n + 1 + i) := by
  have hbelow := getElem?_drop_inside (first_lt_of_interiorText? htext)
  rw [getElem?_takeWhile_eq_some_iff, hbelow]
  refine and_congr_right fun hline => ?_
  rw [not_cutOff_iff htext hline]
  constructor
  · intro hpass
    refine ⟨by simpa using hpass i (Nat.le_refl i) line (by rw [hbelow, hline]), ?_⟩
    intro j l hnj hjm hl
    obtain ⟨k, rfl⟩ := Nat.exists_eq_add_of_lt hnj
    rw [Nat.add_right_comm] at hl
    simpa using hpass k (by omega) l (by rw [hbelow, hl])
  · rintro ⟨hends, hpass⟩ j hj l hl
    rw [hbelow] at hl
    rcases Nat.lt_or_eq_of_le hj with hj | rfl
    · rw [hpass (n + 1 + j) l (by omega) (by omega) hl, Bool.not_false]
    · obtain rfl : line = l := Option.some.inj (hline.symm.trans hl)
      rw [hends, Bool.not_false]

/-- The fields one step deeper among the lines that are scanned are the child lines. -/
theorem mem_scanned_iff (htext : b.interiorText? n = some text) :
    p ∈ (fieldsFrom (n + 1) ((b.inside.drop (n - b.span.first)).takeWhile
          fun l => !endsScan (Text.indentation text) l)).filter
        (·.field.indent = Text.indentation text + indentStep)
      ↔ b.IsChildLine n p := by
  have hget := (interiorText?_eq_some_iff.mp htext).2
  rw [List.mem_filter, decide_eq_true_eq, mem_fieldsFrom]
  constructor
  · -- A field that is scanned is a child line if it is one step deeper.
    rintro ⟨⟨i, line, hi, hpline, hfield⟩, hindent⟩
    obtain ⟨hline, -, hcut⟩ := (getElem?_scanned htext).mp hi
    rw [← hpline] at hline hcut
    exact ⟨mem_fields.mpr ⟨line, hline, hfield⟩, by omega, ⟨text, hget, hindent⟩, hcut⟩
  · -- A child line is scanned: it is not cut off, and it is deeper than the key.
    rintro ⟨hp, hlt, ⟨text', hget', hindent⟩, hcut⟩
    obtain rfl : text = text' := Option.some.inj (hget.symm.trans hget')
    obtain ⟨line, hline, hfield⟩ := mem_fields.mp hp
    obtain ⟨i, hi⟩ := Nat.exists_eq_add_of_lt hlt
    have hpline : p.line = n + 1 + i := by omega
    have hends : endsScan (Text.indentation text) line = false := by
      rw [FieldLine.indent_of_parse? hfield] at hindent
      simp [endsScan, hindent, indentStep]
    rw [hpline] at hline hcut
    exact ⟨⟨i, line, (getElem?_scanned htext).mpr ⟨hline, hends, hcut⟩, hpline, hfield⟩, hindent⟩

/-- The scan for the children of a key's line finds the keys of the child lines from the top, each
as often as there are such lines. -/
theorem scannedKeys_eq_map_filter (htext : b.interiorText? n = some text) :
    b.scannedKeys n = (b.fields.filter (b.IsChildLine n)).map (·.field.key) := by
  rw [scannedKeys_eq htext, scanChildKeys_eq _ (n + 1)]
  congr 1
  refine eq_of_pairwise_of_mem_iff ((pairwise_fieldsFrom _ _).filter _)
    (b.pairwise_fields.filter _) fun p => ?_
  rw [mem_scanned_iff htext, List.mem_filter, decide_eq_true_eq]
  exact ⟨fun h => ⟨h.1, h⟩, And.right⟩

/-- **The scan for the children of a key's line finds the keys of the child lines and no
others.** -/
theorem mem_scannedKeys_iff (htext : b.interiorText? n = some text) :
    key ∈ b.scannedKeys n ↔ ∃ p, b.IsChildLine n p ∧ p.field.key = key := by
  rw [scannedKeys_eq_map_filter htext, List.mem_map]
  refine exists_congr fun p => and_congr_left fun _ => ?_
  rw [List.mem_filter, decide_eq_true_eq]
  exact ⟨And.right, fun h => ⟨h.1, h⟩⟩

/-- Keys that the scan for children finds are existing ones. -/
theorem scannedKeys_subset_existingKeys (b : Block) (c : Context) :
    b.scannedKeys c.keyLine ⊆ b.existingKeys c := by
  rw [existingKeys]
  intro k hk
  rwa [if_neg (List.ne_nil_of_mem hk)]

/-! ## Parents -/

/-- Whether a field is the parent of another: the nearest one above it that is indented one step
less. -/
def IsParent (b : Block) (g f : OutlineField) : Prop :=
  g ∈ b.outline ∧ g.line < f.line ∧ f.field.indent = g.field.indent + indentStep
    ∧ ∀ h ∈ b.outline, h.line < f.line → h.field.indent = g.field.indent → h.line ≤ g.line

/-- The path of a field is its key below the fields that an ascent from its parent's indentation
meets. -/
theorem pathOf_eq_keyPath (b : Block) (p : PlacedField) :
    b.pathOf p
      = keyPath p.field.key (ascend (parentIndent p.field.indent) (b.fieldsAbove p.line)) := by
  rw [pathOf, lineage, chainPath_cons]

/-- The path of a field is its key, or its parent's path and its key. -/
theorem path_eq_of_mem_outline (hf : f ∈ b.outline) :
    f.path = f.field.key ∨ ∃ g, b.IsParent g f ∧ f.path = g.path.child f.field.key := by
  obtain ⟨p, hp, rfl⟩ := mem_outline.mp hf
  have hpath := b.pathOf_eq_keyPath p
  by_cases hstep : indentStep ≤ p.field.indent
  · rw [parentIndent, if_pos hstep] at hpath
    rcases b.ascend_fieldsAbove p.line (p.field.indent - indentStep) with
      ⟨hnil, -⟩ | ⟨q, hq, hlt, hindent, hnearest, hascend⟩
    · rw [hnil] at hpath
      exact .inl hpath
    · rw [hascend] at hpath
      refine .inr ⟨_, ⟨mem_outline.mpr ⟨q, hq, rfl⟩, hlt, ?_, ?_⟩, hpath⟩
      · show p.field.indent = q.field.indent + indentStep
        omega
      · intro h hh hhlt hhindent
        obtain ⟨r, hr, rfl⟩ := mem_outline.mp hh
        exact hnearest r hr hhlt (hhindent.trans hindent)
  · rw [parentIndent, if_neg hstep, ascend_none] at hpath
    exact .inl hpath

/-- A line has one field at most. -/
theorem eq_of_line_eq {q : PlacedField} (hp : p ∈ b.fields) (hq : q ∈ b.fields)
    (hline : p.line = q.line) : p = q := by
  have hfound := (find?_number_eq_some_iff b.pairwise_fields).mpr ⟨hp, hline⟩
  exact Option.some.inj (hfound.symm.trans
    ((find?_number_eq_some_iff b.pairwise_fields).mpr ⟨hq, rfl⟩))

/-- The path of a field that has a parent is the parent's path and its key. -/
theorem path_eq_of_isParent (hf : f ∈ b.outline) (hg : b.IsParent g f) :
    f.path = g.path.child f.field.key := by
  obtain ⟨p, hp, rfl⟩ := mem_outline.mp hf
  obtain ⟨hmem, hlt, hindent, hnearest⟩ := hg
  obtain ⟨q, hq, rfl⟩ := mem_outline.mp hmem
  change p.field.indent = q.field.indent + indentStep at hindent
  have hpath := b.pathOf_eq_keyPath p
  rw [parentIndent, if_pos (by omega), hindent, Nat.add_sub_cancel] at hpath
  rcases b.ascend_fieldsAbove p.line q.field.indent with
    ⟨-, hno⟩ | ⟨r, hr, hrlt, hrindent, hrnearest, hascend⟩
  · exact absurd rfl (hno q hq hlt)
  · -- An ascent meets the nearest field at the indentation, and that is the parent.
    have hle : r.line ≤ q.line := hnearest _ (mem_outline.mpr ⟨r, hr, rfl⟩) hrlt hrindent
    obtain rfl : q = r := eq_of_line_eq hq hr (Nat.le_antisymm (hrnearest q hq hlt rfl) hle)
    rw [hascend] at hpath
    exact hpath

/-- The field on a key's line is the parent of the child lines. -/
theorem IsChildLine.isParent {q : PlacedField} (hq : q ∈ b.fields) (hp : b.IsChildLine q.line p) :
    b.IsParent ⟨q.line, b.pathOf q, q.field⟩ ⟨p.line, b.pathOf p, p.field⟩ := by
  obtain ⟨hmem, hlt, ⟨text, hget, hindent⟩, hcut⟩ := hp
  obtain ⟨text', htext, hfield⟩ := mem_fields.mp hq
  obtain rfl : text' = text :=
    Option.some.inj ((interiorText?_eq_some_iff.mp htext).2.symm.trans hget)
  rw [← FieldLine.indent_of_parse? hfield] at hindent
  refine ⟨mem_outline.mpr ⟨q, hq, rfl⟩, hlt, hindent, fun h hh hhlt hhindent => ?_⟩
  -- A field between the two at the indentation of the first would cut off the second.
  obtain ⟨r, hr, rfl⟩ := mem_outline.mp hh
  obtain ⟨line, hline, hrfield⟩ := mem_fields.mp hr
  by_contra hnot
  refine hcut ⟨text', r.line, line, hget, Nat.not_le.mp hnot, hhlt,
    (interiorText?_eq_some_iff.mp hline).2, ?_⟩
  change r.field.indent = q.field.indent at hhindent
  rw [endsScan, FieldLine.isBlankLine_eq_false_of_parse? hrfield,
    ← FieldLine.indent_of_parse? hrfield, ← FieldLine.indent_of_parse? hfield, hhindent]
  simp

/-- A field is among the existing keys below its parent's line unless it is cut off from it. -/
theorem mem_existingKeys {c : Context} (hf : f ∈ b.outline) (hg : b.IsParent g f)
    (hline : g.line = c.keyLine) (hcut : ¬ b.CutOff c.keyLine f.line) :
    f.field.key ∈ b.existingKeys c := by
  obtain ⟨p, hp, rfl⟩ := mem_outline.mp hf
  obtain ⟨hmem, hlt, hindent, -⟩ := hg
  obtain ⟨q, hq, rfl⟩ := mem_outline.mp hmem
  obtain ⟨text, htext, hfield⟩ := mem_fields.mp hq
  have hget := (interiorText?_eq_some_iff.mp htext).2
  rw [FieldLine.indent_of_parse? hfield] at hindent
  apply b.scannedKeys_subset_existingKeys c
  rw [← hline] at hcut ⊢
  exact (mem_scannedKeys_iff htext).mpr ⟨p, ⟨hp, hlt, ⟨text, hget, hindent⟩, hcut⟩, rfl⟩

/-- **The scan for the children of a cursor's key line finds the keys of the child lines, from the
top and each as often as there are such lines.** The field on the key line is their parent and has
the cursor's path, so that their own paths are longer by their keys. A cursor on them resolves to
these. If there are such lines, their keys are the existing ones. -/
theorem scan_agrees_with_resolution {line column : Nat} {c : Context}
    (hc : b.resolve? line column = some c) :
    b.scannedKeys c.keyLine
        = (b.outline.filter fun f => b.IsChildLine c.keyLine ⟨f.line, f.field⟩).map (·.field.key)
      ∧ (∃ g ∈ b.outline, g.line = c.keyLine ∧ g.path = c.path
        ∧ ∀ f ∈ b.outline, b.IsChildLine c.keyLine ⟨f.line, f.field⟩ →
            b.IsParent g f ∧ f.path = c.path.child f.field.key
              ∧ ∀ column', ∃ c', b.resolve? f.line column' = some c' ∧ c'.path = f.path)
      ∧ (b.scannedKeys c.keyLine ≠ [] → b.existingKeys c = b.scannedKeys c.keyLine) := by
  obtain ⟨text, hres⟩ := resolution_of_resolve? hc
  obtain ⟨q, hq, hline, hpath, -⟩ := hres.exists_field
  obtain ⟨keyText, hkeyText, -⟩ := mem_fields.mp hq
  rw [← hline, ← hpath]
  refine ⟨?_, ⟨_, mem_outline.mpr ⟨q, hq, rfl⟩, rfl, rfl, fun f hf hchild => ?_⟩, fun hne => ?_⟩
  · rw [scannedKeys_eq_map_filter hkeyText, outline_eq_map, List.filter_map, List.map_map]
    rfl
  · obtain ⟨p, hp, rfl⟩ := mem_outline.mp hf
    have hparent := IsChildLine.isParent hq hchild
    refine ⟨hparent, path_eq_of_isParent hf hparent, fun column' => ?_⟩
    obtain ⟨c', hc', -, -, hpath'⟩ := exists_resolve?_of_mem_fields hp column'
    exact ⟨c', hc', hpath'⟩
  · rw [existingKeys, ← hline, if_neg hne]

/-- A document in which a key stands twice below a field and again below another, with uneven lines,
a note and a half typed key among the fields. -/
def scatteredDocument : Text :=
  "---\na:\n  x:\n     y: 1\n\n  x: 2\n   # note\n  z: 3\nab\n  w: 4\nb: 5\n  x: 6\n---".toList

/-- The half typed key is about the first field, whose children up to that key are found: not the
deeper one, not the one behind the half typed key and not the one of the other field. -/
theorem scan_agrees_with_resolution_in_scatteredDocument :
    ∃ b c, parse? scatteredDocument defaultDelimiter = some b ∧ b.resolve? 8 2 = some c
      ∧ c.kind = .placeholder ∧ c.keyLine = 1 ∧ b.scannedKeys c.keyLine = ["x", "x", "z"]
      ∧ b.existingKeys c = ["x", "x", "z"]
      ∧ ∀ f ∈ b.outline, b.IsChildLine c.keyLine ⟨f.line, f.field⟩ →
          f.path = c.path.child f.field.key := by
  obtain ⟨b, hb, hresolved, hscan⟩ : ∃ b, parse? scatteredDocument defaultDelimiter = some b
      ∧ (b.resolve? 8 2).map (fun c => (c.kind, c.keyLine)) = some (.placeholder, 1)
      ∧ b.scannedKeys 1 = ["x", "x", "z"] := ⟨_, rfl, by decide +kernel, by decide +kernel⟩
  obtain ⟨c, hc, heq⟩ := Option.map_eq_some_iff.mp hresolved
  obtain ⟨hkind, hkeyLine⟩ := Prod.mk.inj heq
  rw [← hkeyLine] at hscan
  obtain ⟨-, ⟨g, -, -, -, hchild⟩, hexisting⟩ := scan_agrees_with_resolution hc
  exact ⟨b, c, hb, hc, hkind, hkeyLine, hscan, (hexisting (by simp [hscan])).trans hscan,
    fun f hf hline => (hchild f hf hline).2.1⟩

end Block

end Frontmatter
