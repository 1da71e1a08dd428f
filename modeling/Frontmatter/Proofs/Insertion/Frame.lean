import Frontmatter.Proofs.Block.Nesting
import Frontmatter.Proofs.Insertion.InsertedKeys

/-! # What an insertion leaves alone

The fields of a document are still there when keys have been inserted, and those above the keys keep
their paths. A field below keeps its path unless an ascent from it still expects the indentation of
the keys when it has passed everything below the cursor. In well nested blocks this is what
`Context.Captures` says, and `existing_fields_keep_paths` tells the paths before and after. -/

namespace Frontmatter

/-- Whether keys that are inserted at a context come between a line below and its ancestors: the
fields down to the line are all deeper than the keys, and one of them by a single step. -/
def Context.Captures (c : Context) (b : Block) (n : Nat) : Prop :=
  c.line < n ∧ (∀ q ∈ b.fields, c.line < q.line → q.line ≤ n → c.indent + 4 ≤ q.field.indent)
    ∧ ∃ q ∈ b.fields, c.line < q.line ∧ q.line ≤ n ∧ q.field.indent = c.indent + 4

/-- Capturing is tested on the fields of the block. -/
instance (c : Context) (b : Block) (n : Nat) : Decidable (c.Captures b n) := by
  unfold Context.Captures
  infer_instance

namespace Insertion

variable {b b' : Block} {n column d : Nat} {text : Text} {c : Context} {keys : List Text}
  {above between after : List PlacedField} {p : PlacedField}

/-! ## Paths across the insertion -/

/-- The path of a field below the cursor, before the insertion. -/
theorem pathOf_below (hfields : b.fields = above.reverse ++ (between ++ p :: after)) :
    b.pathOf p = chainPath (lineage between.reverse p
      ++ ascend (expectedAfter (parentIndent p.field.indent) between.reverse) above) := by
  rw [← List.append_assoc] at hfields
  rw [Block.pathOf, Block.fieldsAbove_line hfields, List.reverse_append, List.reverse_reverse,
    lineage_append]

/-- The path of a field below the cursor, after the insertion. -/
theorem pathOf_moved (hfields : b'.fields = above.reverse ++ keyFields c keys
      ++ (between ++ p :: after).map (·.moved d)) :
    b'.pathOf (p.moved d) = chainPath (lineage between.reverse p
      ++ ascend (expectedAfter (parentIndent p.field.indent) between.reverse)
        ((keyFields c keys).reverse ++ above)) := by
  rw [List.map_append, List.map_cons, ← List.append_assoc] at hfields
  rw [Block.pathOf, Block.fieldsAbove_line hfields, List.reverse_append, List.reverse_append,
    List.reverse_reverse, ← List.map_reverse, lineage_append, expectedAfter_map_moved,
    PlacedField.moved_field, lineage, ascend_map_moved]
  simp [chainPath, lineage, Function.comp_def]

/-- A field below the cursor keeps its path unless it expects the indentation of the keys. -/
theorem pathOf_moved_of_ne (hfields : b.fields = above.reverse ++ (between ++ p :: after))
    (hfields' : b'.fields = above.reverse ++ keyFields c keys
      ++ (between ++ p :: after).map (·.moved d))
    (hkeys : ∀ k ∈ keys, IsKey k)
    (hne : expectedAfter (parentIndent p.field.indent) between.reverse ≠ some (c.indent + 2)) :
    b'.pathOf (p.moved d) = b.pathOf p := by
  rw [pathOf_below hfields, pathOf_moved hfields']
  cases hexpected : expectedAfter (parentIndent p.field.indent) between.reverse with
  | none => rw [ascend_none, ascend_none]
  | some v =>
      rw [hexpected] at hne
      rw [ascend_keyFields hkeys fun hv => hne (by rw [hv])]

/-- A field below the cursor that expects the indentation of the keys comes below the last key. -/
theorem pathOf_moved_of_eq {hne : keys ≠ []} (hfields' : b'.fields = above.reverse
      ++ keyFields c keys ++ (between ++ p :: after).map (·.moved d))
    (hkeys : ∀ k ∈ keys, IsKey k)
    (hpath : chainPath? (ascend (some c.indent) above) = some c.path)
    (heq : expectedAfter (parentIndent p.field.indent) between.reverse = some (c.indent + 2)) :
    b'.pathOf (p.moved d)
      = (c.path.child (keys.getLast hne)).child (chainPath (lineage between.reverse p)) := by
  obtain ⟨before, last, rfl⟩ : ∃ before last, keys = before ++ [last] :=
    ⟨_, _, (List.dropLast_concat_getLast hne).symm⟩
  have hbefore : ∀ k ∈ before, IsKey k := fun k hk => hkeys k (List.mem_append_left _ hk)
  have hlast : (keyFields c (before ++ [last])).reverse
      = keyField c before.length last :: (keyFields c before).reverse := by
    rw [keyFields_append_cons hkeys]
    simp
  have hindent : (keyField c before.length last).field.indent = c.indent + 2 := rfl
  rw [pathOf_moved hfields', heq, hlast, List.cons_append, ascend_cons, if_pos hindent,
    chainPath_append (lineage_ne_nil _ _) (lineage_ne_nil _ _), chainPath_keyField hbefore hpath,
    List.getLast_concat]

/-! ## Captured lines -/

/-- The fields from one below a line up to that line. -/
theorem mem_cons_reverse_iff (hsplit : b.fieldsBelow n = between ++ p :: after) {q : PlacedField} :
    q ∈ p :: between.reverse ↔ q ∈ b.fields ∧ n < q.line ∧ q.line ≤ p.line := by
  have hsorted : (b.fieldsBelow n).Pairwise (·.line < ·.line) := b.pairwise_fields.filter _
  rw [hsplit, List.pairwise_append] at hsorted
  obtain ⟨-, hafter, hbetween⟩ := hsorted
  rw [← and_assoc, ← Block.mem_fieldsBelow, hsplit, List.mem_append, List.mem_cons, List.mem_cons,
    List.mem_reverse]
  constructor
  · rintro (rfl | hq)
    · exact ⟨.inr (.inl rfl), Nat.le_refl _⟩
    · exact ⟨.inl hq, Nat.le_of_lt (hbetween q hq p List.mem_cons_self)⟩
  · rintro ⟨hq | rfl | hq, hle⟩
    · exact .inr hq
    · exact .inl rfl
    · exact absurd ((List.pairwise_cons.mp hafter).1 q hq) (Nat.not_lt.mpr hle)

/-- Going upwards from a field below the cursor climbs, across the cursor too. -/
theorem climbing_of_split (hnested : WellNested b.fields) (hres : b.Resolution n column text c)
    (hsplit : b.fieldsBelow c.line = between ++ p :: after) :
    Climbing (p :: between.reverse ++ b.fieldsAbove c.insertionLine) := by
  have hfields := hres.fields_eq_above_below
  rw [hsplit, ← List.append_assoc] at hfields
  simpa using hnested.climbing hfields

/-- A field below the cursor expects the indentation of the keys if and only if its line is
captured. -/
theorem captures_iff (hnested : WellNested b.fields) (hres : b.Resolution n column text c)
    (hsplit : b.fieldsBelow c.line = between ++ p :: after) :
    c.Captures b p.line
      ↔ expectedAfter (parentIndent p.field.indent) between.reverse = some (c.indent + 2) := by
  have hlt : c.line < p.line := ((mem_cons_reverse_iff hsplit).mp List.mem_cons_self).2.1
  rw [(climbing_of_split hnested hres hsplit).left_of_append.expectedAfter_eq_some_iff]
  simp only [mem_cons_reverse_iff hsplit, and_imp, and_assoc]
  exact and_iff_right hlt

/-- Above a captured line stands a field as deep as the keys that is a child of the context, and
what stands right above the cursor is no shallower. -/
theorem exists_captured_parent (hclimb : Climbing (p :: between.reverse ++ above))
    (hdeep : ∀ q ∈ p :: between.reverse, c.indent + 4 ≤ q.field.indent)
    (hpath : chainPath? (ascend (some c.indent) above) = some c.path) :
    ∃ passed q rest, above = passed ++ q :: rest ∧ q.field.indent = c.indent + 2
      ∧ (∀ r ∈ above.head?, c.indent + 2 ≤ r.field.indent)
      ∧ ascend (some (c.indent + 2)) above = lineage rest q
      ∧ chainPath (lineage rest q) = c.path.child q.field.key := by
  obtain ⟨lower, r, hlower⟩ : ∃ lower r, p :: between.reverse = lower ++ [r] :=
    ⟨_, _, (List.dropLast_concat_getLast (List.cons_ne_nil _ _)).symm⟩
  have hr : c.indent + 2 + 2 ≤ r.field.indent := hdeep r (by rw [hlower]; simp)
  rw [hlower, List.append_assoc, List.singleton_append] at hclimb
  -- The context's own key stands above, so the ascent cannot miss the indentation of the keys.
  have hkey : ∃ q ∈ above, q.field.indent = c.indent := by
    rcases ascend_eq_nil_or_lineage c.indent above with ⟨hnil, -⟩ | ⟨passed, q, rest, rfl, hq, -⟩
    · rw [hnil] at hpath
      exact absurd hpath (by simp [chainPath?])
    · exact ⟨q, by simp, hq⟩
  obtain ⟨k, hk, hkindent⟩ := hkey
  have heven : c.indent % 2 = 0 := by
    rw [← hkindent]
    exact hclimb.right_of_append.even k (List.mem_cons_of_mem r hk)
  obtain ⟨passed, q, rest, rfl, hq, hpassed⟩ :=
    hclimb.right_of_append.exists_eq_append (e := c.indent + 2) (by omega) hr
      ⟨k, hk, by omega⟩
  have hne : ∀ s ∈ passed, s.field.indent ≠ c.indent + 2 := by
    intro s hs
    have hle := hpassed s hs
    omega
  refine ⟨passed, q, rest, rfl, hq, ?_, ?_, ?_⟩
  · intro s hs
    cases passed with
    | nil =>
        obtain rfl : q = s := by simpa using hs
        omega
    | cons t passed =>
        obtain rfl : t = s := by simpa using hs
        have hle := hpassed t (by simp)
        omega
  · rw [ascend_append_of_forall_ne hne, ascend_cons, if_pos hq]
  · have hrest : ascend (some c.indent) (passed ++ q :: rest) = ascend (some c.indent) rest := by
      rw [ascend_append_of_forall_ne, ascend_cons, if_neg (by omega)]
      intro s hs
      have hle := hpassed s hs
      omega
    have hparent : parentIndent q.field.indent = some c.indent := by
      rw [hq]
      exact if_pos (Nat.le_add_left 2 c.indent)
    rw [lineage, chainPath_cons, hparent, ← hrest, keyPath, hpath]

/-! ## The outline after an insertion -/

/-- Keys are inserted no further down than below the line of the cursor. -/
theorem insertionLine_le (c : Context) : c.insertionLine ≤ c.line + 1 := by
  rw [Context.insertionLine]
  cases c.kind
  · exact Nat.le_refl _
  · exact Nat.le_succ _

/-- A field above the cursor keeps its path. -/
theorem pathOf_above {keyed : List PlacedField}
    (hfields' : b'.fields = (b.fieldsAbove n).reverse ++ keyed) (hp : p ∈ b.fieldsAbove n) :
    p ∈ b'.fields ∧ b'.pathOf p = b.pathOf p := by
  obtain ⟨passed, rest, hsplit⟩ := List.append_of_mem hp
  rw [hsplit, List.reverse_append, List.reverse_cons, List.append_assoc, List.append_assoc,
    List.singleton_append] at hfields'
  refine ⟨by rw [hfields']; simp, ?_⟩
  rw [Block.pathOf, Block.pathOf, Block.fieldsAbove_line hfields', List.reverse_reverse,
    Block.fieldsAbove_line_of_eq hsplit]

/-- A captured line stands below a placeholder. Above the placeholder stands a child of the context
that leads to it. -/
theorem exists_parent_of_captures (hnested : WellNested b.fields)
    (hres : b.Resolution n column text c) (hsplit : b.fieldsBelow c.line = between ++ p :: after)
    (hcaptures : c.Captures b p.line) :
    c.kind = .placeholder ∧ ∃ q ∈ b.fields, q.line < c.line ∧ q.field.indent = c.indent + 2
      ∧ b.pathOf q = c.path.child q.field.key
      ∧ b.pathOf p = (b.pathOf q).child (chainPath (lineage between.reverse p)) := by
  have hdeep : ∀ q ∈ p :: between.reverse, c.indent + 4 ≤ q.field.indent := by
    intro q hq
    obtain ⟨hmem, hlt, hle⟩ := (mem_cons_reverse_iff hsplit).mp hq
    exact hcaptures.2.1 q hmem hlt hle
  obtain ⟨passed, q, rest, hpassed, hindent, hhead, hascend, hchain⟩ :=
    exists_captured_parent (climbing_of_split hnested hres hsplit) hdeep hres.ascend_path
  have hpath : b.pathOf q = chainPath (lineage rest q) := by
    rw [Block.pathOf, Block.fieldsAbove_line_of_eq hpassed]
  have hkind : c.kind = .placeholder := by
    cases hparse : FieldLine.parse? text with
    | none =>
        rw [hres.kind_eq, hparse]
        rfl
    | some field =>
        -- The field of the cursor would be too shallow to stand right above.
        have hle : c.indent + 2 ≤ field.indent :=
          hhead ⟨n, field⟩ (by rw [hres.fieldsAbove_of_field hparse]; rfl)
        rw [FieldLine.indent_of_parse? hparse, ← hres.indent_eq] at hle
        omega
  have hline : c.insertionLine = c.line := by rw [Context.insertionLine, hkind]
  have hq : q ∈ b.fieldsAbove c.insertionLine := by
    rw [hpassed]
    simp
  obtain ⟨hmem, hlt⟩ := Block.mem_fieldsAbove.mp hq
  rw [hline] at hlt
  have hfields := hres.fields_eq_above_below
  rw [hsplit] at hfields
  refine ⟨hkind, q, hmem, hlt, hindent, by rw [hpath, hchain], ?_⟩
  rw [pathOf_below hfields, (captures_iff hnested hres hsplit).mp hcaptures, hascend,
    chainPath_append (lineage_ne_nil _ _) (lineage_ne_nil _ _), hpath]

/-- The default delimiter is no key with a colon. -/
theorem append_colon_ne_defaultDelimiter (key : Text) : key ++ [':'] ≠ defaultDelimiter := by
  intro h
  have hlast := congrArg List.getLast? h
  rw [List.getLast?_concat] at hlast
  exact absurd hlast (by decide)

/-- Inserting keys into a well nested block keeps every field line, on its own line or moved down by
the lines that came in, with the same key and value. It keeps its path too unless it is captured. A
captured field line stands below a placeholder, and had an ancestor there that is a child of the
context; in its path the last key inserted takes the place of that ancestor. -/
theorem existing_fields_keep_paths {source : Text} {b : Block} {n column : Nat} {c : Context}
    {keys : List Text} (hreturn : '\r' ∉ source)
    (hb : Block.parse? source defaultDelimiter = some b) (hnested : WellNested b.fields)
    (hc : b.resolve? n column = some c) (hne : keys ≠ []) (hkeys : ∀ k ∈ keys, IsKey k) :
    ∃ i new b', ofKeys? c keys true = some i ∧ i.applied? source = some new
      ∧ Block.parse? new defaultDelimiter = some b'
      ∧ ∀ f ∈ b.outline, ∃ g ∈ b'.outline,
          g.line = (if f.line < c.insertionLine then f.line else f.line + growth c keys)
          ∧ g.field = f.field
          ∧ (¬ c.Captures b f.line → g.path = f.path)
          ∧ (c.Captures b f.line → c.kind = .placeholder
              ∧ ∃ a ∈ b.outline, a.line < c.line ∧ a.field.indent = c.indent + 2
                ∧ a.path = c.path.child a.field.key
                ∧ ∃ rest, f.path = a.path.child rest
                  ∧ g.path = (c.path.child (keys.getLast hne)).child rest) := by
  obtain ⟨text, hres⟩ := Block.resolution_of_resolve? hc
  have hend : ∀ l ∈ Text.lines source, l.getLast? ≠ some '\r' := fun l hl hlast =>
    hreturn (Text.subset_of_mem_lines hl (List.mem_of_getLast? hlast))
  obtain ⟨i, new, b', hi, hnew, -, hb', hfields'⟩ := exists_block_of_ofKeys? hb hc hend hne hkeys
    fun k _ => append_colon_ne_defaultDelimiter k
  refine ⟨i, new, b', hi, hnew, hb', ?_⟩
  intro f hf
  obtain ⟨p, hp, rfl⟩ := Block.mem_outline.mp hf
  rw [hres.fields_eq_above_below, List.mem_append, List.mem_reverse] at hp
  rcases hp with hp | hp
  · -- What stands above the keys is as it was.
    have hlt := (Block.mem_fieldsAbove.mp hp).2
    rw [List.append_assoc] at hfields'
    obtain ⟨hmem, hpath⟩ := pathOf_above hfields' hp
    refine ⟨_, Block.mem_outline.mpr ⟨p, hmem, rfl⟩, (if_pos hlt).symm, rfl, fun _ => hpath, ?_⟩
    have hle := insertionLine_le c
    rintro ⟨hcaptured, -⟩
    have hcaptured : c.line < p.line := hcaptured
    omega
  · -- What stands below the cursor has moved down, and its ascent now meets the keys.
    have hlt := (Block.mem_fieldsBelow.mp hp).2
    have hmem : p.moved (growth c keys) ∈ b'.fields := by
      rw [hfields']
      exact List.mem_append_right _ (List.mem_map_of_mem hp)
    have hline : ¬ p.line < c.insertionLine := by
      have hle := insertionLine_le c
      omega
    obtain ⟨between, after, hsplit⟩ := List.append_of_mem hp
    have hfields := hres.fields_eq_above_below
    rw [hsplit] at hfields hfields'
    have hiff := captures_iff hnested hres hsplit
    refine ⟨_, Block.mem_outline.mpr ⟨_, hmem, rfl⟩, (if_neg hline).symm, rfl, ?_, ?_⟩
    · intro hcaptures
      rw [hiff] at hcaptures
      exact pathOf_moved_of_ne hfields hfields' hkeys hcaptures
    · intro hcaptures
      obtain ⟨hkind, q, hq, hqline, hindent, hchild, hpath⟩ :=
        exists_parent_of_captures hnested hres hsplit hcaptures
      refine ⟨hkind, _, Block.mem_outline.mpr ⟨q, hq, rfl⟩, hqline, hindent, hchild, _, hpath, ?_⟩
      exact pathOf_moved_of_eq hfields' hkeys hres.ascend_path (hiff.mp hcaptures)

/-- A document with an empty line inside a nested record. -/
def interruptedDocument : Text :=
  "---\na:\n  b:\n    c: 1\n\n    d: 2\n---".toList

/-- The fields of the document with an empty line nest step by step. -/
theorem wellNested_interruptedDocument {b : Block}
    (hb : Block.parse? interruptedDocument defaultDelimiter = some b) : WellNested b.fields := by
  rw [← Option.some.inj hb]
  refine ⟨by decide, ?_, by decide⟩
  intro p hp
  rw [← Option.some.inj hp]
  rfl

/-- On the empty line a key takes the place of the record that the line interrupts: the field below
is captured, and the one above keeps its path. -/
theorem existing_fields_keep_paths_in_interruptedDocument :
    ∃ b c, Block.parse? interruptedDocument defaultDelimiter = some b ∧ b.resolve? 4 0 = some c
      ∧ ¬ c.Captures b 3 ∧ c.Captures b 5
      ∧ ∃ i new b', ofKeys? c ["k".toList] true = some i
        ∧ i.applied? interruptedDocument = some new
        ∧ Block.parse? new defaultDelimiter = some b'
        ∧ (∃ g ∈ b'.outline, g.line = 3 ∧ g.path = "a.b.c".toList)
        ∧ ∃ g ∈ b'.outline, g.line = 5 ∧ g.path = "a.k.d".toList := by
  obtain ⟨i, new, b', hi, hnew, hb', hall⟩ :=
    @existing_fields_keep_paths interruptedDocument _ 4 0 _ ["k".toList] (by decide) rfl
      (wellNested_interruptedDocument rfl) rfl (by decide) (by decide)
  refine ⟨_, _, rfl, rfl, by decide, by decide, i, new, b', hi, hnew, hb', ?_, ?_⟩
  · obtain ⟨g, hg, hline, -, hkeep, -⟩ :=
      hall ⟨3, "a.b.c".toList, ⟨4, "c".toList, "1".toList, 7⟩⟩ (by decide)
    exact ⟨g, hg, hline, hkeep (by decide)⟩
  · obtain ⟨g, hg, hline, -, -, hcaptured⟩ :=
      hall ⟨5, "a.b.d".toList, ⟨4, "d".toList, "2".toList, 7⟩⟩ (by decide)
    obtain ⟨-, a, ha, -, hindent, -, rest, hrest, hpath⟩ := hcaptured (by decide)
    have ha' : a.path = "a.b".toList := by
      clear hrest hpath
      revert a
      decide
    rw [ha'] at hrest
    have hd : "a.b.".toList ++ "d".toList = "a.b.".toList ++ rest := hrest
    rw [← List.append_cancel_left hd] at hpath
    exact ⟨g, hg, hline, hpath⟩

/-- On the empty line of the document a key can be inserted, and the field below gets another
path. -/
theorem inserted_key_takes_field_in_interruptedDocument :
    ∃ b c i new b', '\r' ∉ interruptedDocument
      ∧ Block.parse? interruptedDocument defaultDelimiter = some b ∧ WellNested b.fields
      ∧ b.resolve? 4 0 = some c ∧ IsKey "k".toList ∧ ofKeys? c ["k".toList] true = some i
      ∧ i.applied? interruptedDocument = some new ∧ Block.parse? new defaultDelimiter = some b'
      ∧ ¬ ∀ f ∈ b.outline, ∃ g ∈ b'.outline,
          g.field.key = f.field.key ∧ g.field.value = f.field.value ∧ g.path = f.path :=
  ⟨_, _, _, _, _, by decide, rfl, wellNested_interruptedDocument rfl, rfl, by decide, rfl, rfl, rfl,
    by decide⟩

end Insertion

end Frontmatter
