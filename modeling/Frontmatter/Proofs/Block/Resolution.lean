import Frontmatter.Proofs.Block.Ancestry
import Frontmatter.Proofs.Block.Location
import Frontmatter.Proofs.FieldLine

/-! # Resolving a cursor

`Block.Resolution` says what the context of a cursor holds, and `resolution_of_resolve?` that every
resolved cursor has such a context. What leads to a line is the lineage of its field, by
`chain_of_parse?`, or an ascent from its own indentation if it is a placeholder, by
`chain_of_parse?_eq_none`. The main statement, `outline_agrees_with_resolution`, compares the
outline with the cursor's contexts on every line of a block. -/

namespace Frontmatter

namespace Block

variable {b : Block} {n column : Nat} {text : Text} {c : Context}

/-! ## The chain of a cursor -/

/-- What the context of a cursor holds that stands on a line with a text. -/
structure Resolution (b : Block) (n column : Nat) (text : Text) (c : Context) : Prop where
  /-- The text is that of the line. -/
  text_eq : b.interiorText? n = some text
  /-- The path is that of the chain of fields that leads to the line. -/
  path_eq : chainPath? (b.chain n text) = some c.path
  /-- The key line is that of the innermost of them. -/
  keyLine_eq : (b.chain n text).head?.map (·.line) = some c.keyLine
  /-- The line is the cursor's. -/
  line_eq : c.line = n
  /-- The indentation is that of the text. -/
  indent_eq : c.indent = Text.indentation text
  /-- The kind tells whether the text is a field line. -/
  kind_eq : c.kind = if (FieldLine.parse? text).isSome then .field else .placeholder
  /-- The value is the one at the path. -/
  value_eq : c.value = b.tree.bind (·.lookup? c.path)
  /-- The column is within the text. -/
  column_eq : c.column = min column text.length
  /-- The length is that of the text. -/
  lineLength_eq : c.lineLength = text.length
  /-- The query starts at the value of a field, and at the first letter of a placeholder. -/
  queryStart_eq : c.queryStart
    = ((FieldLine.parse? text).map (·.valueColumn)).getD (min c.indent c.column)
  /-- The query is what stands between its start and the cursor. -/
  query_eq : c.query = Text.trim (slice text c.queryStart c.column)

/-- A cursor that is resolved stands on a line of the interior, and its context says so. -/
theorem resolution_of_resolve? (h : b.resolve? n column = some c) :
    ∃ text, b.Resolution n column text c := by
  rw [resolve?, find?_interior] at h
  obtain ⟨⟨m, text⟩, hfind, h⟩ := Option.bind_eq_some_iff.mp h
  obtain ⟨text', htext, heq⟩ := Option.map_eq_some_iff.mp hfind
  obtain ⟨rfl, rfl⟩ := Prod.mk.inj heq
  obtain ⟨innermost, hhead, rfl⟩ := Option.map_eq_some_iff.mp h
  have hne : b.chain n text' ≠ [] := by
    intro hnil
    rw [hnil] at hhead
    exact absurd hhead (by simp)
  refine ⟨text', ⟨htext, ?_, ?_, rfl, rfl, ?_, rfl, rfl, rfl, ?_, rfl⟩⟩
  · rw [chainPath?, if_neg hne]
    rfl
  · rw [hhead]
    rfl
  · cases FieldLine.parse? text' <;> rfl
  · cases FieldLine.parse? text' <;> rfl

/-- A cursor on a line of the interior is resolved unless no chain leads to the line. -/
theorem isSome_resolve?_iff (h : b.interiorText? n = some text) :
    (b.resolve? n column).isSome = true ↔ b.chain n text ≠ [] := by
  rw [resolve?, find?_interior, h]
  cases hchain : b.chain n text <;> simp [hchain]

/-- The chain of a field line is the field's lineage. -/
theorem chain_of_parse? {field : FieldLine} (h : FieldLine.parse? text = some field) :
    b.chain n text = lineage (b.fieldsAbove n) ⟨n, field⟩ := by
  rw [chain, h]
  rfl

/-- The chain of a placeholder is an ascent from its indentation. -/
theorem chain_of_parse?_eq_none (h : FieldLine.parse? text = none) :
    b.chain n text = ascend (some (Text.indentation text)) (b.fieldsAbove n) := by
  rw [chain, h]

/-! ## Fields and placeholders -/

/-- The outline gives each field of the block its path. -/
theorem mem_outline {f : OutlineField} :
    f ∈ b.outline ↔ ∃ p ∈ b.fields, (⟨p.line, b.pathOf p, p.field⟩ : OutlineField) = f := by
  rw [outline_eq_map, List.mem_map]

/-- The fields above a line are those with smaller numbers. -/
theorem mem_fieldsAbove {p : PlacedField} : p ∈ b.fieldsAbove n ↔ p ∈ b.fields ∧ p.line < n := by
  rw [fieldsAbove, List.mem_reverse, List.mem_filter, decide_eq_true_eq]

/-- The fields above the line below a field: the field and those above it. -/
theorem fieldsAbove_succ {p : PlacedField} (hp : p ∈ b.fields) :
    b.fieldsAbove (p.line + 1) = p :: b.fieldsAbove p.line := by
  obtain ⟨before, after, hsplit⟩ := List.append_of_mem hp
  have hsorted := b.pairwise_fields
  rw [hsplit, List.pairwise_append] at hsorted
  have hconcat : b.fields = (before ++ [p]) ++ after := by
    rw [hsplit, List.append_assoc, List.singleton_append]
  rw [fieldsAbove_line hsplit, ← List.reverse_concat]
  apply fieldsAbove_eq hconcat
  · intro q hq
    rcases List.mem_append.mp hq with hq | hq
    · exact Nat.lt_succ_of_lt (hsorted.2.2 q hq p List.mem_cons_self)
    · rw [List.mem_singleton.mp hq]
      exact Nat.lt_succ_self p.line
  · exact fun q hq => (List.pairwise_cons.mp hsorted.2.1).1 q hq

/-- A line without a field adds nothing to the fields above. -/
theorem fieldsAbove_succ_of_ne (hne : ∀ p ∈ b.fields, p.line ≠ n) :
    b.fieldsAbove (n + 1) = b.fieldsAbove n := by
  rw [fieldsAbove, fieldsAbove]
  congr 1
  refine List.filter_congr fun p hp => ?_
  have h := hne p hp
  rw [decide_eq_decide]
  omega

/-- A cursor on a field line resolves to that field. -/
theorem exists_resolve?_of_mem_fields {p : PlacedField} (hp : p ∈ b.fields) (column : Nat) :
    ∃ c, b.resolve? p.line column = some c ∧ c.kind = .field ∧ c.keyLine = p.line
      ∧ c.path = b.pathOf p := by
  obtain ⟨text, htext, hfield⟩ := mem_fields.mp hp
  have hchain : b.chain p.line text = lineage (b.fieldsAbove p.line) p := chain_of_parse? hfield
  have hsome : (b.resolve? p.line column).isSome = true := by
    rw [isSome_resolve?_iff htext, hchain]
    exact List.cons_ne_nil _ _
  obtain ⟨c, hc⟩ := Option.isSome_iff_exists.mp hsome
  obtain ⟨text', hres⟩ := resolution_of_resolve? hc
  obtain rfl : text = text' := Option.some.inj (htext ▸ hres.text_eq)
  have hkey := hres.keyLine_eq
  have hpath := hres.path_eq
  rw [hchain] at hkey hpath
  refine ⟨c, hc, ?_, (Option.some.inj hkey).symm, (Option.some.inj hpath).symm⟩
  rw [hres.kind_eq, hfield]
  rfl

/-- An ascent from above a line follows the lineage of the nearest field at its indentation. -/
theorem ascend_fieldsAbove (b : Block) (n indent : Nat) :
    (ascend (some indent) (b.fieldsAbove n) = []
        ∧ ∀ p ∈ b.fields, p.line < n → p.field.indent ≠ indent)
      ∨ ∃ p ∈ b.fields, p.line < n ∧ p.field.indent = indent
          ∧ (∀ q ∈ b.fields, q.line < n → q.field.indent = indent → q.line ≤ p.line)
          ∧ ascend (some indent) (b.fieldsAbove n) = lineage (b.fieldsAbove p.line) p := by
  rcases ascend_eq_nil_or_lineage indent (b.fieldsAbove n) with
    ⟨hnil, hnone⟩ | ⟨skipped, p, rest, habove, hindent, hskipped, hascend⟩
  · exact .inl ⟨hnil, fun p hp hlt => hnone p (mem_fieldsAbove.mpr ⟨hp, hlt⟩)⟩
  · have hmem : p ∈ b.fieldsAbove n := by
      rw [habove]
      simp
    obtain ⟨hp, hlt⟩ := mem_fieldsAbove.mp hmem
    refine .inr ⟨p, hp, hlt, hindent, ?_, ?_⟩
    · intro q hq hqn hqi
      have hsorted : (b.fieldsAbove n).Pairwise (fun x y => y.line < x.line) :=
        List.pairwise_reverse.mpr (b.pairwise_fields.filter _)
      rw [habove, List.pairwise_append] at hsorted
      have hmem := mem_fieldsAbove.mpr ⟨hq, hqn⟩
      rw [habove, List.mem_append, List.mem_cons] at hmem
      rcases hmem with hmem | rfl | hmem
      · exact absurd hqi (hskipped q hmem)
      · exact Nat.le_refl _
      · exact Nat.le_of_lt ((List.pairwise_cons.mp hsorted.2.1).1 q hmem)
    · rw [hascend, fieldsAbove_line_of_eq habove]

/-- A context is about a field: the one on the cursor's line, or if there is none, one above it at
the indentation of the line. The path is that of the field, and the key line is its line. -/
theorem Resolution.exists_field (h : b.Resolution n column text c) :
    ∃ p ∈ b.fields, p.line = c.keyLine ∧ b.pathOf p = c.path
      ∧ (FieldLine.parse? text = some p.field ∧ p.line = n
        ∨ FieldLine.parse? text = none ∧ p.line < n) := by
  have hkey := h.keyLine_eq
  have hpath := h.path_eq
  cases hparse : FieldLine.parse? text with
  | some field =>
      rw [chain_of_parse? hparse] at hkey hpath
      exact ⟨⟨n, field⟩, mem_fields.mpr ⟨text, h.text_eq, hparse⟩, Option.some.inj hkey,
        Option.some.inj hpath, .inl ⟨rfl, rfl⟩⟩
  | none =>
      rw [chain_of_parse?_eq_none hparse] at hkey hpath
      rcases b.ascend_fieldsAbove n (Text.indentation text) with
        ⟨hnil, -⟩ | ⟨p, hp, hlt, -, -, hascend⟩
      · rw [hnil] at hkey
        exact absurd hkey (by simp)
      · rw [hascend] at hkey hpath
        exact ⟨p, hp, Option.some.inj hkey, Option.some.inj hpath, .inr ⟨rfl, hlt⟩⟩

/-- The key line of a context is the line of a field. -/
theorem Resolution.exists_line_eq_keyLine (h : b.Resolution n column text c) :
    ∃ p ∈ b.fields, p.line = c.keyLine := by
  obtain ⟨p, hp, hline, -⟩ := h.exists_field
  exact ⟨p, hp, hline⟩

/-! ## Agreement with the outline -/

/-- The outline lists exactly the field lines between the delimiters, from the top and each once.
A cursor on one of them resolves to the path that the outline gives it. A cursor on any other line
resolves if and only if a field line above it is indented like it, and then to the path that the
outline gives the nearest of these. -/
theorem outline_agrees_with_resolution {source delimiter : Text} {b : Block}
    (h : parse? source delimiter = some b) (column : Nat) :
    b.outline.Pairwise (·.line < ·.line)
      ∧ (∀ n field, (∃ f ∈ b.outline, f.line = n ∧ f.field = field)
          ↔ ∃ text, b.span.contains n = true ∧ (Text.lines source)[n]? = some text
              ∧ FieldLine.parse? text = some field)
      ∧ (∀ f ∈ b.outline, ∃ c, b.resolve? f.line column = some c ∧ c.kind = .field
          ∧ c.keyLine = f.line ∧ c.path = f.path)
      ∧ ∀ n text, b.span.contains n = true → (Text.lines source)[n]? = some text →
          FieldLine.parse? text = none →
          ((b.resolve? n column).isSome = true
              ↔ ∃ f ∈ b.outline, f.line < n ∧ f.field.indent = Text.indentation text)
            ∧ ∀ c, b.resolve? n column = some c →
                c.kind = .placeholder
                  ∧ ∃ f ∈ b.outline, f.line < n ∧ f.field.indent = Text.indentation text
                    ∧ (∀ g ∈ b.outline, g.line < n → g.field.indent = Text.indentation text →
                        g.line ≤ f.line)
                    ∧ c.keyLine = f.line ∧ c.path = f.path := by
  have hlines : b.lines = Text.lines source := lines_of_parse? h
  rw [← hlines]
  refine ⟨?_, ?_, ?_, ?_⟩
  · rw [outline_eq_map, List.pairwise_map]
    exact b.pairwise_fields
  · -- The outline lists the field lines of the interior.
    intro n field
    constructor
    · rintro ⟨f, hf, rfl, rfl⟩
      obtain ⟨p, hp, rfl⟩ := mem_outline.mp hf
      obtain ⟨text, htext, hfield⟩ := mem_fields.mp hp
      obtain ⟨hcontains, hget⟩ := interiorText?_eq_some_iff.mp htext
      exact ⟨text, hcontains, hget, hfield⟩
    · rintro ⟨text, hcontains, hget, hfield⟩
      have hp : (⟨n, field⟩ : PlacedField) ∈ b.fields :=
        mem_fields.mpr ⟨text, interiorText?_eq_some_iff.mpr ⟨hcontains, hget⟩, hfield⟩
      exact ⟨_, mem_outline.mpr ⟨_, hp, rfl⟩, rfl, rfl⟩
  · -- A cursor on a field line resolves to the field's lineage.
    intro f hf
    obtain ⟨p, hp, rfl⟩ := mem_outline.mp hf
    exact exists_resolve?_of_mem_fields hp column
  · -- Any other line is resolved by the ascent from its indentation.
    intro n text hcontains hget hnone
    have htext := interiorText?_eq_some_iff.mpr ⟨hcontains, hget⟩
    have hchain : b.chain n text = ascend (some (Text.indentation text)) (b.fieldsAbove n) :=
      chain_of_parse?_eq_none hnone
    have hsome : (b.resolve? n column).isSome = true ↔ _ := isSome_resolve?_iff htext
    rcases b.ascend_fieldsAbove n (Text.indentation text) with
      ⟨hnil, hno⟩ | ⟨p, hp, hlt, hindent, hnearest, hascend⟩
    · -- No field above is indented like the line.
      constructor
      · rw [hsome, hchain]
        refine ⟨fun hne => absurd hnil hne, ?_⟩
        rintro ⟨f, hf, hlt, hindent⟩
        obtain ⟨p, hp, rfl⟩ := mem_outline.mp hf
        exact absurd hindent (hno p hp hlt)
      · intro c hc
        exact absurd (hchain.trans hnil) (hsome.mp (Option.isSome_iff_exists.mpr ⟨c, hc⟩))
    · -- The ascent starts at the nearest field that is.
      have hmem := mem_outline.mpr ⟨p, hp, rfl⟩
      constructor
      · rw [hsome, hchain, hascend]
        exact ⟨fun _ => ⟨_, hmem, hlt, hindent⟩, fun _ => List.cons_ne_nil _ _⟩
      · intro c hc
        obtain ⟨text', hres⟩ := resolution_of_resolve? hc
        obtain rfl : text = text' := Option.some.inj (htext ▸ hres.text_eq)
        have hkey := hres.keyLine_eq
        have hpath := hres.path_eq
        rw [hchain, hascend] at hkey hpath
        refine ⟨?_, _, hmem, hlt, hindent, ?_, (Option.some.inj hkey).symm,
          (Option.some.inj hpath).symm⟩
        · rw [hres.kind_eq, hnone]
          rfl
        · intro g hg hgn hgi
          obtain ⟨q, hq, rfl⟩ := mem_outline.mp hg
          exact hnearest q hq hgn hgi

/-- A document with skipped and odd indentations, a blank line and a half typed key. -/
def unevenDocument : Text :=
  "---\nA:\n  B:\n      c: 1\n\n  x\n D:\n  e:\n---".toList

/-- In a document with uneven indentations each field line resolves to its path in the outline, and
the half typed key resolves because a field line above it has its indentation. -/
theorem outline_agrees_on_unevenDocument :
    ∃ b, parse? unevenDocument defaultDelimiter = some b
      ∧ b.outline.map (fun f => (f.line, f.path))
          = [(1, "A".toList), (2, "A.B".toList), (3, "c".toList), (6, "D".toList),
              (7, "A.e".toList)]
      ∧ (∀ f ∈ b.outline, ∃ c, b.resolve? f.line 2 = some c ∧ c.kind = .field
          ∧ c.keyLine = f.line ∧ c.path = f.path)
      ∧ (b.resolve? 5 2).isSome = true := by
  have h : parse? unevenDocument defaultDelimiter = some _ := rfl
  refine ⟨_, h, by decide, (outline_agrees_with_resolution h 2).2.2.1, ?_⟩
  refine ((outline_agrees_with_resolution h 2).2.2.2 5 "  x".toList rfl rfl rfl).1.mpr ?_
  exact ⟨⟨2, "A.B".toList, ⟨2, "B".toList, [], 4⟩⟩, by decide⟩

end Block

end Frontmatter
