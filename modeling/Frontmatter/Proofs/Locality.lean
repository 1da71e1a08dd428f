import Frontmatter.Proofs.Children
import Frontmatter.Proofs.Diagnosis
import Frontmatter.Proofs.Workspace
import Mathlib.Data.List.Sort

/-! # Which lines matter

A cursor's line is resolved and checked by going upwards from it, so that no line below it matters.
`Block.AgreeAbove` relates two blocks with the same texts above a line, and its lemmas go through
what is read off these: the fields, the outline, the chain of a cursor and its context. The value at
a context's path is left out, because every line of the interior takes part in it. The lines behind
the closing delimiter take part in nothing: two documents that differ there only have blocks with
the `Block.SameInterior`. The main statement is `lines_below_do_not_matter`. -/

namespace Frontmatter

/-- A context without the value at its path. -/
def Context.withoutValue (c : Context) : Context :=
  { c with value := none }

namespace Block

variable {source source' delimiter text : Text} {b b' : Block} {n column : Nat} {c : Context}

/-! ## Blocks that agree above a line -/

/-- Whether two blocks have the same texts between the delimiters above a line. -/
def AgreeAbove (b b' : Block) (n : Nat) : Prop :=
  ∀ i < n, b.interiorText? i = b'.interiorText? i

namespace AgreeAbove

/-- A block agrees with itself. -/
theorem refl (b : Block) (n : Nat) : b.AgreeAbove b n :=
  fun _ _ => rfl

/-- Blocks that agree above a line agree above each line before it. -/
theorem mono {m : Nat} (h : b.AgreeAbove b' n) (hle : m ≤ n) : b.AgreeAbove b' m :=
  fun i hi => h i (Nat.lt_of_lt_of_le hi hle)

/-- The blocks have the same fields on the lines above. -/
theorem mem_fields_iff {p : PlacedField} (h : b.AgreeAbove b' n) (hp : p.line < n) :
    p ∈ b.fields ↔ p ∈ b'.fields := by
  rw [mem_fields, mem_fields, h p.line hp]

/-- The fields above the line are the same: they come in the order of their lines in both. -/
theorem fieldsAbove_eq (h : b.AgreeAbove b' n) : b.fieldsAbove n = b'.fieldsAbove n := by
  have hordered : (b.fields.filter (·.line < n)).Pairwise (InvImage (· < ·) PlacedField.line) :=
    b.pairwise_fields.filter _
  have hordered' : (b'.fields.filter (·.line < n)).Pairwise (InvImage (· < ·) PlacedField.line) :=
    b'.pairwise_fields.filter _
  rw [fieldsAbove, fieldsAbove, List.reverse_inj]
  refine hordered.eq_of_mem_iff hordered' fun p => ?_
  rw [List.mem_filter, List.mem_filter, decide_eq_true_eq]
  exact and_congr_left h.mem_fields_iff

/-- A field above the line has the same path in both blocks. -/
theorem pathOf_eq {p : PlacedField} (h : b.AgreeAbove b' n) (hp : p.line < n) :
    b.pathOf p = b'.pathOf p := by
  rw [pathOf, pathOf, (h.mono (Nat.le_of_lt hp)).fieldsAbove_eq]

/-- The outlines have the same fields on the lines above. -/
theorem mem_outline_iff {f : OutlineField} (h : b.AgreeAbove b' n) (hf : f.line < n) :
    f ∈ b.outline ↔ f ∈ b'.outline := by
  rw [mem_outline, mem_outline]
  constructor
  · rintro ⟨p, hp, rfl⟩
    exact ⟨p, (h.mem_fields_iff hf).mp hp, by rw [h.pathOf_eq hf]⟩
  · rintro ⟨p, hp, rfl⟩
    exact ⟨p, (h.mem_fields_iff hf).mpr hp, by rw [h.pathOf_eq hf]⟩

/-- The outlines have the same field on the last of the lines. -/
theorem find?_outline_eq (h : b.AgreeAbove b' (n + 1)) :
    b.outline.find? (·.line = n) = b'.outline.find? (·.line = n) := by
  ext f
  rw [find?_number_eq_some_iff b.pairwise_outline, find?_number_eq_some_iff b'.pairwise_outline]
  exact and_congr_left fun hf => h.mem_outline_iff (by omega)

/-- A text on the line has the same chain in both blocks. -/
theorem chain_eq (h : b.AgreeAbove b' n) (text : Text) : b.chain n text = b'.chain n text := by
  rw [chain, chain, h.fieldsAbove_eq]

/-- A cursor on the last of the lines has the same context in both blocks, except that each block
gives it a value of its own. -/
theorem resolve?_eq_map (h : b.AgreeAbove b' (n + 1)) (column : Nat) :
    b.resolve? n column
      = (b'.resolve? n column).map fun c => { c with value := b.tree.bind (·.lookup? c.path) } := by
  rw [resolve?, resolve?, find?_interior, find?_interior, h n (Nat.lt_succ_self n)]
  -- With the same text and the same fields above it, the line has the same chain.
  cases b'.interiorText? n with
  | none => rfl
  | some text =>
      simp only [Option.map_some, Option.bind_some, (h.mono (Nat.le_succ n)).chain_eq,
        Option.map_map]
      rfl

/-- But for the values, a cursor on the last of the lines has the same context in both blocks. -/
theorem map_withoutValue_resolve?_eq (h : b.AgreeAbove b' (n + 1)) (column : Nat) :
    (b.resolve? n column).map (·.withoutValue) = (b'.resolve? n column).map (·.withoutValue) := by
  rw [h.resolve?_eq_map, Option.map_map]
  rfl

/-- When the blocks denote the same value, so do the contexts. -/
theorem resolve?_eq (h : b.AgreeAbove b' (n + 1)) (htree : b.tree = b'.tree) (column : Nat) :
    b.resolve? n column = b'.resolve? n column := by
  rw [h.resolve?_eq_map, htree, ← (refl b' (n + 1)).resolve?_eq_map]

end AgreeAbove

/-- A line above another one between the delimiters stands between them too, unless it is the first
delimiter. -/
theorem contains_eq_of_le {i : Nat} (hb : parse? source delimiter = some b)
    (hn : b.span.contains n = true) (hle : i ≤ n) : b.span.contains i = decide (0 < i) := by
  have hlast := Nat.lt_of_le_of_lt hle (BlockSpan.contains_iff.mp hn).2
  rw [BlockSpan.contains, decide_eq_true hlast, Bool.and_true, span_of_parse? hb]

/-- The blocks of documents that have the same lines down to a line between the delimiters. -/
theorem agreeAbove_of_take (hb : parse? source delimiter = some b)
    (hb' : parse? source' delimiter = some b') (hn : b.span.contains n = true)
    (hn' : b'.span.contains n = true)
    (hlines : (Text.lines source).take (n + 1) = (Text.lines source').take (n + 1)) :
    b.AgreeAbove b' (n + 1) := by
  intro i hi
  -- A block starts on the first line, so that a line is between the delimiters of both or of none.
  have hline := congrArg (·[i]?) hlines
  simp only [List.getElem?_take_of_lt hi] at hline
  rw [interiorText?, interiorText?, contains_eq_of_le hb hn (Nat.le_of_lt_succ hi),
    contains_eq_of_le hb' hn' (Nat.le_of_lt_succ hi), lines_of_parse? hb, lines_of_parse? hb',
    hline]

/-! ## Blocks with the same interior -/

/-- The value of a block is what its interior denotes. -/
theorem tree_of_parse? (h : parse? source delimiter = some b) :
    b.tree = Yaml.read? (Text.join ['\n'] b.inside) := by
  obtain ⟨span, -, rfl⟩ := Option.map_eq_some_iff.mp h
  have htexts : (span.interior (Text.lines source)).map (·.2)
      = ((Text.lines source).take span.last).drop (span.first + 1) := by
    rw [BlockSpan.interior_eq, List.map_map]
    exact List.zipIdx_map_fst _ _
  exact congrArg (fun texts => Yaml.read? (Text.join ['\n'] texts)) htexts

/-- What two blocks have in common that differ in the lines behind them only. -/
structure SameInterior (b b' : Block) : Prop where
  /-- They stand in the same place. -/
  span_eq : b.span = b'.span
  /-- The lines between their delimiters are the same. -/
  inside_eq : b.inside = b'.inside
  /-- They denote the same value. -/
  tree_eq : b.tree = b'.tree

/-- A document has the block of another one when their lines are the same down to the closing
delimiter. -/
theorem exists_parse?_of_take (hb : parse? source delimiter = some b)
    (hlines : (Text.lines source).take (b.span.last + 1)
      = (Text.lines source').take (b.span.last + 1)) :
    ∃ b', parse? source' delimiter = some b' ∧ b.SameInterior b' := by
  obtain ⟨opening, closing, rest, hsource, hopening, hinside, hclosing, hspan⟩ :=
    exists_lines_of_parse? hb
  -- The lines that are the same hold both delimiters and everything between them.
  have htake : (Text.lines source').take (b.span.last + 1)
      = opening :: (b.inside ++ [closing]) := by
    rw [← hlines, hsource, hspan, List.take_succ_cons, List.take_length_add_append]
    rfl
  have hsource' : Text.lines source'
      = opening :: (b.inside ++ closing :: (Text.lines source').drop (b.span.last + 1)) := by
    conv_lhs => rw [← List.take_append_drop (b.span.last + 1) (Text.lines source'), htake]
    simp
  obtain ⟨b', hb', hinside', hspan'⟩ := parse?_of_lines hsource' hopening hinside hclosing
  refine ⟨b', hb', hspan.trans hspan'.symm, hinside'.symm, ?_⟩
  rw [tree_of_parse? hb, tree_of_parse? hb', hinside']

namespace SameInterior

/-- The outlines are the same. -/
theorem outline_eq (h : b.SameInterior b') : b.outline = b'.outline := by
  rw [outline, outline, fields_eq, fields_eq, h.span_eq, h.inside_eq]

/-- The same texts stand between the delimiters. -/
theorem interiorText?_eq (h : b.SameInterior b') (n : Nat) :
    b.interiorText? n = b'.interiorText? n := by
  by_cases hn : b.span.first < n
  · have hline := congrArg (·[n - (b.span.first + 1)]?) h.inside_eq
    simp only [inside_getElem?] at hline
    rwa [← h.span_eq, Nat.add_sub_cancel' hn] at hline
  · -- Above the block there are no texts between the delimiters.
    rw [interiorText?, interiorText?, ← h.span_eq, BlockSpan.contains, decide_eq_false hn]
    rfl

/-- A cursor has the same context in both blocks. -/
theorem resolve?_eq (h : b.SameInterior b') (n column : Nat) :
    b.resolve? n column = b'.resolve? n column :=
  AgreeAbove.resolve?_eq (fun i _ => h.interiorText?_eq i) h.tree_eq column

/-- The scan below a line finds the same keys. -/
theorem scannedKeys_eq (h : b.SameInterior b') (htext : b.interiorText? n = some text) :
    b.scannedKeys n = b'.scannedKeys n := by
  have htext' := (h.interiorText?_eq n).symm.trans htext
  rw [Block.scannedKeys_eq htext, Block.scannedKeys_eq htext', h.inside_eq, h.span_eq]

/-- The existing keys below a cursor's field are the same. -/
theorem existingKeys_eq (h : b.SameInterior b') (hc : b.resolve? n column = some c) :
    b.existingKeys c = b'.existingKeys c := by
  obtain ⟨text, hres⟩ := resolution_of_resolve? hc
  obtain ⟨p, hp, hline⟩ := hres.exists_line_eq_keyLine
  obtain ⟨keyText, htext, -⟩ := mem_fields.mp hp
  rw [hline] at htext
  rw [existingKeys, existingKeys, h.tree_eq, h.scannedKeys_eq htext]

end SameInterior

end Block

/-! ## Independence -/

namespace Config

variable {config : Config} {source source' : Text} {b b' : Block} {line : Nat}

/-- The check of a line between the delimiters depends on the lines down to it only. -/
theorem checkLine?_eq_of_agreeAbove (hb : config.block? source = some b)
    (hb' : config.block? source' = some b') (h : b.AgreeAbove b' (line + 1)) :
    config.checkLine? source line = config.checkLine? source' line := by
  rw [block?] at hb hb'
  rw [checkLine?, checkLine?, hb, hb', Option.bind_some, Option.bind_some, h.find?_outline_eq]

/-- Documents whose blocks have the same interior give a cursor the same context. -/
theorem context?_eq_of_sameInterior (hb : config.block? source = some b)
    (hb' : config.block? source' = some b') (h : b.SameInterior b') (line column : Nat) :
    config.context? source line column = config.context? source' line column := by
  rw [context?, context?, hb, hb', Option.bind_some, Option.bind_some, h.resolve?_eq]

/-- Documents whose blocks have the same interior get the same offers. -/
theorem suggest?_eq_of_sameInterior (hb : config.block? source = some b)
    (hb' : config.block? source' = some b') (h : b.SameInterior b') (line column : Nat) :
    config.suggest? source line column = config.suggest? source' line column := by
  rw [suggest?, suggest?, hb, hb', Option.bind_some, Option.bind_some, ← h.resolve?_eq]
  refine Option.bind_congr fun c hc => ?_
  rw [h.existingKeys_eq hc]

/-- Documents whose blocks have the same interior get the same report, each under its name. -/
theorem report_eq_of_sameInterior (hb : config.block? source = some b)
    (hb' : config.block? source' = some b') (h : b.SameInterior b') (document document' : Text) :
    config.report document source = { config.report document' source' with document } := by
  rw [block?] at hb hb'
  rw [report, report, hb, hb', Option.map_some, Option.map_some, Block.checks, Block.checks,
    h.outline_eq]

end Config

/-- **The lines below a line of the block do not matter for it, and those behind the block for
nothing.** When two documents have the same lines down to a line that stands between the delimiters
in both, then a cursor on that line has the same context in both, apart from the value, and the
check of the line is the same. When they have the same lines down to the closing delimiter of one,
then contexts and offers are the same at all places, and so are the reports of new workspaces, apart
from the names of the documents. -/
theorem lines_below_do_not_matter {config : Config} {source : Text} {b : Block}
    (hb : config.block? source = some b) (source' : Text) :
    (∀ b' line, config.block? source' = some b' → b.span.contains line = true →
        b'.span.contains line = true →
        (Text.lines source).take (line + 1) = (Text.lines source').take (line + 1) →
        (∀ column, (b.resolve? line column).map (·.withoutValue)
            = (b'.resolve? line column).map (·.withoutValue))
          ∧ config.checkLine? source line = config.checkLine? source' line)
      ∧ ((Text.lines source).take (b.span.last + 1)
            = (Text.lines source').take (b.span.last + 1) →
          (∀ line column, config.context? source line column = config.context? source' line column
              ∧ config.suggest? source line column = config.suggest? source' line column)
            ∧ ∀ document document',
              (((Workspace.new config).check document source).2.map
                  fun r => (r.checked, r.diagnostics))
                = ((Workspace.new config).check document' source').2.map
                    fun r => (r.checked, r.diagnostics)) := by
  constructor
  · intro b' line hb' hline hline' hlines
    have h := Block.agreeAbove_of_take hb hb' hline hline' hlines
    exact ⟨h.map_withoutValue_resolve?_eq, Config.checkLine?_eq_of_agreeAbove hb hb' h⟩
  · intro hlines
    obtain ⟨b', hb', h⟩ := Block.exists_parse?_of_take hb hlines
    refine ⟨fun line column => ⟨Config.context?_eq_of_sameInterior hb hb' h line column,
      Config.suggest?_eq_of_sameInterior hb hb' h line column⟩, fun document document' => ?_⟩
    rw [Workspace.check_new, Workspace.check_new,
      Config.report_eq_of_sameInterior hb hb' h document document']
    split <;> rfl

/-- A configuration with one rule, which offers two keys below a field and asks for truth values. -/
def offeringTruthValues : Config :=
  { settings := .default
    rules :=
      [{ id := "r", enabled := true, field := "a", child := none, source := .inline
         candidates := [.plain "b".toList, .plain "c".toList]
         value := some { ValueConfig.default with kind := .boolean }
         display := .all, multiSelect := false }] }

/-- A document with a truth value below that field. -/
def yesDocument : Text :=
  "---\na:\n  b: yes\n---".toList

/-- The document after a list was begun below the truth value. -/
def yesDocumentWithOpenList : Text :=
  "---\na:\n  b: yes\nc: [1\n---".toList

/-- The document with a text behind its block. -/
def yesDocumentWithText : Text :=
  "---\na:\n  b: yes\n---\n  c: no\n---".toList

/-- An open list breaks the value of the block, but neither the context on the line of the truth
value nor its check. A text behind the block does not change what is offered. -/
theorem lines_below_do_not_matter_in_yesDocument :
    ∃ b b', offeringTruthValues.block? yesDocument = some b
      ∧ offeringTruthValues.block? yesDocumentWithOpenList = some b'
      ∧ (b.resolve? 2 5).map (·.withoutValue) = (b'.resolve? 2 5).map (·.withoutValue)
      ∧ (offeringTruthValues.checkLine? yesDocument 2).isSome = true
      ∧ offeringTruthValues.checkLine? yesDocument 2
          = offeringTruthValues.checkLine? yesDocumentWithOpenList 2
      ∧ (offeringTruthValues.suggest? yesDocument 1 2).isSome = true
      ∧ offeringTruthValues.suggest? yesDocument 1 2
          = offeringTruthValues.suggest? yesDocumentWithText 1 2 := by
  obtain ⟨b, hb⟩ : ∃ b, offeringTruthValues.block? yesDocument = some b := ⟨_, rfl⟩
  obtain ⟨b', hb'⟩ : ∃ b, offeringTruthValues.block? yesDocumentWithOpenList = some b := ⟨_, rfl⟩
  have hspan : b.span = ⟨0, 3⟩ := by
    obtain rfl := Option.some.inj hb
    decide
  have hspan' : b'.span = ⟨0, 4⟩ := by
    obtain rfl := Option.some.inj hb'
    decide
  obtain ⟨hresolve, hcheck⟩ := (lines_below_do_not_matter hb yesDocumentWithOpenList).1 b' 2 hb'
    (by rw [hspan]; decide) (by rw [hspan']; decide) (by decide)
  obtain ⟨hplaces, -⟩ :=
    (lines_below_do_not_matter hb yesDocumentWithText).2 (by rw [hspan]; decide)
  exact ⟨b, b', hb, hb', hresolve 5, by decide, hcheck, by decide, (hplaces 1 2).2⟩

end Frontmatter
