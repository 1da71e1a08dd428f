import Frontmatter.Diagnosis
import Frontmatter.Proofs.Block.Resolution
import Frontmatter.Proofs.Numbered

/-! # Which lines are checked

A line of a document can be checked by itself, and a report checks all lines of a block in one pass.
`GovernedLine` gathers what it takes for a line to be checked, with the context of a cursor on the
line, and `GovernedLine.Describes` says what its check then is. `Config.report_eq` makes a report
from the checks of the single lines: the outline has one field for each field line, and its fields
come in the order of the lines. -/

namespace Frontmatter

namespace Block

variable {b : Block} {n : Nat} {f : OutlineField}

/-- The fields of an outline come in the order of their lines. -/
theorem pairwise_outline (b : Block) : b.outline.Pairwise (·.line < ·.line) := by
  rw [outline_eq_map, List.pairwise_map]
  exact b.pairwise_fields

/-- The fields of an outline are on lines of the document. -/
theorem line_lt_of_mem_outline (hf : f ∈ b.outline) : f.line < b.lines.length := by
  obtain ⟨p, hp, rfl⟩ := mem_outline.mp hf
  obtain ⟨text, htext, -⟩ := mem_fields.mp hp
  exact (List.getElem?_eq_some_iff.mp (interiorText?_eq_some_iff.mp htext).2).1

end Block

variable {config : Config} {source : Text} {line column : Nat} {f : FieldCheck}

/-! ## The check of one line -/

/-- The field on a line is checked exactly if the outline has a field on that line that is. -/
theorem checkLine?_eq_some_iff : config.checkLine? source line = some f
    ↔ ∃ b, Block.parse? source config.settings.delimiter = some b
      ∧ ∃ g ∈ b.outline, g.line = line ∧ g.check? config.rules = some f := by
  rw [Config.checkLine?, Option.bind_eq_some_iff]
  refine exists_congr fun b => and_congr_right fun _ => ?_
  rw [Option.bind_eq_some_iff]
  refine exists_congr fun g => ?_
  rw [find?_number_eq_some_iff b.pairwise_outline, and_assoc]

/-- A line whose value can be checked: it is a field line of the document's block, an enabled rule
governs the path that a cursor on it resolves to, and the rule gives a grammar for its key. -/
structure GovernedLine (config : Config) (source : Text) (line column : Nat) where
  /-- The document's block. -/
  block : Block
  /-- The text of the line. -/
  text : Text
  /-- The field line. -/
  field : FieldLine
  /-- The context of a cursor on the line. -/
  context : Context
  /-- The rule. -/
  rule : Rule
  /-- The grammar. -/
  grammar : FieldGrammar
  /-- The document has the block. -/
  parse?_eq : Block.parse? source config.settings.delimiter = some block
  /-- The line is between the delimiters. -/
  contains : block.span.contains line = true
  /-- The text stands on the line. -/
  getElem?_eq : (Text.lines source)[line]? = some text
  /-- The text is read as the field line. -/
  field_eq : FieldLine.parse? text = some field
  /-- A cursor on the line has the context. -/
  resolve?_eq : block.resolve? line column = some context
  /-- The rule governs the path of the context. -/
  enabled?_eq : Rule.enabled? config.rules context.path = some rule
  /-- The rule gives the grammar for the key of the field. -/
  forField?_eq : FieldGrammar.forField? rule field.key = some grammar

/-- Whether a check is that of a line. -/
structure GovernedLine.Describes (g : GovernedLine config source line column) (f : FieldCheck) :
    Prop where
  /-- The line is that line. -/
  line_eq : f.line = line
  /-- The path is the one that a cursor on the line resolves to. -/
  path_eq : f.path = g.context.path
  /-- The rule is the one that governs the path. -/
  ruleId_eq : f.ruleId = g.rule.id
  /-- The value is what follows the first colon, without leading white space. -/
  value_eq : ∃ head tail, g.text = head ++ ':' :: tail ∧ ':' ∉ head ∧ f.value = Text.trimStart tail
  /-- The value stands on the line where the check says. -/
  slice_eq : Block.slice g.text f.start f.stop = f.value
  /-- The value is as long as the check says. -/
  length_eq : f.start + f.value.length = f.stop
  /-- The value reaches to the end of the line. -/
  stop_eq : f.stop = g.text.length
  /-- The verdict is that of the grammar on the value. -/
  verdict_eq : f.verdict = g.grammar.check f.value

/-- The outline's field on a field line has the path that a cursor on the line resolves to. -/
theorem GovernedLine.mem_outline (g : GovernedLine config source line column) :
    (⟨line, g.context.path, g.field⟩ : OutlineField) ∈ g.block.outline := by
  have hlines : g.block.lines = Text.lines source := Block.lines_of_parse? g.parse?_eq
  have hp : (⟨line, g.field⟩ : PlacedField) ∈ g.block.fields := by
    refine Block.mem_fields.mpr ⟨g.text, Block.interiorText?_eq_some_iff.mpr ?_, g.field_eq⟩
    exact ⟨g.contains, hlines ▸ g.getElem?_eq⟩
  obtain ⟨c, hc, -, -, hpath⟩ := Block.exists_resolve?_of_mem_fields hp column
  obtain rfl : c = g.context := Option.some.inj (hc.symm.trans g.resolve?_eq)
  exact Block.mem_outline.mpr ⟨_, hp, by rw [hpath]⟩

/-- The check of a governed line. -/
def GovernedLine.check (g : GovernedLine config source line column) : FieldCheck :=
  { line, path := g.context.path, ruleId := g.rule.id, value := g.field.value
    start := g.field.valueColumn, stop := g.text.length
    verdict := g.grammar.check g.field.value }

/-- The value of a governed line reaches to the end of the line. -/
theorem GovernedLine.length_eq (g : GovernedLine config source line column) :
    g.field.valueColumn + g.field.value.length = g.text.length := by
  obtain ⟨before, hbefore, hcolumn⟩ := FieldLine.exists_append_value_of_parse? g.field_eq
  rw [hbefore, List.length_append, hcolumn]

/-- A governed line is checked. -/
theorem GovernedLine.checkLine?_eq (g : GovernedLine config source line column) :
    config.checkLine? source line = some g.check := by
  refine checkLine?_eq_some_iff.mpr ⟨g.block, g.parse?_eq, _, g.mem_outline, rfl, ?_⟩
  rw [OutlineField.check?, g.enabled?_eq, Option.bind_some, g.forField?_eq, Option.map_some,
    g.length_eq, check]

/-- The check of a governed line has everything that the line says of it. -/
theorem GovernedLine.describes_check (g : GovernedLine config source line column) :
    g.Describes g.check where
  line_eq := rfl
  path_eq := rfl
  ruleId_eq := rfl
  value_eq := by
    obtain ⟨head, tail, htext, hcolon, hvalue, -⟩ := FieldLine.value_of_parse? g.field_eq
    exact ⟨head, tail, htext, hcolon, hvalue⟩
  slice_eq := by
    obtain ⟨before, hbefore, hcolumn⟩ := FieldLine.exists_append_value_of_parse? g.field_eq
    rw [check, Block.slice, List.take_length, ← hcolumn, hbefore, List.drop_left]
  length_eq := g.length_eq
  stop_eq := rfl
  verdict_eq := rfl

/-- A line that is checked is governed. -/
theorem nonempty_governedLine (h : config.checkLine? source line = some f) (column : Nat) :
    Nonempty (GovernedLine config source line column) := by
  obtain ⟨b, hb, g, hg, rfl, hcheck⟩ := checkLine?_eq_some_iff.mp h
  obtain ⟨p, hp, rfl⟩ := Block.mem_outline.mp hg
  obtain ⟨rule, hrule, hgrammar⟩ := Option.bind_eq_some_iff.mp hcheck
  obtain ⟨grammar, hgrammar, -⟩ := Option.map_eq_some_iff.mp hgrammar
  obtain ⟨text, htext, hfield⟩ := Block.mem_fields.mp hp
  obtain ⟨hcontains, hget⟩ := Block.interiorText?_eq_some_iff.mp htext
  rw [Block.lines_of_parse? hb] at hget
  -- The cursor's path is the one in the outline, and so the same rule governs it.
  obtain ⟨c, hc, -, -, hpath⟩ := Block.exists_resolve?_of_mem_fields hp column
  rw [← hpath] at hrule
  exact ⟨⟨b, text, p.field, c, rule, grammar, hb, hcontains, hget, hfield, hc, hrule, hgrammar⟩⟩

/-- A check is that of a governed line. -/
theorem exists_describes (h : config.checkLine? source line = some f) (column : Nat) :
    ∃ g : GovernedLine config source line column, g.Describes f := by
  obtain ⟨g⟩ := nonempty_governedLine h column
  obtain rfl : g.check = f := Option.some.inj (g.checkLine?_eq.symm.trans h)
  exact ⟨g, g.describes_check⟩

/-! ## The checks of all lines -/

/-- The checks of a document's lines, each by itself. -/
def Config.lineChecks (config : Config) (source : Text) : List FieldCheck :=
  (List.range (Text.lines source).length).filterMap (config.checkLine? source)

/-- Checking a block in one pass gives the checks of the single lines. -/
theorem Block.checks_eq {b : Block} (hb : Block.parse? source config.settings.delimiter = some b) :
    b.checks config.rules = config.lineChecks source := by
  have hlines : b.lines = Text.lines source := Block.lines_of_parse? hb
  have hfields : (List.range (Text.lines source).length).filterMap
      (fun i => b.outline.find? (·.line = i)) = b.outline := by
    rw [← hlines]
    exact filterMap_find?_range b.pairwise_outline fun f hf => Block.line_lt_of_mem_outline hf
  calc b.checks config.rules
      = b.outline.filterMap (·.check? config.rules) := rfl
    _ = (List.range (Text.lines source).length).filterMap
          (fun i => (b.outline.find? (·.line = i)).bind (·.check? config.rules)) := by
        rw [← List.filterMap_filterMap, hfields]
    _ = config.lineChecks source := by
        refine List.filterMap_congr fun i _ => ?_
        rw [Config.checkLine?, hb, Option.bind_some]

/-- A document without a block has no lines that are checked. -/
theorem Config.lineChecks_eq_nil (h : Block.parse? source config.settings.delimiter = none) :
    config.lineChecks source = [] := by
  refine List.filterMap_eq_nil_iff.mpr fun i _ => ?_
  rw [Config.checkLine?, h, Option.bind_none]

/-- The checks of single lines come in the order of the lines. -/
theorem Config.pairwise_lineChecks (config : Config) (source : Text) :
    (config.lineChecks source).Pairwise (·.line < ·.line) := by
  refine List.Pairwise.filterMap _ ?_ List.pairwise_lt_range
  intro i j hij f hf g hg
  obtain ⟨_, hdescribes⟩ := exists_describes hf 0
  obtain ⟨_, hdescribes'⟩ := exists_describes hg 0
  rw [hdescribes.line_eq, hdescribes'.line_eq]
  exact hij

/-! ## Reports -/

/-- A report counts the lines that are checked and has the diagnostics of the invalid ones. -/
theorem Config.report_eq (config : Config) (document source : Text) :
    config.report document source
      = ⟨document, (config.lineChecks source).length,
          (config.lineChecks source).filterMap FieldCheck.diagnostic?⟩ := by
  rw [report]
  cases hb : Block.parse? source config.settings.delimiter with
  | none => rw [lineChecks_eq_nil hb]; rfl
  | some b => rw [← Block.checks_eq hb]; rfl

namespace FieldCheck

/-- The diagnostic of a check is about that check. -/
theorem map_check_diagnostic? (f : FieldCheck) :
    f.diagnostic?.map (·.check) = Option.guard (·.verdict.isInvalid) f := by
  rw [diagnostic?, Option.guard, Verdict.isInvalid]
  cases f.verdict.rejection? <;> rfl

/-- The diagnostic of a check says why its value is rejected. -/
theorem verdict_of_diagnostic? {d : Diagnostic} (hd : f.diagnostic? = some d) :
    d.check.verdict = .invalid d.why := by
  obtain ⟨why, hwhy, rfl⟩ := Option.map_eq_some_iff.mp hd
  dsimp only
  cases hverdict : f.verdict with
  | invalid _ =>
      rw [hverdict] at hwhy
      rw [Option.some.inj hwhy]
  | valid => exact absurd hwhy (by simp [hverdict, Verdict.rejection?])
  | unchecked => exact absurd hwhy (by simp [hverdict, Verdict.rejection?])

end FieldCheck

/-- The diagnostics of checks are about the rejected values, in their order. -/
theorem map_check_filterMap_diagnostic? (checks : List FieldCheck) :
    (checks.filterMap FieldCheck.diagnostic?).map (·.check)
      = checks.filter (·.verdict.isInvalid) := by
  rw [List.map_filterMap, ← List.filterMap_eq_filter]
  exact List.filterMap_congr fun f _ => f.map_check_diagnostic?

/-- A line is checked exactly if it is a field line of the block and a rule with a grammar for its
key governs the path that a cursor on it resolves to. The check then names the line, that path and
that rule; its value is the rest of the line behind the first colon, from the first letter to the
end, and the verdict is the grammar's on that value. Whenever a report is made, it counts the lines
that are checked, and its diagnostics are the rejected ones of their checks, in the order of the
lines and each once. -/
theorem reports_agree_with_lines (config : Config) (source : Text) (column : Nat) :
    (∀ line, (config.checkLine? source line).isSome = true
        ↔ Nonempty (GovernedLine config source line column))
      ∧ (∀ line f, config.checkLine? source line = some f →
          ∃ g : GovernedLine config source line column, g.Describes f)
      ∧ ∀ (checker : Checker) (document : Text) (report : Report),
          (checker.check config document source).2 = some report →
          report.document = document
            ∧ report.checked = (List.range (Text.lines source).length).countP
                (fun line => (config.checkLine? source line).isSome)
            ∧ report.diagnostics.map (·.check)
                = (config.lineChecks source).filter (·.verdict.isInvalid)
            ∧ (∀ d ∈ report.diagnostics, d.check.verdict = .invalid d.why)
            ∧ report.diagnostics.Pairwise (·.check.line < ·.check.line) := by
  refine ⟨?_, fun line f hf => exists_describes hf column, ?_⟩
  · intro line
    constructor
    · intro hsome
      obtain ⟨f, hf⟩ := Option.isSome_iff_exists.mp hsome
      exact nonempty_governedLine hf column
    · rintro ⟨g⟩
      exact Option.isSome_iff_exists.mpr ⟨_, g.checkLine?_eq⟩
  · intro checker document report hreport
    have heq : report = config.report document source := by
      rw [Checker.check] at hreport
      split at hreport
      · exact absurd hreport (by simp)
      · exact (Option.some.inj hreport).symm
    rw [Config.report_eq] at heq
    subst heq
    have hchecks := map_check_filterMap_diagnostic? (config.lineChecks source)
    refine ⟨rfl, List.length_filterMap_eq_countP, hchecks, ?_, ?_⟩
    · intro d hd
      obtain ⟨f, -, hf⟩ := List.mem_filterMap.mp hd
      exact FieldCheck.verdict_of_diagnostic? hf
    · have hordered := (config.pairwise_lineChecks source).filter (·.verdict.isInvalid)
      rw [← hchecks, List.pairwise_map] at hordered
      exact hordered

/-- A configuration with one rule, which asks for truth values below a field. -/
def truthValuesBelow : Config :=
  { settings := .default
    rules :=
      [{ id := "r", enabled := true, field := "a", child := none, source := .inline
         candidates := [], value := some { ValueConfig.default with kind := .boolean }
         display := .all, multiSelect := false }] }

/-- A document with two fields below that field, of which one has no truth value. -/
def accentedDocument : Text :=
  "---\na:\n  é: yes\n  ö: peut-être\nb: 1\n---".toList

/-- The check of the field without a truth value. Its columns are counted in characters. -/
def accentedCheck : FieldCheck :=
  { line := 3, path := "a.ö".toList, ruleId := "r", value := "peut-être".toList, start := 5
    stop := 14, verdict := .invalid .invalidBoolean }

/-- Three lines of the document are checked, and the value on the fourth one is rejected. -/
theorem report_agrees_with_lines_of_accentedDocument :
    (∃ g : GovernedLine truthValuesBelow accentedDocument 3 0, g.Describes accentedCheck)
      ∧ (truthValuesBelow.report "d".toList accentedDocument).checked = 3
      ∧ (truthValuesBelow.report "d".toList accentedDocument).diagnostics.map (·.check)
          = [accentedCheck] := by
  obtain ⟨-, hdescribes, hreport⟩ := reports_agree_with_lines truthValuesBelow accentedDocument 0
  obtain ⟨-, hchecked, hchecks, -, -⟩ := hreport .new "d".toList
    (truthValuesBelow.report "d".toList accentedDocument) rfl
  refine ⟨hdescribes 3 accentedCheck (by decide), ?_, ?_⟩
  · rw [hchecked]
    decide
  · rw [hchecks]
    decide

end Frontmatter
