import Frontmatter.Proofs.Diagnosis
import Frontmatter.Proofs.Path
import Frontmatter.Proofs.Suggestion
import Frontmatter.Proofs.Text.LineEnding
import Frontmatter.Proofs.Text.Trim

/-! # Which delimiters serve

A configuration is accepted with any delimiter that is not blank, and white space around it does not
matter for that. Lines are compared with the delimiter without the white space around the line, but
with that around the delimiter. `delimiter_serves_iff_tight` says what follows: a tight delimiter
serves, in that all documents which it delimits have a block of the lines between, and with any
other delimiter no document has a block. -/

namespace Frontmatter

namespace Text

/-- A text without line feeds, behind which there is a line ending, is the first line. -/
theorem lines_append_returnFeed {line : Text} (hfeed : '\n' ∉ line) (rest : Text) :
    lines (line ++ returnFeed ++ rest) = line :: lines rest := by
  -- The carriage return ends the part before the line feed, where closing a line drops it. Without
  -- one a carriage return of the line itself would be dropped.
  have hpart : '\n' ∉ line ++ ['\r'] := by simpa using hfeed
  have hsource : line ++ returnFeed ++ rest = (line ++ ['\r']) ++ '\n' :: rest := by
    simp [returnFeed]
  rw [lines, hsource, splitOn_append_cons, splitOn_of_not_mem hpart,
    closeLines_append _ (splitOn_ne_nil '\n' rest), lines]
  simp [dropReturn]

/-- A text without line feeds that is not empty is a line. -/
theorem lines_of_not_mem {line : Text} (hfeed : '\n' ∉ line) (hne : line ≠ []) :
    lines line = [line] := by
  rw [lines, splitOn_of_not_mem hfeed, closeLines, if_neg hne]

end Text

/-- Only a tight delimiter is ever found. -/
theorem Block.trim_eq_self_of_parse? {source delimiter : Text} {b : Block}
    (h : parse? source delimiter = some b) : Text.trim delimiter = delimiter := by
  obtain ⟨opening, -, -, -, hopening, -⟩ := exists_lines_of_parse? h
  have htrim : Text.trim opening = delimiter := of_decide_eq_true hopening
  rw [← htrim, Text.trim_trim]

namespace Config

variable {c : Config} {source : Text} {inside : List Text}

/-! ## Delimited documents -/

/-- A document that a delimiter starts, and that has the delimiter again behind lines which are
something else. -/
structure Delimited (delimiter source : Text) (inside : List Text) : Prop where
  /-- The delimiter is on the first line and behind the lines inside. -/
  exists_lines_eq : ∃ rest, Text.lines source = delimiter :: (inside ++ delimiter :: rest)
  /-- White space apart, the lines inside are not the delimiter. -/
  trim_ne : ∀ line ∈ inside, Text.trim line ≠ Text.trim delimiter

/-- A document is worked on with a configuration: it has a block of some lines, and on each field
line among them there is a context, with what is offered, and a check. -/
structure WorksOn (c : Config) (source : Text) (inside : List Text) : Prop where
  /-- The document has a block that spans the lines. -/
  block : ∃ b, c.block? source = some b ∧ b.span = ⟨0, inside.length + 1⟩ ∧ b.inside = inside
  /-- A cursor on a field line has that field's context, the rule that makes offers there makes one,
  and the field is checked. -/
  field : ∀ i text field column, inside[i]? = some text → FieldLine.parse? text = some field →
    ∃ x, c.context? source (i + 1) column = some x ∧ x.kind = .field ∧ x.keyLine = i + 1
      ∧ (c.suggest? source (i + 1) column).map (·.ruleId) = (c.offeringRule? x).map (·.id)
      ∧ c.checkLine? source (i + 1) = OutlineField.check? ⟨i + 1, x.path, field⟩ c.rules

/-- A configuration's delimiter serves if all documents that it delimits are worked on. -/
def DelimiterServes (c : Config) : Prop :=
  ∀ source inside, Delimited c.settings.delimiter source inside → c.WorksOn source inside

/-- A document that has a block of some lines is worked on. -/
theorem worksOn_of_block? {b : Block} (hb : c.block? source = some b)
    (hspan : b.span = ⟨0, inside.length + 1⟩) (hinside : b.inside = inside) :
    c.WorksOn source inside where
  block := ⟨b, hb, hspan, hinside⟩
  field := by
    intro i text field column htext hfield
    rw [← hinside, Block.inside_getElem?, hspan, Nat.zero_add, Nat.add_comm 1 i] at htext
    have hp : (⟨i + 1, field⟩ : PlacedField) ∈ b.fields :=
      Block.mem_fields.mpr ⟨text, htext, hfield⟩
    obtain ⟨x, hx, hkind, hkey, hpath⟩ := Block.exists_resolve?_of_mem_fields hp column
    have hfound : b.outline.find? (·.line = i + 1) = some ⟨i + 1, x.path, field⟩ :=
      (find?_number_eq_some_iff b.pairwise_outline).mpr
        ⟨Block.mem_outline.mpr ⟨_, hp, by rw [hpath]⟩, rfl⟩
    refine ⟨x, ?_, hkind, hkey, ?_, ?_⟩
    · rw [context?, hb, Option.bind_some, hx]
    · rw [suggest?_eq_map hb hx, Option.map_map]
      rfl
    · rw [block?] at hb
      rw [checkLine?, hb, Option.bind_some, hfound, Option.bind_some]

/-- A tight delimiter serves. -/
theorem delimiterServes_of_tight (htight : Text.trim c.settings.delimiter = c.settings.delimiter) :
    c.DelimiterServes := by
  rintro source inside ⟨⟨rest, hlines⟩, hne⟩
  -- Being tight, the delimiter is what trimming leaves of its own line.
  have hother : ∀ line ∈ inside, BlockSpan.isDelimiter c.settings.delimiter line = false :=
    fun line hline => decide_eq_false (htight ▸ hne line hline)
  obtain ⟨b, hb, hinside, hspan⟩ :=
    Block.parse?_of_lines hlines (decide_eq_true htight) hother (decide_eq_true htight)
  exact worksOn_of_block? hb hspan hinside

/-! ## White space around the delimiter -/

/-- A configuration without the white space around its delimiter. -/
def tightened (c : Config) : Config :=
  { c with settings := { c.settings with delimiter := Text.trim c.settings.delimiter } }

/-- White space around the delimiter is neither a fault nor keeps one away. -/
theorem fault?_tightened (c : Config) : c.tightened.fault? = c.fault? := by
  rw [fault?, fault?, tightened, Text.trim_trim]

/-- There is a document that consists of a delimiter's line twice. -/
theorem exists_delimited {delimiter : Text} (hfeed : '\n' ∉ delimiter) (hne : delimiter ≠ []) :
    ∃ source, Delimited delimiter source [] := by
  refine ⟨delimiter ++ Text.returnFeed ++ delimiter, ⟨[], ?_⟩, by simp⟩
  rw [Text.lines_append_returnFeed hfeed, Text.lines_of_not_mem hfeed hne, List.nil_append]

/-- **A delimiter without line feeds serves exactly if it is tight.** With any other one no document
has a block, so that there are no contexts, offers or checks. A configuration has the same fault
without the white space around its delimiter, and then the delimiter serves: among the accepted ones
are those that do not, and the white space is all that is wrong with them. -/
theorem delimiter_serves_iff_tight (hfeed : '\n' ∉ c.settings.delimiter) :
    (c.DelimiterServes ↔ Text.trim c.settings.delimiter = c.settings.delimiter)
      ∧ (Text.trim c.settings.delimiter ≠ c.settings.delimiter → ∀ source,
          c.block? source = none
            ∧ (∀ line column, c.context? source line column = none
              ∧ c.suggest? source line column = none)
            ∧ (∀ line, c.checkLine? source line = none)
            ∧ ∀ document, c.report document source = ⟨document, 0, []⟩)
      ∧ c.tightened.fault? = c.fault? ∧ c.tightened.DelimiterServes := by
  refine ⟨⟨fun hserves => ?_, delimiterServes_of_tight⟩, fun htight source => ?_,
    c.fault?_tightened, delimiterServes_of_tight (Text.trim_trim _)⟩
  · by_cases hne : c.settings.delimiter = []
    · rw [hne]
      rfl
    · -- It is enough that it serves a document with nothing inside.
      obtain ⟨source, hsource⟩ := exists_delimited hfeed hne
      obtain ⟨b, hb, -⟩ := (hserves source [] hsource).block
      exact Block.trim_eq_self_of_parse? hb
  · -- All that is said of a document is said of its block.
    have hnone : c.block? source = none :=
      Option.eq_none_iff_forall_not_mem.mpr fun b hb => htight (Block.trim_eq_self_of_parse? hb)
    refine ⟨hnone, fun line column => ⟨?_, ?_⟩, fun line => ?_, fun document => ?_⟩
    · rw [context?, hnone, Option.bind_none]
    · rw [suggest?, hnone, Option.bind_none]
    · rw [block?] at hnone
      rw [checkLine?, hnone, Option.bind_none]
    · rw [report_eq, lineChecks_eq_nil hnone]
      rfl

/-- A configuration with a space before its delimiter, and a rule. -/
def spacedDelimiter : Config :=
  { settings := { Settings.default with delimiter := " ---".toList }
    rules :=
      [{ id := "field", enabled := true, field := "a", child := none, source := .inline
         candidates := [.plain "x".toList], value := none, display := .all
         multiSelect := false }] }

/-- The space is no fault, and without it the delimiter serves. -/
theorem delimiter_serves_iff_tight_of_spacedDelimiter :
    '\n' ∉ spacedDelimiter.settings.delimiter ∧ spacedDelimiter.fault? = none
      ∧ ¬ spacedDelimiter.DelimiterServes ∧ spacedDelimiter.tightened.fault? = none
      ∧ spacedDelimiter.tightened.DelimiterServes := by
  have hfeed : '\n' ∉ spacedDelimiter.settings.delimiter := by decide
  have hfault : spacedDelimiter.fault? = none := by decide
  obtain ⟨hserves, -, hfault', htightened⟩ := delimiter_serves_iff_tight hfeed
  refine ⟨hfeed, hfault, fun h => ?_, hfault'.trans hfault, htightened⟩
  exact absurd (hserves.mp h) (by decide)

/-- The delimiter with a space before it is accepted, and a document that it delimits has neither a
block nor contexts, offers or checks. -/
theorem accepted_spacedDelimiter_finds_no_block :
    spacedDelimiter.fault? = none ∧ '\n' ∉ spacedDelimiter.settings.delimiter
      ∧ Delimited spacedDelimiter.settings.delimiter " ---\na:\n ---".toList ["a:".toList]
      ∧ spacedDelimiter.block? " ---\na:\n ---".toList = none
      ∧ spacedDelimiter.context? " ---\na:\n ---".toList 1 2 = none
      ∧ spacedDelimiter.suggest? " ---\na:\n ---".toList 1 2 = none
      ∧ spacedDelimiter.checkLine? " ---\na:\n ---".toList 1 = none :=
  ⟨by decide, by decide, ⟨⟨[], by decide⟩, by decide⟩, rfl, rfl, rfl, rfl⟩

end Config

end Frontmatter
