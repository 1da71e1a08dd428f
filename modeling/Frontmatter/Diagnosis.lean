import Frontmatter.Config.Basic
import Frontmatter.Grammar.Basic
import Frontmatter.Outline

/-! # Diagnoses

Checking the values of a block. A field is checked against the grammar that the rule governing its
path gives for its key; fields without a rule or a grammar are passed over. A report on a document
lists the values that are rejected. `Checker` keeps what each document looked like at its last
report, and makes no report on a text that has not changed. -/

namespace Frontmatter

/-- The verdict on a field's value. -/
structure FieldCheck where
  /-- The field's line. -/
  line : Nat
  /-- The field's path. -/
  path : Path
  /-- The rule that governs the path. -/
  ruleId : Text
  /-- The value as it is written. -/
  value : Text
  /-- The column at which the value starts. -/
  start : Nat
  /-- The column at which the value ends. -/
  stop : Nat
  /-- The verdict. -/
  verdict : Verdict
  deriving DecidableEq, Repr

/-- Checks a field, if an enabled rule governs it and gives a grammar for its key. -/
def OutlineField.check? (f : OutlineField) (rules : List Rule) : Option FieldCheck :=
  (Rule.enabled? rules f.path).bind fun r =>
    (FieldGrammar.forField? r f.field.key).map fun g =>
      { line := f.line, path := f.path, ruleId := r.id, value := f.field.value,
        start := f.field.valueColumn, stop := f.field.valueColumn + f.field.value.length,
        verdict := g.check f.field.value }

/-- Checks all fields of a block, from the top. -/
def Block.checks (b : Block) (rules : List Rule) : List FieldCheck :=
  b.outline.filterMap (·.check? rules)

/-- Checks the field on a line of a document. -/
def Config.checkLine? (c : Config) (source : Text) (line : Nat) : Option FieldCheck :=
  (Block.parse? source c.settings.delimiter).bind fun b =>
    (b.outline.find? (·.line = line)).bind (·.check? c.rules)

/-! ## Reports -/

/-- A value that is rejected. -/
structure Diagnostic where
  /-- The check of the value. -/
  check : FieldCheck
  /-- Why it is rejected. -/
  why : Rejection
  deriving DecidableEq, Repr

/-- The diagnostic of a check, if the value is rejected. -/
def FieldCheck.diagnostic? (f : FieldCheck) : Option Diagnostic :=
  f.verdict.rejection?.map fun why => ⟨f, why⟩

/-- A report on a document. -/
structure Report where
  /-- The document's name. -/
  document : Text
  /-- How many values were checked. -/
  checked : Nat
  /-- The values that are rejected. -/
  diagnostics : List Diagnostic
  deriving DecidableEq, Repr

/-- Whether no value is rejected. -/
def Report.isClean (r : Report) : Bool :=
  r.diagnostics.isEmpty

/-- The report on a document. -/
def Config.report (c : Config) (document source : Text) : Report :=
  let checks := ((Block.parse? source c.settings.delimiter).map (·.checks c.rules)).getD []
  ⟨document, checks.length, checks.filterMap FieldCheck.diagnostic?⟩

/-! ## Skipping unchanged documents -/

/-- What documents looked like at their last reports. -/
structure Checker where
  /-- The text of each document at its last report, the latest report first. -/
  seen : List (Text × Text)
  /-- How many reports were made. -/
  passes : Nat
  deriving DecidableEq, Repr

namespace Checker

/-- Nothing was reported on. -/
def new : Checker := ⟨[], 0⟩

/-- The text of a document at its last report. -/
def text? (c : Checker) (document : Text) : Option Text :=
  c.seen.lookup document

/-- Forgets what a document looked like. -/
def forget (c : Checker) (document : Text) : Checker :=
  { c with seen := c.seen.filter (·.1 ≠ document) }

/-- Reports on a document, unless its text is the same as at its last report. -/
def check (c : Checker) (config : Config) (document source : Text) : Checker × Option Report :=
  if c.text? document = some source then (c, none)
  else
    ({ seen := (document, source) :: (c.forget document).seen, passes := c.passes + 1 },
      some (config.report document source))

end Checker

end Frontmatter
