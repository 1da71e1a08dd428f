import Frontmatter.Block.Span
import Frontmatter.Rule.Record

/-! # Configurations

A configuration holds the settings and the rules. `Config.fault?` says what makes it unusable, if
anything does, and `Config.read?` and `Config.toValue` read it from a record and write it as one. -/

namespace Frontmatter

open Readable

/-- What applies to all rules. -/
structure Settings where
  /-- How long a query must be before suggestions appear. -/
  minQueryLength : Nat
  /-- How many suggestions there may be. -/
  maxSuggestions : Nat
  /-- Whether a query's capitals matter. -/
  caseSensitive : Bool
  /-- Whether inserted keys are indented below their parent. -/
  autoIndent : Bool
  /-- How many milliseconds pass before a changed line is checked again. -/
  validationDelay : Nat
  /-- Whether values are checked. -/
  validate : Bool
  /-- The line that delimits a block. -/
  delimiter : Text
  deriving DecidableEq, Repr

namespace Settings

/-- The settings when nothing is configured. -/
def default : Settings :=
  { minQueryLength := 0, maxSuggestions := 20, caseSensitive := false, autoIndent := true,
    validationDelay := 500, validate := true, delimiter := defaultDelimiter }

/-- The names of the fields. -/
def names : List Text :=
  ["min_query_length", "max_suggestions", "case_sensitive", "auto_indent", "validation_delay_ms",
    "validate", "delimiter"]

/-- Reads settings from a record. -/
def read? {δ : Type} [Readable δ] (d : δ) : Option Settings := do
  match ← fields? names d with
  | [minQueryLength, maxSuggestions, caseSensitive, autoIndent, validationDelay, validate,
      delimiter] =>
    let minQueryLength ← orElse default.minQueryLength count? minQueryLength
    let maxSuggestions ← orElse default.maxSuggestions count? maxSuggestions
    let caseSensitive ← orElse default.caseSensitive bool? caseSensitive
    let autoIndent ← orElse default.autoIndent bool? autoIndent
    let validationDelay ← orElse default.validationDelay count? validationDelay
    let validate ← orElse default.validate bool? validate
    let delimiter ← orElse default.delimiter text? delimiter
    some { minQueryLength, maxSuggestions, caseSensitive, autoIndent, validationDelay, validate,
           delimiter }
  | _ => none

/-- Settings as a record. -/
def toValue (s : Settings) : Value :=
  .object
    [("min_query_length", .int s.minQueryLength), ("max_suggestions", .int s.maxSuggestions),
      ("case_sensitive", .bool s.caseSensitive), ("auto_indent", .bool s.autoIndent),
      ("validation_delay_ms", .int s.validationDelay), ("validate", .bool s.validate),
      ("delimiter", .text s.delimiter)]

end Settings

/-- A configuration. -/
structure Config where
  /-- What applies to all rules. -/
  settings : Settings
  /-- The rules, in the order in which they are tried. -/
  rules : List Rule
  deriving DecidableEq, Repr

/-- What makes a configuration unusable. -/
inductive ConfigFault where
  /-- No suggestions are allowed. -/
  | noSuggestions
  /-- The delimiter is blank. -/
  | blankDelimiter
  /-- A rule's path has no segments. -/
  | emptyPath (ruleId : Text)
  deriving DecidableEq, Repr

/-- The text of a fault. -/
def ConfigFault.message : ConfigFault → Text
  | .noSuggestions => "Invalid configuration: settings.max_suggestions must be greater than 0"
  | .blankDelimiter => "Invalid configuration: settings.delimiter must not be empty"
  | .emptyPath ruleId =>
    "Invalid configuration: rule '".toList ++ ruleId ++ "' has an empty field path".toList

namespace Config

/-- The configuration when nothing is configured. -/
def default : Config := ⟨.default, []⟩

/-- The first fault of a configuration. -/
def fault? (c : Config) : Option ConfigFault :=
  if c.settings.maxSuggestions = 0 then some .noSuggestions
  else if Text.trim c.settings.delimiter = [] then some .blankDelimiter
  else (c.rules.find? fun r => r.depth = 0).map fun r => .emptyPath r.id

/-- Reads rules from a list; `freshId` names the rules that have no name, by their place. -/
def readRules? {δ : Type} [Readable δ] (freshId : Nat → Text) (d : δ) : Option (List Rule) :=
  (list? d).bind fun items => items.zipIdx.mapM fun p => Rule.read? (freshId p.2) p.1

/-- Reads a configuration from a record. -/
def read? {δ : Type} [Readable δ] (freshId : Nat → Text) (d : δ) : Option Config := do
  match ← fields? ["settings", "rules"] d with
  | [settings, rules] =>
    let settings ← orElse .default Settings.read? settings
    let rules ← orElse [] (readRules? freshId) rules
    some { settings, rules }
  | _ => none

/-- A configuration as a record. -/
def toValue (c : Config) : Value :=
  .object [("settings", c.settings.toValue), ("rules", .list (c.rules.map Rule.toValue))]

end Config

end Frontmatter
