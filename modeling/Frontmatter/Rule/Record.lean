import Frontmatter.Rule.Basic

/-! # Rules as records

How rules are read from records and written as records. Missing fields stand for defaults, save the
field's path, which every rule must state. Writing states every field, and leaves out only a child
and a value configuration that are not there. -/

namespace Frontmatter

open Readable

/-! ## Display flags -/

namespace DisplayFlags

/-- The names of the flags. -/
def names : List Text := ["show_icon", "show_key", "show_description"]

/-- Reads flags from a record. -/
def read? {δ : Type} [Readable δ] (d : δ) : Option DisplayFlags := do
  match ← fields? names d with
  | [icon, key, description] =>
    let icon ← orElse true bool? icon
    let key ← orElse true bool? key
    let description ← orElse true bool? description
    some { icon, key, description }
  | _ => none

/-- Flags as a record. -/
def toValue (f : DisplayFlags) : Value :=
  .object [("show_icon", .bool f.icon), ("show_key", .bool f.key),
    ("show_description", .bool f.description)]

end DisplayFlags

/-! ## Value configurations -/

namespace ValueConfig

/-- The names of the fields. -/
def names : List Text :=
  ["type", "required", "units", "unit_behavior", "min", "max", "allow_decimals", "values",
    "min_length", "max_length", "pattern"]

/-- Reads a value configuration from a record. -/
def read? {δ : Type} [Readable δ] (d : δ) : Option ValueConfig := do
  match ← fields? names d with
  | [kind, required, units, unitPolicy, min, max, allowDecimals, values, minLength, maxLength,
      pattern] =>
    let kind ← orElse .none (fun d => (choice? d).bind ValueKind.ofName?) kind
    let required ← orElse false bool? required
    let units ← orElse [] texts? units
    let unitPolicy ← orElse .required (fun d => (choice? d).bind UnitPolicy.ofName?) unitPolicy
    let min ← orElse none (optional? double?) min
    let max ← orElse none (optional? double?) max
    let allowDecimals ← orElse true bool? allowDecimals
    let values ← orElse [] texts? values
    let minLength ← orElse none (optional? count?) minLength
    let maxLength ← orElse none (optional? count?) maxLength
    let pattern ← orElse none (optional? text?) pattern
    some { kind, required, units, unitPolicy, min, max, allowDecimals, values, minLength, maxLength,
           pattern }
  | _ => none

/-- A datum that may be missing, with null for a missing one. -/
def orNull {α : Type} (write : α → Value) : Option α → Value
  | some a => write a
  | none => .null

/-- A value configuration as a record. -/
def toValue (c : ValueConfig) : Value :=
  .object
    [("type", .text c.kind.name), ("required", .bool c.required),
      ("units", .list (c.units.map .text)), ("unit_behavior", .text c.unitPolicy.name),
      ("min", orNull .float c.min), ("max", orNull .float c.max),
      ("allow_decimals", .bool c.allowDecimals), ("values", .list (c.values.map .text)),
      ("min_length", orNull (fun n : Nat => .int n) c.minLength),
      ("max_length", orNull (fun n : Nat => .int n) c.maxLength),
      ("pattern", orNull .text c.pattern)]

end ValueConfig

/-! ## Rules -/

namespace Rule

/-- The names of the fields. -/
def names : List Text :=
  ["id", "enabled", "field", "child", "source", "options", "value", "display", "multi_select"]

/-- Reads a rule from a record; `freshId` names a rule that has no name. -/
def read? {δ : Type} [Readable δ] (freshId : Text) (d : δ) : Option Rule := do
  match ← fields? names d with
  | [id, enabled, field, child, source, candidates, value, display, multiSelect] =>
    let id ← orElse freshId text? id
    let enabled ← orElse true bool? enabled
    let field ← required text? field
    let child ← orElse none (optional? text?) child
    let source ← orElse .inline (fun d => (choice? d).bind Source.ofName?) source
    let candidates ← orElse [] (listOf? Candidate.read?) candidates
    let value ← orElse none (optional? ValueConfig.read?) value
    let display ← orElse .all DisplayFlags.read? display
    let multiSelect ← orElse false bool? multiSelect
    some { id, enabled, field, child, source, candidates, value, display, multiSelect }
  | _ => none

/-- A rule as a record. -/
def toValue (r : Rule) : Value :=
  .object <|
    [("id".toList, Value.text r.id), ("enabled".toList, .bool r.enabled),
        ("field".toList, .text r.field)]
      ++ (r.child.map fun s => ("child".toList, Value.text s)).toList
      ++ [("source".toList, .text r.source.name),
        ("options".toList, .list (r.candidates.map Candidate.toValue))]
      ++ (r.value.map fun c => ("value".toList, c.toValue)).toList
      ++ [("display".toList, r.display.toValue), ("multi_select".toList, .bool r.multiSelect)]

end Rule

end Frontmatter
