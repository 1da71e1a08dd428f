import Frontmatter.Candidate
import Frontmatter.Path

/-! # Rules

A rule governs the fields at and below a declared path. It offers candidate keys and may state what
values the fields must have. -/

namespace Frontmatter

/-- Where a rule's candidates come from. -/
inductive Source where
  /-- The rule lists them. -/
  | inline
  /-- The tags in use. -/
  | tags
  /-- The files at hand. -/
  | files
  /-- Dates. -/
  | date
  /-- Values used before. -/
  | recent
  deriving DecidableEq, Repr

namespace Source

/-- All sources. -/
def all : List Source := [.inline, .tags, .files, .date, .recent]

/-- The name of a source. -/
def name : Source → Text
  | .inline => "inline"
  | .tags => "tags"
  | .files => "files"
  | .date => "date"
  | .recent => "recent"

/-- The source with a name. -/
def ofName? (s : Text) : Option Source :=
  all.find? fun x => x.name = s

end Source

/-- Which parts of a candidate are shown. -/
structure DisplayFlags where
  /-- Whether its icon is. -/
  icon : Bool
  /-- Whether its key is. -/
  key : Bool
  /-- Whether its description is. -/
  description : Bool
  deriving DecidableEq, Repr

/-- All parts are shown. -/
def DisplayFlags.all : DisplayFlags := ⟨true, true, true⟩

/-- The kind of values that a rule asks for. -/
inductive ValueKind where
  /-- A text. -/
  | text
  /-- A number. -/
  | number
  /-- A truth value. -/
  | boolean
  /-- One of a list of values. -/
  | enum
  /-- Anything. -/
  | none
  deriving DecidableEq, Repr

namespace ValueKind

/-- All kinds. -/
def all : List ValueKind := [.text, .number, .boolean, .enum, .none]

/-- The name of a kind. -/
def name : ValueKind → Text
  | .text => "text"
  | .number => "number"
  | .boolean => "boolean"
  | .enum => "enum"
  | .none => "none"

/-- The kind with a name. -/
def ofName? (s : Text) : Option ValueKind :=
  all.find? fun x => x.name = s

end ValueKind

/-- What a number value does with units. -/
inductive UnitPolicy where
  /-- One of the declared units stands behind the number. -/
  | required
  /-- The number may stand alone. -/
  | optional
  /-- The number stands alone. -/
  | forbidden
  deriving DecidableEq, Repr

namespace UnitPolicy

/-- All policies. -/
def all : List UnitPolicy := [.required, .optional, .forbidden]

/-- The name of a policy. -/
def name : UnitPolicy → Text
  | .required => "required"
  | .optional => "optional"
  | .forbidden => "forbidden"

/-- The policy with a name. -/
def ofName? (s : Text) : Option UnitPolicy :=
  all.find? fun x => x.name = s

end UnitPolicy

/-- What a rule asks of its fields' values. -/
structure ValueConfig where
  /-- The kind of the values. -/
  kind : ValueKind
  /-- Whether a value must be there. -/
  required : Bool
  /-- The units of numbers. -/
  units : List Text
  /-- What numbers do with units. -/
  unitPolicy : UnitPolicy
  /-- The least number. -/
  min : Option Binary64
  /-- The greatest number. -/
  max : Option Binary64
  /-- Whether numbers may have a fraction. -/
  allowDecimals : Bool
  /-- The values of an enum. -/
  values : List Text
  /-- The least length of a text. -/
  minLength : Option Nat
  /-- The greatest length of a text. -/
  maxLength : Option Nat
  /-- A pattern that a text must match. -/
  pattern : Option Text
  deriving DecidableEq, Repr

/-- Asks for nothing. -/
def ValueConfig.default : ValueConfig :=
  { kind := .none, required := false, units := [], unitPolicy := .required, min := none
    max := none, allowDecimals := true, values := [], minLength := none, maxLength := none
    pattern := none }

/-- A rule for the fields at and below a path. -/
structure Rule where
  /-- The rule's name. -/
  id : Text
  /-- Whether the rule applies. -/
  enabled : Bool
  /-- The path of the parent field. -/
  field : Text
  /-- A key below that field. -/
  child : Option Text
  /-- Where the candidates come from. -/
  source : Source
  /-- The candidates that the rule lists. -/
  candidates : List Candidate
  /-- What the rule asks of values. -/
  value : Option ValueConfig
  /-- Which parts of a candidate are shown. -/
  display : DisplayFlags
  /-- Whether several candidates may be picked together. -/
  multiSelect : Bool
  deriving DecidableEq, Repr

namespace Rule

/-- The path that a rule governs: its field, and the child below it unless that is blank. -/
def declaredPath (r : Rule) : Path :=
  match r.child.map Text.trim with
  | some (c :: child) => Path.child (Text.trim r.field) (c :: child)
  | _ => Text.trim r.field

/-- The number of segments of the declared path. -/
def depth (r : Rule) : Nat :=
  r.declaredPath.depth

/-- The first candidate with a key. -/
def candidate? (r : Rule) (key : Text) : Option Candidate :=
  r.candidates.find? (·.key = key)

/-- The rule that governs a path: the first that declares it, or else the first whose declared path
it extends. -/
def governing? (rules : List Rule) (path : Path) : Option Rule :=
  (rules.find? (·.declaredPath = path)).or (rules.find? fun r => path.isBelow r.declaredPath)

/-- The rule that governs a path if it is enabled. -/
def enabled? (rules : List Rule) (path : Path) : Option Rule :=
  (governing? rules path).filter (·.enabled)

end Rule

end Frontmatter
