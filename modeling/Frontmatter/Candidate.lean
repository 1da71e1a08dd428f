import Frontmatter.Readable
import Frontmatter.Text.Blank

/-! # Candidate keys

A rule offers candidate keys. A candidate may have a description, an icon, and a type that its
values must have. It is written as a declaration, such as `hiking: number | km, mi` or
`hiking|Outdoor walk|🥾`, or as a record with its parts. -/

namespace Frontmatter

/-- The type that a candidate's values must have. -/
inductive CandidateType where
  /-- A number with one of the units, if there are any. -/
  | number (units : List Text)
  /-- A truth value. -/
  | boolean
  /-- One of the values. -/
  | enum (values : List Text)
  deriving DecidableEq, Repr

namespace CandidateType

/-- The name of a type. -/
def name : CandidateType → Text
  | .number _ => "number"
  | .boolean => "boolean"
  | .enum _ => "enum"

/-- The type with a name, in capital or small letters, and its parameters. -/
def ofName? (name : Text) (params : List Text) : Option CandidateType :=
  let name := Text.asciiLower name
  if name = "number".toList then some (.number params)
  else if name = "boolean".toList then some .boolean
  else if name = "enum".toList then some (.enum params)
  else none

/-- Reads a type from a record with its name and its parameters. -/
def read? {δ : Type} [Readable δ] (d : δ) : Option CandidateType := do
  match ← Readable.fields? ["type", "units", "values"] d with
  | [some name, units, values] =>
    let name ← Readable.choice? name
    let params := Readable.orElse [] Readable.texts?
    if name = "number".toList then (params units).map .number
    else if name = "boolean".toList then some .boolean
    else if name = "enum".toList then (params values).map .enum
    else none
  | _ => none

end CandidateType

/-- A key that a rule offers. -/
structure Candidate where
  /-- The key. -/
  key : Text
  /-- What the key means. -/
  description : Option Text
  /-- A picture for the key. -/
  icon : Option Text
  /-- The type of the key's values. -/
  type : Option CandidateType
  deriving DecidableEq, Repr

namespace Candidate

/-- A candidate without description, icon and type. -/
def plain (key : Text) : Candidate :=
  ⟨key, none, none, none⟩

/-! ## Declarations -/

/-- The parameters of a type: the parts between commas, trimmed, without empty ones. -/
def parameters (s : Text) : List Text :=
  ((Text.splitOn ',' s).map Text.trim).filter (· ≠ [])

/-- A text unless it is empty. -/
def nonEmpty? (s : Text) : Option Text :=
  if s = [] then none else some s

/-- The candidate of a declaration without a colon: a key, a description and an icon between
bars. -/
def ofBars (s : Text) : Candidate :=
  let parts := (Text.splitOn '|' s).map Text.trim
  { key := parts.head?.getD []
    description := parts[1]?.bind nonEmpty?
    icon := parts[2]?.bind nonEmpty?
    type := none }

/-- The type stated behind the colon of a declaration: a name, and behind a bar its parameters. An
unknown name states none. -/
def statedType? (s : Text) : Option CandidateType :=
  match Text.cut '|' s with
  | some (name, params) => CandidateType.ofName? (Text.trim name) (parameters params)
  | none => CandidateType.ofName? (Text.trim s) []

/-- The candidate that a declaration declares. -/
def parse (declaration : Text) : Candidate :=
  let s := Text.trim declaration
  match Text.cut ':' s with
  | some (key, rest) => { plain (Text.trim key) with type := statedType? rest }
  | none => ofBars s

/-! ## Reading -/

/-- The names of a candidate's parts. -/
def partNames : List Text :=
  ["key", "description", "icon", "type", "units", "values"]

/-- The name of a part: a text, or the part's number among the names. -/
def partName? : Value → Option Text
  | .text name => some name
  | .int (.ofNat n) => some ((partNames[n]?).getD [])
  | _ => none

open Readable in
/-- The candidate of a record with its parts. The values are the parameters of an enum, and the
units those of any other type. -/
def ofParts? (entries : List (Value × Value)) : Option Candidate := do
  let named ← entries.mapM fun (e : Value × Value) => (partName? e.1).map (·, e.2)
  match ← place? partNames named with
  | [key, description, icon, type, units, values] =>
    let key ← required text? key
    let description ← orElse none (optional? text?) description
    let icon ← orElse none (optional? text?) icon
    let type ← orElse none (optional? text?) type
    let units ← orElse [] texts? units
    let values ← orElse [] texts? values
    let params := fun name : Text => if Text.asciiLower name = "enum".toList then values else units
    some { key, description, icon
           type := type.bind fun name => CandidateType.ofName? name (params name) }
  | _ => none

/-- Reads a candidate from a declaration or a record of its parts. -/
def ofValue? : Value → Option Candidate
  | .text declaration => some (parse declaration)
  | .record entries => ofParts? entries
  | _ => none

/-- Reads a candidate. -/
def read? {δ : Type} [Readable δ] (d : δ) : Option Candidate :=
  (Readable.content? d).bind ofValue?

/-! ## Writing -/

/-- The entries of a type in a candidate's record. -/
def typeEntries : CandidateType → List (Text × Value)
  | .number units => [("type", .text "number"), ("units", .list (units.map .text))]
  | .boolean => [("type", .text "boolean")]
  | .enum values => [("type", .text "enum"), ("values", .list (values.map .text))]

/-- A candidate as a record of its parts; missing parts are left out. -/
def toValue (c : Candidate) : Value :=
  .object <|
    [("key".toList, .text c.key)]
      ++ (c.description.map fun s => ("description".toList, Value.text s)).toList
      ++ (c.icon.map fun s => ("icon".toList, Value.text s)).toList
      ++ (c.type.map typeEntries).getD []

end Candidate

end Frontmatter
