import Frontmatter.Yaml.Node

/-! # Reading typed data

A configuration is read from different kinds of trees, and they differ in what they offer. A `Value`
knows the type of each scalar. A YAML node knows only how a scalar is spelled, so that what it
denotes depends on what is expected: an unquoted `5` is a text where a text is expected. `Readable`
lists the questions a reader may ask; every answer is none when the tree does not fit the
question. -/

namespace Frontmatter

/-- Trees from which typed data can be read. -/
class Readable (δ : Type) where
  /-- The text that the tree denotes. -/
  text? : δ → Option Text
  /-- The truth value that the tree denotes. -/
  bool? : δ → Option Bool
  /-- The natural number of up to 64 bits that the tree denotes. -/
  count? : δ → Option Nat
  /-- The double that the tree denotes. -/
  double? : δ → Option Binary64
  /-- The tree itself unless it denotes null. -/
  present? : δ → Option (Option δ)
  /-- The items of the list that the tree denotes. -/
  list? : δ → Option (List δ)
  /-- For each of the given names the tree of the field with that name, if there is one. No name may
  occur twice, and other fields are passed over. -/
  fields? : List Text → δ → Option (List (Option δ))
  /-- The name that the tree denotes where one of several names is expected. -/
  choice? : δ → Option Text
  /-- The value that the tree denotes by itself; repeated keys are kept. -/
  content? : δ → Option Value

namespace Readable

/-- Places the named ones among the given entries in the order of the names. -/
def place? {δ : Type} (names : List Text) (entries : List (Text × δ)) : Option (List (Option δ)) :=
  names.mapM fun name =>
    match entries.filter fun e => e.1 = name with
    | [] => some none
    | [e] => some (some e.2)
    | _ => none

/-- The places of a list's items among the given names; there must not be more items. -/
def positions? {δ : Type} (names : List Text) (items : List δ) : Option (List (Option δ)) :=
  if names.length < items.length then none
  else some (items.map some ++ List.replicate (names.length - items.length) none)

/-- The data read from a field, or what stands for it when the field is missing. -/
def orElse {δ α : Type} (default : α) (read : δ → Option α) : Option δ → Option α
  | none => some default
  | some d => read d

/-- The data read from a field that must not be missing. -/
def required {δ α : Type} (read : δ → Option α) : Option δ → Option α
  | none => none
  | some d => read d

variable {δ : Type} [Readable δ]

/-- Reads data that may be null. -/
def optional? {α : Type} (read : δ → Option α) (d : δ) : Option (Option α) :=
  (present? d).bind fun
    | none => some none
    | some d => (read d).map some

/-- Reads a list of data. -/
def listOf? {α : Type} (read : δ → Option α) (d : δ) : Option (List α) :=
  (list? d).bind fun items => items.mapM read

/-- Reads a list of texts. -/
def texts? : δ → Option (List Text) :=
  listOf? text?

end Readable

/-! ## Values -/

namespace Value

/-- The fields of a record with texts as keys, or of a list of fields in their order. -/
def fields? (names : List Text) : Value → Option (List (Option Value))
  | .record entries =>
    (entries.mapM fun (e : Value × Value) =>
      match e.1 with
      | .text name => some (name, e.2)
      | _ => none).bind (Readable.place? names)
  | .list items => Readable.positions? names items
  | _ => none

/-- A name is a text, or a record with null as its only entry's value. -/
def choice? : Value → Option Text
  | .text s => some s
  | .record [(.text s, .null)] => some s
  | _ => none

/-- How data are read from values. -/
instance : Readable Value where
  text?
    | .text s => some s
    | _ => none
  bool?
    | .bool b => some b
    | _ => none
  count?
    | .int (.ofNat n) => some n
    | _ => none
  double?
    | .float x => some x
    | .int n => some (.ofInt n)
    | _ => none
  present?
    | .null => some none
    | v => some (some v)
  list?
    | .list items => some items
    | _ => none
  fields? := fields?
  choice? := choice?
  content? := some

end Value

/-! ## YAML nodes -/

namespace Yaml

mutual

/-- The value that a node denotes by itself when repeated keys are kept and own tags are not
allowed. -/
def Node.contentAt? : Nat → Node → Option Value
  | _, .absent => some .null
  | _, .unreadable => none
  | _, .scalar tag style text =>
    if (ownTag? tag).isSome then none else scalarValue? tag style text
  | 0, .sequence _ _ => none
  | depth + 1, .sequence tag items =>
    if (ownTag? tag).isSome then none else (Node.contentsAt? depth items).map .list
  | 0, .mapping _ _ => none
  | depth + 1, .mapping tag entries =>
    if (ownTag? tag).isSome then none else (Node.pairsAt? depth entries).map .record

/-- The contents of several nodes. -/
def Node.contentsAt? : Nat → List Node → Option (List Value)
  | _, [] => some []
  | depth, node :: rest =>
    (Node.contentAt? depth node).bind fun v => (Node.contentsAt? depth rest).map (v :: ·)

/-- The contents of several pairs of nodes. -/
def Node.pairsAt? : Nat → List (Node × Node) → Option (List (Value × Value))
  | _, [] => some []
  | depth, (key, node) :: rest =>
    (Node.contentAt? depth key).bind fun k =>
      (Node.contentAt? depth node).bind fun v => (Node.pairsAt? depth rest).map ((k, v) :: ·)

end

/-- The spelling of a scalar that may denote something of a standard type: it is plain, or a literal
block with that type's tag. -/
def Node.spelling? (type : Text) : Node → Option Text
  | .scalar tag style text =>
    if style = .plain ∨ (style = .literal ∧ tag = some (standardTag type)) then some text else none
  | _ => none

/-- Whether a node is left out, as nothing or as an empty plain scalar. -/
def Node.isEmpty : Node → Bool
  | .absent => true
  | .scalar _ .plain [] => true
  | _ => false

/-- The text of a scalar, however it is written. -/
def Node.text? : Node → Option Text
  | .scalar _ _ text => some text
  | _ => none

/-- The node itself unless it is a plain scalar that denotes null. -/
def Node.present? (node : Node) : Option (Option Node) :=
  match node with
  | .absent => some none
  | .scalar tag .plain text =>
    match tag with
    | none => some (if text = [] ∨ isNullWord text then none else some node)
    | some tag =>
      if tag = standardTag "null" then (if isNullWord text then some none else none)
      else some (some node)
  | _ => some (some node)

/-- The fields of a mapping; a node that is left out has none. -/
def Node.fields? (names : List Text) (node : Node) : Option (List (Option Node)) :=
  match node with
  | .mapping _ entries =>
    (entries.mapM fun (e : Node × Node) => e.1.text?.map (·, e.2)).bind (Readable.place? names)
  | _ => if node.isEmpty then some (names.map fun _ => none) else none

/-- A name is the text of a scalar, or the own tag of a scalar that is null. -/
def Node.choice? : Node → Option Text
  | .scalar tag style text =>
    match ownTag? tag with
    | none => some text
    | some name => if style = .plain ∧ (text = [] ∨ isNullWord text) then some name else none
  | _ => none

/-- How data are read from nodes: scalars by their spelling. -/
instance : Readable Node where
  text? := Node.text?
  bool? node := (node.spelling? "bool").bind Yaml.bool?
  count? node :=
    (node.spelling? "int").bind fun text =>
      (natural? text).bind fun n => if n < Nat.pow 2 64 then some n else none
  double? node := (node.spelling? "float").bind Yaml.double?
  present? := Node.present?
  list?
    | .sequence _ items => some items
    | node => if node.isEmpty then some [] else none
  fields? := Node.fields?
  choice? := Node.choice?
  content? := Node.contentAt? nestingLimit

end Yaml

end Frontmatter
