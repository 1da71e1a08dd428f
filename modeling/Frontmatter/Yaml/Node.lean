import Frontmatter.Yaml.Event
import Frontmatter.Yaml.Scalar

/-! # YAML nodes

A node is the tree that a document's events describe, with every reference replaced by what it
refers to. A reference that would nest more than `nestingLimit` collections, or one too many, is
unreadable: that only matters to a reader that wants to look at it. `Node.value?` gives the value
that a node denotes. -/

namespace Frontmatter

namespace Yaml

/-- How many collections may be nested. -/
def nestingLimit : Nat := 128

/-- A tree of scalars and collections. -/
inductive Node where
  /-- There is no document. -/
  | absent
  /-- A reference that cannot be followed. -/
  | unreadable
  /-- A scalar with its tag. -/
  | scalar (tag : Option Text) (style : ScalarStyle) (text : Text)
  /-- A sequence with its tag. -/
  | sequence (tag : Option Text) (items : List Node)
  /-- A mapping with its tag. -/
  | mapping (tag : Option Text) (entries : List (Node × Node))
  deriving Repr, Inhabited

/-! ## References -/

/-- The anchor that an event defines. -/
def Event.anchor? : Event → Option Text
  | .alias _ => none
  | .scalar props _ _ => props.anchor
  | .sequenceStart props => props.anchor
  | .sequenceEnd => none
  | .mappingStart props => props.anchor
  | .mappingEnd => none

/-- An event with the number of the anchor that it defines or refers to. -/
abbrev Linked := Event × Nat

/-- Numbers the anchors: a new definition gets the number of names known before it, and a reference
the number of its name's latest definition. A reference to an unknown name is an error. -/
def link? : List (Text × Nat) → List Event → Option (List Linked)
  | _, [] => some []
  | names, .alias name :: rest =>
    (names.lookup name).bind fun id => (link? names rest).map ((.alias name, id) :: ·)
  | names, event :: rest =>
    match event.anchor? with
    | some name =>
      let id := names.length
      (link? ((name, id) :: names.filter (·.1 ≠ name)) rest).map ((event, id) :: ·)
    | none => (link? names rest).map ((event, 0) :: ·)

/-- For each anchor number the events from its node on; of several definitions the last comes
first. -/
def targets : List Linked → List (Nat × List Linked)
  | [] => []
  | (event, id) :: rest =>
    if event.anchor?.isSome then targets rest ++ [(id, (event, id) :: rest)] else targets rest

/-! ## The tree -/

/-- What building a part of the tree yields. -/
structure Built (α : Type) where
  /-- The part. -/
  part : α
  /-- The events behind it. -/
  rest : List Linked
  /-- The number of references followed so far. -/
  followed : Nat

mutual

/-- Builds the node at the head of the events, inside `depth` collections. -/
def buildNode (anchors : List (Nat × List Linked)) (limit : Nat) :
    Nat → Nat → Nat → List Linked → Built Node
  | 0, _, followed, events => ⟨.unreadable, events, followed⟩
  | _ + 1, _, followed, [] => ⟨.unreadable, [], followed⟩
  | fuel + 1, depth, followed, (event, id) :: rest =>
    match event with
    | .scalar props style text => ⟨.scalar props.tag style text, rest, followed⟩
    | .alias _ =>
      if nestingLimit < depth ∨ limit ≤ followed then ⟨.unreadable, rest, followed + 1⟩
      else
        match anchors.lookup id with
        | none => ⟨.unreadable, rest, followed + 1⟩
        | some events =>
          let built := buildNode anchors limit fuel depth (followed + 1) events
          ⟨built.part, rest, built.followed⟩
    | .sequenceStart props =>
      let items := buildItems anchors limit fuel (depth + 1) followed rest
      ⟨.sequence props.tag items.part, items.rest, items.followed⟩
    | .mappingStart props =>
      let entries := buildEntries anchors limit fuel (depth + 1) followed rest
      ⟨.mapping props.tag entries.part, entries.rest, entries.followed⟩
    | .sequenceEnd => ⟨.unreadable, rest, followed⟩
    | .mappingEnd => ⟨.unreadable, rest, followed⟩

/-- Builds the nodes up to the end of a sequence. -/
def buildItems (anchors : List (Nat × List Linked)) (limit : Nat) :
    Nat → Nat → Nat → List Linked → Built (List Node)
  | 0, _, followed, events => ⟨[], events, followed⟩
  | _ + 1, _, followed, [] => ⟨[], [], followed⟩
  | fuel + 1, depth, followed, (event, id) :: rest =>
    if event = .sequenceEnd then ⟨[], rest, followed⟩
    else
      let item := buildNode anchors limit fuel depth followed ((event, id) :: rest)
      let more := buildItems anchors limit fuel depth item.followed item.rest
      ⟨item.part :: more.part, more.rest, more.followed⟩

/-- Builds the pairs of nodes up to the end of a mapping. -/
def buildEntries (anchors : List (Nat × List Linked)) (limit : Nat) :
    Nat → Nat → Nat → List Linked → Built (List (Node × Node))
  | 0, _, followed, events => ⟨[], events, followed⟩
  | _ + 1, _, followed, [] => ⟨[], [], followed⟩
  | fuel + 1, depth, followed, (event, id) :: rest =>
    if event = .mappingEnd then ⟨[], rest, followed⟩
    else
      let key := buildNode anchors limit fuel depth followed ((event, id) :: rest)
      let value := buildNode anchors limit fuel depth key.followed key.rest
      let more := buildEntries anchors limit fuel depth value.followed value.rest
      ⟨(key.part, value.part) :: more.part, more.rest, more.followed⟩

end

/-- The node of a document's events. At most a hundred references per event are followed. -/
def Node.ofEvents? (events : List Event) : Option Node :=
  if events = [] then some .absent
  else
    (link? [] events).map fun linked =>
      let fuel := (nestingLimit + 2) * (2 * linked.length + 4)
      (buildNode (targets linked) (100 * linked.length) fuel 0 0 linked).part

/-- The node of a YAML text that holds at most one document. -/
def Node.read? (s : Text) : Option Node :=
  (Token.scan? s).bind fun tokens => (Event.ofTokens? tokens).bind Node.ofEvents?

/-! ## Values -/

/-- The start of the tags that YAML itself defines. -/
def standardTag (name : Text) : Text :=
  "tag:yaml.org,2002:" ++ name

/-- The name of an application's own tag: what follows the exclamation mark, or the mark itself when
nothing does. -/
def ownTag? : Option Text → Option Text
  | some ['!'] => some ['!']
  | some ('!' :: name) => some name
  | _ => none

/-- How an own tag is shown: its name behind one exclamation mark. -/
def shownTag : Text → Text
  | '!' :: c :: name => '!' :: c :: name
  | name => '!' :: name

/-- The value that a scalar denotes, its own tag apart. Standard tags ask for one type. -/
def scalarValue? (tag : Option Text) (style : ScalarStyle) (text : Text) : Option Value :=
  let plain := if style = .plain then plainValue? text else some (.text text)
  match tag with
  | none => plain
  | some tag =>
    if tag = standardTag "bool" then (bool? text).map .bool
    else if tag = standardTag "int" then
      match readInteger text with
      | .fits n => some (.int n)
      | _ => none
    else if tag = standardTag "float" then (double? text).map .float
    else if tag = standardTag "null" then if isNullWord text then some .null else none
    else if tag.head? = some '!' then plain
    else some (.text text)

mutual

/-- Whether two values are the same key: numbers compare as numbers of one kind, and records without
regard to order. -/
def sameKey : Value → Value → Bool
  | .null, .null => true
  | .bool a, .bool b => a = b
  | .int a, .int b => a = b
  | .float a, .float b => a.same b
  | .text a, .text b => a = b
  | .list a, .list b => sameKeys a b
  | .record a, .record b => a.length = b.length && sameEntries a b
  | .tagged a x, .tagged b y => a = b && sameKey x y
  | _, _ => false

/-- Whether two lists hold the same keys in order. -/
def sameKeys : List Value → List Value → Bool
  | [], [] => true
  | a :: as, b :: bs => sameKey a b && sameKeys as bs
  | _, _ => false

/-- Whether every entry of the first list stands in the second. -/
def sameEntries : List (Value × Value) → List (Value × Value) → Bool
  | [], _ => true
  | (k, v) :: rest, entries =>
    (entries.any fun e => sameKey k e.1 && sameKey v e.2) && sameEntries rest entries

end

/-- Whether no key of a record repeats an earlier one. -/
def distinctKeys : List (Value × Value) → Bool
  | [] => true
  | (k, _) :: rest => !(rest.any fun e => sameKey k e.1) && distinctKeys rest

/-- A value marked with a node's own tag, if it has one. -/
def marked (tag : Option Text) (v : Value) : Value :=
  match ownTag? tag with
  | some name => .tagged (shownTag name) v
  | none => v

mutual

/-- The value that a node denotes, with `depth` more levels of collections allowed. A mapping must
not repeat a key. -/
def Node.valueAt? : Nat → Node → Option Value
  | _, .absent => some .null
  | _, .unreadable => none
  | _, .scalar tag style text => (scalarValue? tag style text).map (marked tag)
  | 0, .sequence _ _ => none
  | depth + 1, .sequence tag items =>
    (Node.valuesAt? depth items).map fun vs => marked tag (.list vs)
  | 0, .mapping _ _ => none
  | depth + 1, .mapping tag entries =>
    (Node.entriesAt? depth entries).bind fun es =>
      if distinctKeys es then some (marked tag (.record es)) else none

/-- The values of several nodes. -/
def Node.valuesAt? : Nat → List Node → Option (List Value)
  | _, [] => some []
  | depth, node :: rest =>
    (Node.valueAt? depth node).bind fun v => (Node.valuesAt? depth rest).map (v :: ·)

/-- The values of several pairs of nodes. -/
def Node.entriesAt? : Nat → List (Node × Node) → Option (List (Value × Value))
  | _, [] => some []
  | depth, (key, node) :: rest =>
    (Node.valueAt? depth key).bind fun k =>
      (Node.valueAt? depth node).bind fun v =>
        (Node.entriesAt? depth rest).map ((k, v) :: ·)

end

/-- The value that a node denotes. -/
def Node.value? (node : Node) : Option Value :=
  node.valueAt? nestingLimit

/-- The value that a YAML text denotes; a text without a document denotes null. -/
def read? (s : Text) : Option Value :=
  (Node.read? s).bind Node.value?

end Yaml

end Frontmatter
