import Frontmatter.Yaml.Token.Layout

/-! # YAML events

A document is a sequence of events: scalars, references, and the starts and ends of collections.
`Event.ofTokens?` reads the tokens of a text that holds at most one document. It keeps a stack of
goals, each a part of the grammar that is still expected; every step serves the goal on top. A node
that is left out between two marks is an empty plain scalar. -/

namespace Frontmatter

namespace Yaml

/-- What may be said in front of a node. -/
structure Properties where
  /-- The name under which the node can be referred to. -/
  anchor : Option Text
  /-- The node's tag, with its handle resolved. -/
  tag : Option Text
  deriving DecidableEq, Repr

/-- No properties. -/
def Properties.none : Properties := ⟨Option.none, Option.none⟩

/-- The properties of a scalar that is written out: the mark `!` alone is no tag of it. -/
def Properties.ofScalar (props : Properties) : Properties :=
  if props.tag = some ['!'] then { props with tag := Option.none } else props

/-- A step through a document. -/
inductive Event where
  /-- A reference to an anchored node. -/
  | alias (name : Text)
  /-- A scalar. -/
  | scalar (props : Properties) (style : ScalarStyle) (text : Text)
  /-- A sequence starts. -/
  | sequenceStart (props : Properties)
  /-- A sequence ends. -/
  | sequenceEnd
  /-- A mapping starts. -/
  | mappingStart (props : Properties)
  /-- A mapping ends. -/
  | mappingEnd
  deriving DecidableEq, Repr

/-- A node that is left out. -/
def Event.empty : Event := .scalar .none .plain []

/-! ## Directives -/

/-- The starts of tags that handles stand for. -/
abbrev TagHandles := List (Text × Text)

/-- The handles that every document knows. -/
def TagHandles.standard : TagHandles :=
  [(['!'], ['!']), ("!!", "tag:yaml.org,2002:")]

/-- The full tag of a handle and a suffix. -/
def TagHandles.resolve? (handles : TagHandles) (handle suffix : Text) : Option Text :=
  if handle = [] then some suffix else (handles.lookup handle).map (· ++ suffix)

/-- Reads the directives in front of a document: the handles they define, and the tokens behind
them. A handle and the version are stated at most once, and the version must be 1.1 or 1.2. -/
def directives? : Bool → TagHandles → List Token → Option (TagHandles × List Token)
  | versioned, handles, .version major minor :: rest =>
    if versioned ∨ major ≠ 1 ∨ (minor ≠ 1 ∧ minor ≠ 2) then none
    else directives? true handles rest
  | versioned, handles, .tagDirective handle start :: rest =>
    if (handles.lookup handle).isSome then none
    else directives? versioned (handles ++ [(handle, start)]) rest
  | _, handles, rest => some (handles ++ TagHandles.standard, rest)

/-! ## Nodes -/

/-- Part of the grammar that is still expected. -/
inductive Goal where
  /-- A node; block collections only where `block` holds, and a sequence whose dashes are not
  indented only where `indentless` holds. -/
  | node (block indentless : Bool)
  /-- The entries of an indented sequence. -/
  | blockItems
  /-- The entries of a sequence whose dashes are not indented. -/
  | indentlessItems
  /-- The keys of an indented mapping. -/
  | blockKeys
  /-- The value of an indented mapping's key. -/
  | blockValue
  /-- The entries in brackets. -/
  | flowItems (first : Bool)
  /-- The key of a mapping of one pair in brackets. -/
  | pairKey
  /-- The value of such a pair. -/
  | pairValue
  /-- The end of such a pair. -/
  | pairEnd
  /-- The keys in braces. -/
  | flowKeys (first : Bool)
  /-- The value of a key in braces. -/
  | flowValue
  /-- The missing value of a key that has no mark. -/
  | missingValue
  deriving DecidableEq, Repr

/-- What serving a goal yields: an event if there is one, the goals in its place, and the tokens
that are left. -/
structure Served where
  /-- The event. -/
  event : Option Event
  /-- The goals that take the served one's place. -/
  goals : List Goal
  /-- The tokens that are left. -/
  rest : List Token

/-- Reads the properties in front of a node, an anchor and a tag in either order. -/
def properties? (handles : TagHandles) : List Token → Option (Properties × List Token)
  | .anchor name :: .tag handle suffix :: rest =>
    (handles.resolve? handle suffix).map fun tag => (⟨some name, some tag⟩, rest)
  | .tag handle suffix :: .anchor name :: rest =>
    (handles.resolve? handle suffix).map fun tag => (⟨some name, some tag⟩, rest)
  | .anchor name :: rest => some (⟨some name, none⟩, rest)
  | .tag handle suffix :: rest =>
    (handles.resolve? handle suffix).map fun tag => (⟨none, some tag⟩, rest)
  | rest => some (.none, rest)

/-- Reads the start of a node behind its properties. -/
def content? (props : Properties) (block indentless : Bool) (tokens : List Token) :
    Option Served :=
  match tokens with
  | .scalar style text :: rest => some ⟨some (.scalar props.ofScalar style text), [], rest⟩
  | .flowSequenceStart :: rest => some ⟨some (.sequenceStart props), [.flowItems true], rest⟩
  | .flowMappingStart :: rest => some ⟨some (.mappingStart props), [.flowKeys true], rest⟩
  | .blockEntry :: rest =>
    if indentless then
      some ⟨some (.sequenceStart props), [.indentlessItems], .blockEntry :: rest⟩
    else if props = .none then none
    else some ⟨some (.scalar props .plain []), [], .blockEntry :: rest⟩
  | .blockSequenceStart :: rest =>
    if block then some ⟨some (.sequenceStart props), [.blockItems], rest⟩
    else if props = .none then none
    else some ⟨some (.scalar props .plain []), [], .blockSequenceStart :: rest⟩
  | .blockMappingStart :: rest =>
    if block then some ⟨some (.mappingStart props), [.blockKeys], rest⟩
    else if props = .none then none
    else some ⟨some (.scalar props .plain []), [], .blockMappingStart :: rest⟩
  | rest =>
    if props = .none then none else some ⟨some (.scalar props .plain []), [], rest⟩

/-- Whether the next token starts no node inside an indented mapping. -/
def endsBlockNode : List Token → Bool
  | .key :: _ | .value :: _ | .blockEnd :: _ => true
  | _ => false

/-- A node unless the next token shows that it is left out. -/
def nodeUnless (leftOut block indentless : Bool) (next : Goal) (rest : List Token) : Served :=
  if leftOut then ⟨some .empty, [next], rest⟩ else ⟨none, [.node block indentless, next], rest⟩

/-- The entries in brackets, behind the comma if one was needed. -/
def flowItem (rest : List Token) : Served :=
  match rest with
  | .flowSequenceEnd :: rest => ⟨some .sequenceEnd, [], rest⟩
  | .key :: rest => ⟨some (.mappingStart .none), [.pairKey], rest⟩
  | rest => ⟨none, [.node false false, .flowItems false], rest⟩

/-- The keys in braces, behind the comma if one was needed. -/
def flowKey (rest : List Token) : Served :=
  match rest with
  | .flowMappingEnd :: rest => ⟨some .mappingEnd, [], rest⟩
  | .key :: rest =>
    let leftOut :=
      match rest with
      | .value :: _ | .flowEntry :: _ | .flowMappingEnd :: _ => true
      | _ => false
    nodeUnless leftOut false false .flowValue rest
  | rest => ⟨none, [.node false false, .missingValue], rest⟩

/-- Serves a goal. -/
def Goal.serve? (handles : TagHandles) (goal : Goal) (tokens : List Token) : Option Served :=
  match goal with
  | .node block indentless =>
    match tokens with
    | .alias name :: rest => some ⟨some (.alias name), [], rest⟩
    | _ =>
      (properties? handles tokens).bind fun (props, rest) => content? props block indentless rest
  | .blockItems =>
    match tokens with
    | .blockEnd :: rest => some ⟨some .sequenceEnd, [], rest⟩
    | .blockEntry :: rest =>
      let leftOut :=
        match rest with
        | .blockEntry :: _ | .blockEnd :: _ => true
        | _ => false
      some (nodeUnless leftOut true false .blockItems rest)
    | _ => none
  | .indentlessItems =>
    match tokens with
    | .blockEntry :: rest =>
      let leftOut := endsBlockNode rest || rest.head? = some .blockEntry
      some (nodeUnless leftOut true false .indentlessItems rest)
    | rest => some ⟨some .sequenceEnd, [], rest⟩
  | .blockKeys =>
    match tokens with
    | .blockEnd :: rest => some ⟨some .mappingEnd, [], rest⟩
    | .key :: rest => some (nodeUnless (endsBlockNode rest) true true .blockValue rest)
    | _ => none
  | .blockValue =>
    match tokens with
    | .value :: rest => some (nodeUnless (endsBlockNode rest) true true .blockKeys rest)
    | rest => some ⟨some .empty, [.blockKeys], rest⟩
  | .flowItems first =>
    match first, tokens with
    | true, rest => some (flowItem rest)
    | false, .flowSequenceEnd :: rest => some ⟨some .sequenceEnd, [], rest⟩
    | false, .flowEntry :: rest => some (flowItem rest)
    | false, _ => none
  | .pairKey =>
    match tokens with
    | .value :: rest | .flowEntry :: rest | .flowSequenceEnd :: rest =>
      some ⟨some .empty, [.pairValue], rest⟩
    | rest => some ⟨none, [.node false false, .pairValue], rest⟩
  | .pairValue =>
    match tokens with
    | .value :: rest =>
      let leftOut :=
        match rest with
        | .flowEntry :: _ | .flowSequenceEnd :: _ => true
        | _ => false
      some (nodeUnless leftOut false false .pairEnd rest)
    | rest => some ⟨some .empty, [.pairEnd], rest⟩
  | .pairEnd => some ⟨some .mappingEnd, [.flowItems false], tokens⟩
  | .flowKeys first =>
    match first, tokens with
    | true, rest => some (flowKey rest)
    | false, .flowMappingEnd :: rest => some ⟨some .mappingEnd, [], rest⟩
    | false, .flowEntry :: rest => some (flowKey rest)
    | false, _ => none
  | .flowValue =>
    match tokens with
    | .value :: rest =>
      let leftOut :=
        match rest with
        | .flowEntry :: _ | .flowMappingEnd :: _ => true
        | _ => false
      some (nodeUnless leftOut false false (.flowKeys false) rest)
    | rest => some ⟨some .empty, [.flowKeys false], rest⟩
  | .missingValue => some ⟨some .empty, [.flowKeys false], tokens⟩

/-- Serves all goals: the events, and the tokens that are left. -/
def serveAll? (handles : TagHandles) :
    Nat → List Goal → List Token → Option (List Event × List Token)
  | _, [], tokens => some ([], tokens)
  | 0, _ :: _, _ => none
  | fuel + 1, goal :: goals, tokens =>
    (goal.serve? handles tokens).bind fun served =>
      (serveAll? handles fuel (served.goals ++ goals) served.rest).map fun (events, rest) =>
        (served.event.toList ++ events, rest)

/-! ## Documents -/

/-- Whether a document that has a start mark holds nothing. -/
def endsDocument : List Token → Bool
  | [] => true
  | .version _ _ :: _ | .tagDirective _ _ :: _ | .documentStart :: _ | .documentEnd :: _ => true
  | _ => false

/-- The events of a document's node. Nothing but marks of the document's end may follow it. -/
def documentEvents? (handles : TagHandles) (tokens : List Token) : Option (List Event) :=
  (serveAll? handles (8 * tokens.length + 8) [.node true false] tokens).bind fun (events, rest) =>
    if rest.all (· = .documentEnd) then some events else none

/-- The events of a text's only document; a text without a document has none. -/
def Event.ofTokens? (tokens : List Token) : Option (List Event) :=
  match tokens with
  | [] => some []
  | .version _ _ :: _ | .tagDirective _ _ :: _ | .documentStart :: _ =>
    (directives? false [] tokens).bind fun (handles, rest) =>
      match rest with
      | .documentStart :: rest =>
        if endsDocument rest then
          if rest.all (· = .documentEnd) then some [.empty] else none
        else documentEvents? handles rest
      | _ => none
  | _ => documentEvents? TagHandles.standard tokens

end Yaml

end Frontmatter
