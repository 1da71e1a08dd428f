import Frontmatter.Yaml.Token.Property
import Frontmatter.Yaml.Token.Scalar

/-! # The tokens of a YAML text

`Token.scan?` reads a text into its tokens. Two things make this more than reading words.
Indentation opens and closes block collections, so the columns of the open ones are kept. And a
colon may turn what was read before it into a key, so for each level of brackets the place is kept
at which a key could have started; its token is inserted there later. Such a key stands on one line
and within 1024 characters. -/

namespace Frontmatter

namespace Yaml

/-- A place at which a key may have started. -/
structure PossibleKey where
  /-- The number of tokens before it. -/
  position : Nat
  /-- Whether nothing but a key can stand there. -/
  required : Bool
  /-- The characters read before it. -/
  index : Nat
  /-- Its line. -/
  line : Nat
  /-- Its column. -/
  column : Nat

/-- What is known while tokens are read. -/
structure Scan where
  /-- The text still to be read. -/
  cursor : Cursor
  /-- The tokens read, last first. -/
  tokens : List Token
  /-- The column of the innermost open block collection, or -1. -/
  indent : Int
  /-- The columns of the block collections around it, innermost first. -/
  outer : List Int
  /-- The possible key on the current level of brackets. -/
  possible : Option PossibleKey
  /-- The possible keys on the levels around it, innermost first. -/
  enclosing : List (Option PossibleKey)
  /-- Whether a key may start here. -/
  keyAllowed : Bool

namespace Scan

/-- Nothing read yet. -/
def start (s : Text) : Scan :=
  { cursor := .start s, tokens := [], indent := -1, outer := [], possible := none, enclosing := [],
    keyAllowed := true }

/-- Whether the scan is inside brackets or braces. -/
def inFlow (s : Scan) : Bool :=
  !s.enclosing.isEmpty

/-- Adds a token. -/
def push (s : Scan) (t : Token) : Scan :=
  { s with tokens := t :: s.tokens }

/-- Inserts a token behind the first `position` ones. -/
def insert (s : Scan) (position : Nat) (t : Token) : Scan :=
  let later := s.tokens.length - position
  { s with tokens := s.tokens.take later ++ t :: s.tokens.drop later }

/-- Moves the cursor. -/
def moveTo (s : Scan) (c : Cursor) : Scan :=
  { s with cursor := c }

/-! ## Possible keys -/

/-- Whether a possible key is too far behind to become one. -/
def isStale (c : Cursor) (k : PossibleKey) : Bool :=
  k.line < c.line || k.index + 1024 < c.index

/-- Drops a possible key that is too far behind; a required one must not be. -/
def dropStale? (c : Cursor) : Option PossibleKey → Option (Option PossibleKey)
  | none => some none
  | some k =>
    if isStale c k then (if k.required then none else some none) else some (some k)

/-- Drops all possible keys that are too far behind. -/
def forgetStale? (s : Scan) : Option Scan := do
  let possible ← dropStale? s.cursor s.possible
  let enclosing ← s.enclosing.mapM (dropStale? s.cursor)
  some { s with possible, enclosing }

/-- Drops the possible key of the current level; a required one must not be. -/
def forgetKey? (s : Scan) : Option Scan :=
  if s.possible.any (·.required) then none else some { s with possible := none }

/-- Notes that a key may start here. -/
def noteKey? (s : Scan) : Option Scan :=
  if s.keyAllowed then
    let c := s.cursor
    let required := !s.inFlow && s.indent = (c.column : Int)
    s.forgetKey?.map fun s =>
      { s with possible := some ⟨s.tokens.length, required, c.index, c.line, c.column⟩ }
  else some s

/-! ## Indentation -/

/-- Opens a block collection at a column unless one is open there; its token goes behind the first
`position` ones. -/
def openBlock (s : Scan) (column : Nat) (position : Nat) (t : Token) : Scan :=
  if !s.inFlow && s.indent < (column : Int) then
    { s.insert position t with indent := column, outer := s.indent :: s.outer }
  else s

/-- Closes the block collections, given innermost first, that are indented deeper than a column. -/
def closeDeeper (column : Int) : Int → List Int → List Token → Int × List Int × List Token
  | indent, [], tokens => (indent, [], tokens)
  | indent, next :: outer, tokens =>
    if column < indent then closeDeeper column next outer (.blockEnd :: tokens)
    else (indent, next :: outer, tokens)

/-- Closes the block collections that are indented deeper than a column. -/
def closeBlocks (s : Scan) (column : Int) : Scan :=
  if s.inFlow then s
  else
    let closed := closeDeeper column s.indent s.outer s.tokens
    { s with indent := closed.1, outer := closed.2.1, tokens := closed.2.2 }

/-! ## One token -/

/-- Moves past white space, comments and line breaks. A tab counts as white space only where no key
may start; a line break allows keys again outside brackets. -/
def skipToToken : Nat → Scan → Scan
  | 0, s => s
  | fuel + 1, s =>
    let bom := s.cursor.index = 0 && s.cursor.rest.head? = some '\ufeff'
    let c := if bom then s.cursor.skip 1 else s.cursor
    let tabs := s.inFlow || !s.keyAllowed
    let c := (c.skipWhile fun x => x = ' ' || (tabs && x = '\t')).skipComment
    if c.rest.head?.any isBreak then
      let s := s.moveTo c.takeBreak.2
      skipToToken fuel (if s.inFlow then s else { s with keyAllowed := true })
    else s.moveTo c

/-- A directive or document mark, which closes all block collections. -/
def documentWord? (s : Scan) (read : Option (Token × Cursor)) : Option Scan :=
  (s.closeBlocks (-1)).forgetKey?.bind fun s =>
    read.map fun (t, c) => ({ s with keyAllowed := false }.push t).moveTo c

/-- An opening bracket or brace. -/
def openFlow? (s : Scan) (t : Token) : Option Scan :=
  s.noteKey?.map fun s =>
    { (s.push t).moveTo (s.cursor.skip 1) with
      possible := none, enclosing := s.possible :: s.enclosing, keyAllowed := true }

/-- A closing bracket or brace. -/
def closeFlow? (s : Scan) (t : Token) : Option Scan :=
  s.forgetKey?.map fun s =>
    let s := { (s.push t).moveTo (s.cursor.skip 1) with keyAllowed := false }
    match s.enclosing with
    | [] => s
    | possible :: enclosing => { s with possible, enclosing }

/-- A comma between entries. -/
def flowEntry? (s : Scan) : Option Scan :=
  s.forgetKey?.map fun s =>
    { (s.push .flowEntry).moveTo (s.cursor.skip 1) with keyAllowed := true }

/-- The dash of a block entry. -/
def blockEntry? (s : Scan) : Option Scan :=
  if !s.inFlow && !s.keyAllowed then none
  else
    (s.openBlock s.cursor.column s.tokens.length .blockSequenceStart).forgetKey?.map fun s =>
      { (s.push .blockEntry).moveTo (s.cursor.skip 1) with keyAllowed := true }

/-- The question mark of a key. -/
def keyMark? (s : Scan) : Option Scan :=
  if !s.inFlow && !s.keyAllowed then none
  else
    (s.openBlock s.cursor.column s.tokens.length .blockMappingStart).forgetKey?.map fun s =>
      { (s.push .key).moveTo (s.cursor.skip 1) with keyAllowed := !s.inFlow }

/-- The colon of a value, which makes a key of what could have been one. -/
def valueMark? (s : Scan) : Option Scan :=
  match s.possible with
  | some k =>
    let s := (s.insert k.position .key).openBlock k.column k.position .blockMappingStart
    some { (s.push .value).moveTo (s.cursor.skip 1) with possible := none, keyAllowed := false }
  | none =>
    if !s.inFlow && !s.keyAllowed then none
    else
      let s := s.openBlock s.cursor.column s.tokens.length .blockMappingStart
      some { (s.push .value).moveTo (s.cursor.skip 1) with keyAllowed := !s.inFlow }

/-- A word with which a key may start. -/
def keyWord? (s : Scan) (read : Option (Token × Cursor)) : Option Scan :=
  s.noteKey?.bind fun s =>
    read.map fun (t, c) => ({ s with keyAllowed := false }.push t).moveTo c

/-- A plain scalar; behind a line break a key may start. -/
def plain? (s : Scan) : Option Scan :=
  s.noteKey?.bind fun s =>
    (s.cursor.plain? s.inFlow s.indent).map fun r =>
      ({ s with keyAllowed := r.broken }.push (.scalar .plain r.text)).moveTo r.after

/-- A quoted scalar. -/
def quoted? (s : Scan) (single : Bool) : Option Scan :=
  s.keyWord? ((s.cursor.quoted? single).map fun (text, c) => (.scalar .quoted text, c))

/-- A block scalar, behind which a key may start. -/
def block? (s : Scan) (literal : Bool) : Option Scan :=
  s.forgetKey?.bind fun s =>
    (s.cursor.block? literal s.indent).map fun (text, c) =>
      let style := if literal then .literal else .quoted
      ({ s with keyAllowed := true }.push (.scalar style text)).moveTo c

/-- Whether a plain scalar may start with this text. -/
def startsPlain (flow : Bool) : Text → Bool
  | [] => false
  | c :: rest =>
    if isGap c || isBreak c then false
    else if c = '-' then !(rest.head?.any isGap)
    else if c = '?' || c = ':' then !flow && !endsWord rest
    else !(",[]\x7b\x7d#&*!|>\x27\x22%@\x60".toList.contains c)

/-- Reads the token at the cursor. -/
def word? (s : Scan) : Option Scan :=
  let c := s.cursor
  let flow := s.inFlow
  let next := c.rest.drop 1
  match c.rest.head? with
  | none => some s
  | some x =>
    if c.column = 0 && x = '%' then s.documentWord? c.directive?
    else if c.atMark '-' then s.documentWord? (some (.documentStart, c.skip 3))
    else if c.atMark '.' then s.documentWord? (some (.documentEnd, c.skip 3))
    else if x = '[' then s.openFlow? .flowSequenceStart
    else if x = '\x7b' then s.openFlow? .flowMappingStart
    else if x = ']' then s.closeFlow? .flowSequenceEnd
    else if x = '\x7d' then s.closeFlow? .flowMappingEnd
    else if x = ',' then s.flowEntry?
    else if x = '-' && endsWord next then s.blockEntry?
    else if x = '?' && (flow || endsWord next) then s.keyMark?
    else if x = ':' && (flow || endsWord next) then s.valueMark?
    else if x = '*' then s.keyWord? (c.anchorName?.map fun (name, c) => (.alias name, c))
    else if x = '&' then s.keyWord? (c.anchorName?.map fun (name, c) => (.anchor name, c))
    else if x = '!' then s.keyWord? (c.tag? flow)
    else if x = '|' && !flow then s.block? true
    else if x = '>' && !flow then s.block? false
    else if x = '\x27' then s.quoted? true
    else if x = '\x22' then s.quoted? false
    else if startsPlain flow c.rest then s.plain?
    else none

/-- Reads the tokens of the rest of a text. At its end all block collections are closed. -/
def run? : Nat → Scan → Option (List Token)
  | 0, _ => none
  | fuel + 1, s =>
    (skipToToken (s.cursor.rest.length + 1) s).forgetStale?.bind fun s =>
      let s := s.closeBlocks s.cursor.column
      if s.cursor.rest = [] then
        (s.closeBlocks (-1)).forgetKey?.map fun s => s.tokens.reverse
      else s.word?.bind (run? fuel)

end Scan

/-- The tokens of a text, or none when it is not YAML. -/
def Token.scan? (s : Text) : Option (List Token) :=
  if s.all isPrintable then (Scan.start s).run? (s.length + 2) else none

end Yaml

end Frontmatter
