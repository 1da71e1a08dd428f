import Frontmatter.Pattern.Bracket

/-! # Reading patterns

`Pattern.read?` reads a pattern into the expression that it stands for. Alternatives are separated
by bars and are sequences of terms. A term is an atom, a bracketed set or a group, and may be
repeated. Modes that are turned on or off inside a group stay so up to the end of that group, across
its bars. -/

namespace Frontmatter

namespace Pattern

/-! ## Terms -/

/-- A part of a pattern with the depth to which its parts nest. -/
structure Term where
  /-- What it describes. -/
  expression : Expression
  /-- How deep its parts nest. -/
  depth : Nat

/-- What a sequence is made of. -/
inductive Item where
  /-- A term, which may be repeated. -/
  | term (t : Term)
  /-- A change of modes, which describes nothing and cannot be repeated. -/
  | modes

namespace Item

/-- The expression of an item. -/
def expression : Item → Expression
  | .term t => t.expression
  | .modes => .empty

/-- The nesting depth of an item. -/
def depth : Item → Nat
  | .term t => t.depth
  | .modes => 0

end Item

/-- The greatest depth of several, one more if there are several of them. -/
def outerDepth : List Nat → Nat
  | [] => 0
  | [d] => d
  | ds => ds.foldl Nat.max 0 + 1

/-- The term of a sequence whose items are given last first. -/
def sequenceOf (items : List Item) : Term :=
  ⟨.inOrder (items.reverse.map Item.expression), outerDepth (items.map Item.depth)⟩

/-- The term of alternatives that are given last first. -/
def choiceOf (alternatives : List Term) : Term :=
  ⟨.oneOf (alternatives.reverse.map Term.expression), outerDepth (alternatives.map Term.depth)⟩

/-! ## Modes -/

/-- A letter's mode turned on or off; the letter for lazy repetitions changes nothing that
matters. -/
def Modes.set? (m : Modes) (on : Bool) : Char → Option Modes
  | 'i' => some { m with ignoreCase := on }
  | 'm' => some { m with multiLine := on }
  | 's' => some { m with dotAll := on }
  | 'U' => some m
  | 'u' => some { m with unicode := on }
  | 'R' => some { m with returns := on }
  | 'x' => some { m with verbose := on }
  | _ => none

/-- A change of modes up to a closing bracket or a colon: the modes, that character, whether
anything was changed, and the rest. No letter comes twice, and a hyphen turns off at least one
letter. The letters that came before are given last first. -/
def modeChange? (m : Modes) : Text → Text → Option (Modes × Char × Bool × Text)
  | _, [] => none
  | seen, c :: rest =>
    if c = ':' ∨ c = ')' then
      if seen.head? = some '-' then none else some (m, c, !seen.isEmpty, rest)
    else if c ∈ seen then none
    else if c = '-' then modeChange? m ('-' :: seen) rest
    else (m.set? (!seen.contains '-') c).bind fun m => modeChange? m (c :: seen) rest

/-! ## Group names -/

/-- Whether a text can name a group: it starts with a letter or an underscore and goes on with
letters, numbers, underscores, dots and square brackets. -/
def isGroupName : Text → Bool
  | [] => false
  | c :: rest =>
    (c = '_' || CharSet.alphabetic.mem c) &&
      rest.all fun c =>
        c = '_' || c = '.' || c = '[' || c = ']' || CharSet.alphabetic.mem c ||
          (CharSet.ofCategories ["Nd", "Nl", "No"]).mem c

/-- What stands behind the opening bracket of a group. -/
inductive GroupStart where
  /-- A group that is remembered, and perhaps its name. -/
  | remembered (name : Option Text) (rest : Text)
  /-- A group with modes of its own. -/
  | plain (m : Modes) (rest : Text)
  /-- No group, but a change of modes. -/
  | change (m : Modes) (rest : Text)

/-- The start of a group behind its opening bracket. -/
def groupStart? (m : Modes) (s : Text) : Option GroupStart :=
  let s := m.skip s
  match (Text.stripStart "?P<" s).or (Text.stripStart "?<" s) with
  | some rest =>
    (Text.cut '>' rest).bind fun (name, rest) =>
      if isGroupName name then some (.remembered (some name) rest) else none
  | none =>
    match s with
    | '?' :: rest =>
      (modeChange? m [] rest).bind fun (m, closing, changed, rest) =>
        if closing = ':' then some (.plain m rest)
        else if changed then some (.change m rest)
        else none
    | s => some (.remembered none s)

/-! ## Repetitions -/

/-- The greatest count that a repetition may state. -/
def greatestCount : Nat := Nat.pow 2 32 - 1

/-- The digits at the head of a text, with white space before, between in verbose patterns, and
after them; the number bounds the length of the text. -/
def digits (m : Modes) : Nat → Text → Text × Text
  | 0, s => ([], s)
  | fuel + 1, s =>
    match s with
    | c :: rest =>
      if c.isDigit then
        let more := digits m fuel (m.skip rest)
        (c :: more.1, more.2)
      else ([], s)
    | [] => ([], [])

/-- The count at the head of a text, which may be missing, and the rest; none when it is too
large. -/
def count? (m : Modes) (s : Text) : Option (Option Nat × Text) :=
  let found := digits m (s.length + 1) (s.dropWhile Text.isBlank)
  let rest := m.skip (found.2.dropWhile Text.isBlank)
  if found.1 = [] then some (none, rest)
  else
    let n := Decimal.digitsValue found.1
    if greatestCount < n then none else some (some n, rest)

/-- The counts of a repetition behind its opening brace, and the rest after its closing brace. -/
def counts? (m : Modes) (s : Text) : Option (Nat × Option Nat × Text) := do
  let (min, rest) ← count? m (m.skip s)
  let min ← min
  match rest with
  | '\x7d' :: rest => some (min, some min, m.skip rest)
  | ',' :: rest =>
    match m.skip rest with
    | '\x7d' :: rest => some (min, none, m.skip rest)
    | rest =>
      let (max, rest) ← count? m rest
      let max ← max
      match rest with
      | '\x7d' :: rest => if max < min then none else some (min, some max, m.skip rest)
      | _ => none
  | _ => none

/-- A text without the question mark that makes a repetition lazy, which does not matter for whether
a text fits. -/
def dropLazy : Text → Text
  | '?' :: rest => rest
  | s => s

/-- The repetition at the head of a text, and the rest. -/
def repetition? (m : Modes) : Text → Option (Nat × Option Nat × Text)
  | '?' :: rest => some (0, some 1, dropLazy rest)
  | '*' :: rest => some (0, none, dropLazy rest)
  | '+' :: rest => some (1, none, dropLazy rest)
  | '\x7b' :: rest => (counts? m rest).map fun (min, max, rest) => (min, max, dropLazy rest)
  | _ => none

/-- Whether a character opens a repetition. -/
def opensRepetition (c : Char) : Bool :=
  c = '?' || c = '*' || c = '+' || c = '\x7b'

/-- The last item repeated. -/
def repeatLast? (min : Nat) (max : Option Nat) : List Item → Option (List Item)
  | .term t :: items => some (.term ⟨t.expression.repeated min max, t.depth + 1⟩ :: items)
  | _ => none

/-! ## Atoms -/

/-- The expression of a dot. Among ASCII characters only there is none, as a dot stands for any
byte. -/
def dot? (m : Modes) : Option Expression :=
  if !m.unicode then none
  else if m.dotAll then some (.char .full)
  else if m.returns then some (.char (.compl (.union (.single '\n') (.single '\r'))))
  else some (.char (.compl (.single '\n')))

/-- The expression of an atom. -/
def atomExpression (m : Modes) : Atom → Expression
  | .char c => .char (m.fold (.single c))
  | .set s => .char s
  | .assertion a => .assertion a

/-- The atom at the head of a text, and the rest. -/
def atom? (m : Modes) : Text → Option (Expression × Text)
  | [] => none
  | '.' :: rest => (dot? m).map (·, rest)
  | '^' :: rest =>
    some (.assertion (if m.multiLine then .lineStart m.returns else .textStart), rest)
  | '$' :: rest => some (.assertion (if m.multiLine then .lineEnd m.returns else .textEnd), rest)
  | '\\' :: rest => (escape? m rest).map fun (a, rest) => (atomExpression m a, rest)
  | c :: rest => some (atomExpression m (.char c), rest)

/-! ## Alternatives -/

/-- The alternatives up to the end of a group, which is left at the head of the rest, given those
before and the items of the last one, both last first. The names of groups so far go along, because
no two groups may share one. The first number bounds the length of the text. -/
def alternatives? : Nat → Modes → List Text → List Term → List Item → Text →
    Option (Term × List Text × Text)
  | 0, _, _, _, _, _ => none
  | fuel + 1, m, names, before, items, s =>
    match m.skip s with
    | [] => some (choiceOf (sequenceOf items :: before), names, [])
    | ')' :: rest => some (choiceOf (sequenceOf items :: before), names, ')' :: rest)
    | '|' :: rest => alternatives? fuel m names (sequenceOf items :: before) [] rest
    | '(' :: rest =>
      let group := fun (inner : Modes) (names : List Text) (rest : Text) =>
        (alternatives? fuel inner names [] [] rest).bind fun (t, names, rest) =>
          match rest with
          | ')' :: rest =>
            alternatives? fuel m names before (.term { t with depth := t.depth + 1 } :: items) rest
          | _ => none
      (groupStart? m rest).bind fun
        | .remembered none rest => group m names rest
        | .remembered (some name) rest =>
          if names.contains name then none else group m (name :: names) rest
        | .plain inner rest => group inner names rest
        | .change m rest => alternatives? fuel m names before (.modes :: items) rest
    | '[' :: rest =>
      (bracket? m (2 * rest.length + 2) rest).bind fun (set, depth, rest) =>
        alternatives? fuel m names before (.term ⟨.char set, depth⟩ :: items) rest
    | c :: rest =>
      if opensRepetition c then
        (repetition? m (c :: rest)).bind fun (min, max, rest) =>
          (repeatLast? min max items).bind fun items => alternatives? fuel m names before items rest
      else
        (atom? m (c :: rest)).bind fun (e, rest) =>
          alternatives? fuel m names before (.term ⟨e, 0⟩ :: items) rest

/-- How deep the parts of a pattern may nest. -/
def greatestDepth : Nat := 250

/-- The expression that a pattern stands for. -/
def read? (pattern : Text) : Option Expression :=
  (alternatives? (pattern.length + 1) .initial [] [] [] pattern).bind fun (t, _, rest) =>
    if rest = [] ∧ t.depth ≤ greatestDepth then some t.expression else none

end Pattern

end Frontmatter
