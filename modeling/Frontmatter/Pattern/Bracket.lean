import Frontmatter.Pattern.Atom

/-! # Bracketed sets of patterns

A set between brackets lists characters, ranges, escapes, named ASCII sets and further brackets, and
may combine such lists: by `&&` for what both sides hold, `--` for what only the left side holds,
and `~~` for what just one of them holds. The operators bind equally and to the left. Where case
does not matter, the other forms of letters are added before sets are combined and before one is
negated. -/

namespace Frontmatter

namespace Pattern

/-! ## Named ASCII sets -/

/-- The named ASCII sets. -/
def asciiSets : List (String × CharSet) :=
  [("alnum", .ranges [(0x30, 0x39), (0x41, 0x5a), (0x61, 0x7a)]),
   ("alpha", .ranges [(0x41, 0x5a), (0x61, 0x7a)]),
   ("ascii", .ranges [(0x00, 0x7f)]),
   ("blank", .ranges [(0x09, 0x09), (0x20, 0x20)]),
   ("cntrl", .ranges [(0x00, 0x1f), (0x7f, 0x7f)]),
   ("digit", .asciiDigit),
   ("graph", .ranges [(0x21, 0x7e)]),
   ("lower", .ranges [(0x61, 0x7a)]),
   ("print", .ranges [(0x20, 0x7e)]),
   ("punct", .ranges [(0x21, 0x2f), (0x3a, 0x40), (0x5b, 0x60), (0x7b, 0x7e)]),
   ("space", .asciiBlank),
   ("upper", .ranges [(0x41, 0x5a)]),
   ("word", .asciiWord),
   ("xdigit", .ranges [(0x30, 0x39), (0x41, 0x46), (0x61, 0x66)])]

/-- The named set at the head of a text behind its opening bracket, whether it is negated, and the
rest. -/
def namedAscii? : Text → Option (CharSet × Bool × Text)
  | ':' :: rest =>
    let negated := rest.head? = some '^'
    (Text.cut ':' (if negated then rest.drop 1 else rest)).bind fun (name, rest) =>
      match rest with
      | ']' :: rest => (asciiSets.find? (·.1.toList = name)).map fun e => (e.2, negated, rest)
      | _ => none
  | _ => none

/-! ## Members -/

/-- A member of a list in brackets: an escape, or a character that stands for itself. -/
def member? (m : Modes) : Text → Option (Atom × Text)
  | [] => none
  | '\\' :: rest => escape? m rest
  | c :: rest => some (.char c, rest)

/-- The character of a member that must be one. In a pattern of ASCII characters it must be one of
them. -/
def memberChar? (m : Modes) : Atom → Option Char
  | .char c => if m.unicode ∨ c.toNat < 0x80 then some c else none
  | _ => none

/-- The set of a member. -/
def memberSet? (m : Modes) : Atom → Option CharSet
  | .char c => (memberChar? m (.char c)).map .single
  | .set s => some s
  | .assertion _ => none

/-- The next character behind a hyphen, where what stands for nothing is passed over; at most one
number sign is taken to open a comment. -/
def charBehind? (m : Modes) (rest : Text) : Option Char :=
  if m.verbose then
    match rest.dropWhile Text.isBlank with
    | '#' :: more => (more.dropWhile Text.isBlank).head?.or rest.head?
    | c :: _ => some c
    | [] => rest.head?
  else rest.head?

/-- The member at the head of a text, or the range that it starts, and the rest. A hyphen makes a
range unless a bracket or another hyphen follows it. -/
def range? (m : Modes) (s : Text) : Option (CharSet × Text) := do
  let (low, rest) ← member? m s
  match m.skip rest with
  | [] => none
  | '-' :: behind =>
    let next := charBehind? m behind
    if next = some ']' ∨ next = some '-' then
      (memberSet? m low).map (·, '-' :: behind)
    else
      let (high, rest) ← member? m (m.skip behind)
      let low ← memberChar? m low
      let high ← memberChar? m high
      if high < low then none else some (.ranges [(low.toNat, high.toNat)], rest)
  | rest => (memberSet? m low).map (·, rest)

/-! ## Lists and operators -/

/-- The operators that combine two lists. -/
inductive SetOperator where
  /-- What both hold. -/
  | inter
  /-- What only the left one holds. -/
  | diff
  /-- What just one of them holds. -/
  | symmDiff
  deriving DecidableEq, Repr

/-- The operator at the head of a text, and the rest. -/
def operator? : Text → Option (SetOperator × Text)
  | '&' :: '&' :: rest => some (.inter, rest)
  | '-' :: '-' :: rest => some (.diff, rest)
  | '~' :: '~' :: rest => some (.symmDiff, rest)
  | _ => none

/-- A list combined with what stands to its left. -/
def combine (m : Modes) : Option (CharSet × SetOperator) → CharSet → CharSet
  | none, list => list
  | some (left, .inter), list => .inter (m.fold left) (m.fold list)
  | some (left, .diff), list => (m.fold left).diff (m.fold list)
  | some (left, .symmDiff), list => (m.fold left).symmDiff (m.fold list)

/-- The hyphens at the start of a list stand for themselves. -/
def leadingHyphens (m : Modes) : Nat → CharSet → Text → CharSet × Text
  | 0, list, s => (list, s)
  | fuel + 1, list, s =>
    match s with
    | '-' :: rest => leadingHyphens m fuel (.single '-') (m.skip rest)
    | s => (list, s)

/-- What opens a set behind its bracket: whether it is negated, the hyphens or the closing bracket
that stand for themselves, and the rest. -/
def opening (m : Modes) (s : Text) : Bool × CharSet × Text :=
  let s := m.skip s
  let negated := s.head? = some '^'
  let s := if negated then m.skip (s.drop 1) else s
  match leadingHyphens m (s.length + 1) .empty s with
  | (list, ']' :: rest) =>
    if list = .empty then (negated, .single ']', m.skip rest) else (negated, list, ']' :: rest)
  | (list, rest) => (negated, list, rest)

mutual

/-- The set behind an opening bracket, how deep brackets nest in it, and the rest. -/
def bracket? (m : Modes) : Nat → Text → Option (CharSet × Nat × Text)
  | 0, _ => none
  | fuel + 1, s =>
    let start := opening m s
    (lists? m fuel none start.2.1 0 start.2.2).bind fun (set, depth, rest) =>
      (m.negate? start.1 (m.fold set)).map fun set => (set, depth + 1, rest)

/-- The lists up to the closing bracket, given what stands to the left and the list so far. -/
def lists? (m : Modes) : Nat → Option (CharSet × SetOperator) → CharSet → Nat → Text →
    Option (CharSet × Nat × Text)
  | 0, _, _, _, _ => none
  | fuel + 1, left, list, depth, s =>
    match m.skip s with
    | [] => none
    | ']' :: rest => some (combine m left list, depth, rest)
    | '[' :: rest =>
      match namedAscii? rest with
      | some (set, negated, rest) =>
        (m.negate? negated (m.fold set)).bind fun set =>
          lists? m fuel left (.union list set) depth rest
      | none =>
        (bracket? m fuel rest).bind fun (set, inner, rest) =>
          lists? m fuel left (.union list set) (Nat.max depth inner) rest
    | s =>
      match operator? s with
      | some (operator, rest) =>
        lists? m fuel (some (combine m left list, operator)) .empty (depth + 1) rest
      | none => (range? m s).bind fun (set, rest) => lists? m fuel left (.union list set) depth rest

end

end Pattern

end Frontmatter
