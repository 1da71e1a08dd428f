import Frontmatter.Pattern.Property

/-! # Pattern expressions

What a pattern says about a text, and the search for a part of a text that fits. The search goes
through the text once and keeps the expressions that the rest of a part may still have to fit. An
expression `e` is replaced by those that describe what may follow a character (`Expression.after`),
and a part may end where one of them fits the empty text (`Expression.fitsEmpty`). Both look at the
characters on the two sides of a place, because assertions do. -/

namespace Frontmatter

/-- A place in a text: the characters before and after it. -/
structure Place where
  /-- The character before the place, unless the text starts there. -/
  before : Option Char
  /-- The character after the place, unless the text ends there. -/
  after : Option Char
  deriving DecidableEq, Repr

/-- A condition on a place. -/
inductive Assertion where
  /-- The text starts. -/
  | textStart
  /-- The text ends. -/
  | textEnd
  /-- A line starts; `returns` tells whether a carriage return breaks lines too. -/
  | lineStart (returns : Bool)
  /-- A line ends. -/
  | lineEnd (returns : Bool)
  /-- A word starts or ends; `ascii` tells whether words are made of ASCII characters only. -/
  | wordBoundary (ascii : Bool)
  /-- No word starts or ends. -/
  | noWordBoundary (ascii : Bool)
  /-- A word starts. -/
  | wordStart (ascii : Bool)
  /-- A word ends. -/
  | wordEnd (ascii : Bool)
  /-- No word goes on before. -/
  | wordStartHalf (ascii : Bool)
  /-- No word goes on after. -/
  | wordEndHalf (ascii : Bool)
  deriving DecidableEq, Repr

namespace Assertion

/-- Whether there is a character of a word. -/
def isWord (ascii : Bool) : Option Char → Bool
  | some c => (if ascii then CharSet.asciiWord else CharSet.word).mem c
  | none => false

/-- Whether an assertion holds at a place. -/
def holds : Assertion → Place → Bool
  | .textStart, p => p.before.isNone
  | .textEnd, p => p.after.isNone
  | .lineStart false, p => p.before.isNone || p.before == some '\n'
  | .lineStart true, p =>
    p.before.isNone || p.before == some '\n' || (p.before == some '\r' && p.after != some '\n')
  | .lineEnd false, p => p.after.isNone || p.after == some '\n'
  | .lineEnd true, p =>
    p.after.isNone || p.after == some '\r' || (p.after == some '\n' && p.before != some '\r')
  | .wordBoundary ascii, p => isWord ascii p.before != isWord ascii p.after
  | .noWordBoundary ascii, p => isWord ascii p.before == isWord ascii p.after
  | .wordStart ascii, p => !isWord ascii p.before && isWord ascii p.after
  | .wordEnd ascii, p => isWord ascii p.before && !isWord ascii p.after
  | .wordStartHalf ascii, p => !isWord ascii p.before
  | .wordEndHalf ascii, p => !isWord ascii p.after

end Assertion

/-- A description of texts. -/
inductive Expression where
  /-- The empty text. -/
  | empty
  /-- One character of a set. -/
  | char (set : CharSet)
  /-- The empty text, at places where an assertion holds. -/
  | assertion (a : Assertion)
  /-- A text of the first kind followed by one of the second. -/
  | sequence (first second : Expression)
  /-- A text of either kind. -/
  | choice (first second : Expression)
  /-- Texts of a kind one after the other, at least `min` and at most `max` of them. -/
  | repetition (body : Expression) (min : Nat) (max : Option Nat)
  deriving DecidableEq, Repr

namespace Expression

/-! ## Building -/

/-- A sequence, where the empty text is left out. -/
def andThen : Expression → Expression → Expression
  | .empty, f => f
  | e, .empty => e
  | e, f => .sequence e f

/-- Whether an expression describes the empty text only. -/
def isWidthless : Expression → Bool
  | .empty => true
  | .char _ => false
  | .assertion _ => true
  | .sequence e f => e.isWidthless && f.isWidthless
  | .choice e f => e.isWidthless && f.isWidthless
  | .repetition e _ max => e.isWidthless || max == some 0

/-- A repetition in its simplest form: none and exactly one need no counting, and repeating what
describes the empty text only is the same as having it at most once. -/
def repeated (e : Expression) (min : Nat) (max : Option Nat) : Expression :=
  let counts : Nat × Option Nat :=
    if e.isWidthless then (Nat.min min 1, some (Nat.min (max.getD 1) 1)) else (min, max)
  if counts = (0, some 0) then .empty
  else if counts = (1, some 1) then e
  else .repetition e counts.1 counts.2

/-- A choice between several expressions. -/
def oneOf : List Expression → Expression
  | [] => .empty
  | [e] => e
  | e :: rest => .choice e (oneOf rest)

/-- A sequence of several expressions. -/
def inOrder (es : List Expression) : Expression :=
  es.foldr andThen .empty

/-! ## Size -/

/-- The storage that a matching machine takes for a set: a few units for ASCII, and a tree of the
encodings of its ranges otherwise. -/
def setCost (s : CharSet) : Nat :=
  let ascii := match s with
    | .ranges rs => rs.all fun r => r.2 < 0x80
    | .asciiFolded _ => true
    | _ => false
  if ascii then 32 + 8 * s.extent else 300 + 64 * s.extent

/-- The storage that a matching machine takes for an expression, where every repetition is written
out. -/
def cost : Expression → Nat
  | .empty => 32
  | .char s => setCost s
  | .assertion _ => 32
  | .sequence e f => e.cost + f.cost
  | .choice e f => e.cost + f.cost + 36
  | .repetition e min none => e.cost * Nat.max min 1 + 40
  | .repetition e min (some max) => e.cost * max + 40 * (max - min)

/-! ## Matching -/

/-- Whether an expression describes the empty text at a place. -/
def fitsEmpty (p : Place) : Expression → Bool
  | .empty => true
  | .char _ => false
  | .assertion a => a.holds p
  | .sequence e f => e.fitsEmpty p && f.fitsEmpty p
  | .choice e f => e.fitsEmpty p || f.fitsEmpty p
  | .repetition e min _ => min == 0 || e.fitsEmpty p

/-- How many repetitions may be left after one that is not empty: at most one less, and any number
of the required ones may have been empty before it if the body can be empty there. -/
def countsLeft (empty : Bool) (min : Nat) : Option Nat → List (Nat × Option Nat)
  | none => if empty then [(0, none)] else [(min - 1, none)]
  | some 0 => []
  | some (max + 1) =>
    if empty && 0 < min then (List.range min).map fun k => (k, some (max + 1 - (min - k)))
    else [(min - 1, some max)]

/-- What may follow a character `c` at a place in a text that an expression describes. -/
def after (p : Place) (c : Char) : Expression → List Expression
  | .empty => []
  | .char s => if s.mem c then [.empty] else []
  | .assertion _ => []
  | .sequence e f =>
    (e.after p c).map (·.andThen f) ++ if e.fitsEmpty p then f.after p c else []
  | .choice e f => e.after p c ++ f.after p c
  | .repetition e min max =>
    (e.after p c).flatMap fun rest =>
      (countsLeft (e.fitsEmpty p) min max).map fun n => rest.andThen (.repetition e n.1 n.2)

/-- Whether some part of a text fits: one that starts in `rest` and fits `e`, or one that has
started before and must go on with one of `pending`. -/
def search (e : Expression) : List Expression → Option Char → Text → Bool
  | pending, before, [] => (e :: pending).any (fitsEmpty ⟨before, none⟩)
  | pending, before, c :: rest =>
    let p : Place := ⟨before, some c⟩
    let here := e :: pending
    here.any (fitsEmpty p) || search e (here.flatMap (after p c)).eraseDups (some c) rest

/-- Whether some part of a text fits an expression. -/
def occursIn (e : Expression) (s : Text) : Bool :=
  search e [] none s

end Expression

end Frontmatter
