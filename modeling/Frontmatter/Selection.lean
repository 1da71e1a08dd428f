import Frontmatter.Insertion

/-! # Selections

A selection remembers which suggestions are picked while someone stays at one place. It is bound to
that place, and binding it to another one starts over. When one suggestion is picked at a time,
confirming one inserts it at once. When several are picked together, confirming one toggles it, and
closing the selection inserts all that are toggled on, in the order in which they were. -/

namespace Frontmatter

/-- The place for which suggestions are picked. -/
structure Trigger where
  /-- The document. -/
  document : Text
  /-- The line. -/
  line : Nat
  /-- The path. -/
  path : Path
  deriving DecidableEq, Repr

/-- The place of a context in a document. -/
def Trigger.ofContext (document : Text) (c : Context) : Trigger :=
  ⟨document, c.line, c.path⟩

/-- What is picked so far. -/
structure Selection where
  /-- The place that the selection is bound to. -/
  trigger : Option Trigger
  /-- How suggestions are picked. -/
  mode : SelectionMode
  /-- The keys that are picked, in the order of picking. -/
  selected : List Text
  deriving DecidableEq, Repr

namespace Selection

/-- The selection bound to no place. -/
def new : Selection := ⟨none, .single, []⟩

/-- The selection bound to a place. It stays as it is if it is bound to that place in that mode. -/
def bind (s : Selection) (trigger : Trigger) (mode : SelectionMode) : Selection :=
  if s.trigger = some trigger ∧ s.mode = mode then s else ⟨some trigger, mode, []⟩

/-- Whether a key is picked. -/
def contains (s : Selection) (key : Text) : Bool :=
  s.selected.contains key

/-- The selection with a key picked that was not, or the other way round. -/
def toggle (s : Selection) (key : Text) : Selection :=
  { s with selected := if s.contains key then s.selected.erase key else s.selected ++ [key] }

/-- The text by which a suggestion is shown; a box tells whether it is picked. -/
def render (s : Selection) (x : Suggestion) : Text :=
  match s.mode with
  | .single => x.display
  | .multi => (if s.contains x.key then "[x] ".toList else "[ ] ".toList) ++ x.display

/-- Confirms a key at a context: the selection afterwards, and the insertion if there is one. -/
def confirm (s : Selection) (key : Text) (c : Context) (autoIndent : Bool) :
    Selection × Option Insertion :=
  match s.mode with
  | .single => (new, Insertion.ofKeys? c [key] autoIndent)
  | .multi => (s.toggle key, none)

/-- Closes the selection at a context: the selection afterwards, and the insertion if there is
one. -/
def close (s : Selection) (c : Context) (autoIndent : Bool) : Selection × Option Insertion :=
  match s.mode with
  | .single => (new, none)
  | .multi => (new, Insertion.ofKeys? c s.selected autoIndent)

end Selection

end Frontmatter
