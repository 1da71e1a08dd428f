import Frontmatter.Config.Basic

/-! # Schedules

A changed line is not checked at once but after a delay. A schedule holds the lines that wait for
their check. Scheduling a line again puts the newer task in the place of the older one, which is
cancelled. Tasks are numbered as they are made, and a task can be cancelled by its number at any
time. A cancelled task no longer waits, but it is only removed when tasks are taken out. -/

namespace Frontmatter

/-- A line of a document. -/
structure LineKey where
  /-- The document. -/
  document : Text
  /-- The line. -/
  line : Nat
  deriving DecidableEq, Repr

/-- A line that waits for its check. -/
structure Task where
  /-- The line. -/
  key : LineKey
  /-- When it comes due. -/
  due : Nat
  /-- The number of the task. -/
  number : Nat
  deriving DecidableEq, Repr

/-- The order of tasks: by the time they come due, and then by document and line. -/
def Task.before (a b : Task) : Bool :=
  if a.due ≠ b.due then a.due < b.due
  else if a.key.document ≠ b.key.document then a.key.document < b.key.document
  else a.key.line ≤ b.key.line

/-- The lines that wait for their checks. -/
structure Schedule where
  /-- How long a line waits. -/
  delay : Nat
  /-- The latest task of each line, unless it was taken out. -/
  tasks : List Task
  /-- The numbers of the cancelled tasks. -/
  cancelled : List Nat
  /-- How many tasks were made. -/
  issued : Nat
  deriving DecidableEq, Repr

namespace Schedule

/-- A schedule without tasks. -/
def new (delay : Nat) : Schedule := ⟨delay, [], [], 0⟩

/-- A schedule without tasks, with the delay when nothing is configured. -/
def default : Schedule := new Settings.default.validationDelay

/-- Whether a task was cancelled. -/
def isCancelled (s : Schedule) (number : Nat) : Bool :=
  s.cancelled.contains number

/-- Cancels a task. -/
def cancel (s : Schedule) (number : Nat) : Schedule :=
  { s with cancelled := number :: s.cancelled }

/-- The tasks that were not cancelled. -/
def waiting (s : Schedule) : List Task :=
  s.tasks.filter fun t => !s.isCancelled t.number

/-- Schedules a line and cancels the task that it had; the new task's number is the count of tasks
made before. -/
def add (s : Schedule) (key : LineKey) (now : Nat) : Schedule :=
  { s with
    tasks := ⟨key, now + s.delay, s.issued⟩ :: s.tasks.filter (·.key ≠ key)
    cancelled := (s.tasks.filter (·.key = key)).map (·.number) ++ s.cancelled
    issued := s.issued + 1 }

/-- Takes the lines whose tasks have come due out of the schedule, in the order of tasks. Cancelled
tasks are dropped. -/
def takeDue (s : Schedule) (now : Nat) : Schedule × List LineKey :=
  ({ s with tasks := s.waiting.filter fun t => now < t.due },
    ((s.waiting.filter fun t => t.due ≤ now).mergeSort Task.before).map (·.key))

/-- How many lines wait. -/
def pending (s : Schedule) : Nat :=
  s.waiting.length

/-- When the next task comes due. -/
def nextDue? (s : Schedule) : Option Nat :=
  (s.waiting.map (·.due)).min?

end Schedule

end Frontmatter
