import Frontmatter.Schedule

/-! # The history of a schedule

What happens to a schedule is a history of events, the latest first: lines are scheduled, tasks are
cancelled, and the lines that have come due are taken out. `Reaches` says which schedule a history
leads to. The history alone tells what became of each task. It is `Live` until its line is scheduled
again, it is cancelled, or its line is taken out; it is `Superseded` when its line was scheduled
again before it was taken out. `live_cons` and `superseded_cons` say what one event changes. -/

namespace Frontmatter

namespace Schedule

/-- What can happen to a schedule. -/
inductive Event where
  /-- A line is scheduled at a time. -/
  | scheduled (key : LineKey) (now : Nat)
  /-- A task is cancelled. -/
  | cancelled (number : Nat)
  /-- The lines that have come due at a time are taken out. -/
  | taken (now : Nat) (keys : List LineKey)
  deriving DecidableEq, Repr

namespace Event

/-- Whether an event schedules a line. -/
def Schedules : Event → LineKey → Prop
  | .scheduled key _, k => key = k
  | _, _ => False

/-- Whether an event takes a line out. -/
def Delivers : Event → LineKey → Prop
  | .taken _ keys, k => k ∈ keys
  | _, _ => False

/-- Whether an event ends a task that was made before it: the task's line is scheduled again, the
task is cancelled, or its line is taken out. -/
def Ends (e : Event) (t : Task) : Prop :=
  e.Schedules t.key ∨ e = .cancelled t.number ∨ e.Delivers t.key

variable {key k : LineKey} {keys : List LineKey} {now number : Nat} {t : Task}

/-! What each kind of event schedules, takes out and ends is left to `simp`. -/

@[simp] theorem schedules_scheduled : (scheduled key now).Schedules k ↔ key = k := Iff.rfl

@[simp] theorem not_schedules_cancelled : ¬ (cancelled number).Schedules k := id

@[simp] theorem not_schedules_taken : ¬ (taken now keys).Schedules k := id

@[simp] theorem not_delivers_scheduled : ¬ (scheduled key now).Delivers k := id

@[simp] theorem not_delivers_cancelled : ¬ (cancelled number).Delivers k := id

@[simp] theorem delivers_taken : (taken now keys).Delivers k ↔ k ∈ keys := Iff.rfl

@[simp] theorem ends_scheduled : (scheduled key now).Ends t ↔ key = t.key := by
  simp [Ends]

@[simp] theorem ends_cancelled : (cancelled number).Ends t ↔ number = t.number := by
  simp [Ends]

@[simp] theorem ends_taken : (taken now keys).Ends t ↔ t.key ∈ keys := by
  simp [Ends]

end Event

/-- What has happened to a schedule, the latest first. -/
abbrev History := List Event

/-- How many tasks were made. -/
def taskCount : History → Nat
  | [] => 0
  | .scheduled _ _ :: h => taskCount h + 1
  | _ :: h => taskCount h

/-- The schedule that a history leads to. Only tasks that were made can be cancelled, and what is
taken out is what the schedule gives. -/
inductive Reaches (delay : Nat) : History → Schedule → Prop where
  /-- Nothing has happened to a new schedule. -/
  | new : Reaches delay [] (.new delay)
  /-- A line is scheduled. -/
  | add {h : History} {s : Schedule} (key : LineKey) (now : Nat) :
      Reaches delay h s → Reaches delay (.scheduled key now :: h) (s.add key now)
  /-- A task is cancelled. -/
  | cancel {h : History} {s : Schedule} {number : Nat} :
      Reaches delay h s → number < s.issued →
        Reaches delay (.cancelled number :: h) (s.cancel number)
  /-- The lines that have come due are taken out. -/
  | takeDue {h : History} {s : Schedule} (now : Nat) :
      Reaches delay h s → Reaches delay (.taken now (s.takeDue now).2 :: h) (s.takeDue now).1

/-! ## What became of a task -/

/-- Whether a task is the one that an event of a history made, given what has happened since. -/
def Made (delay : Nat) (h since : History) (t : Task) : Prop :=
  ∃ now earlier, h = since ++ .scheduled t.key now :: earlier
    ∧ t.due = now + delay ∧ t.number = taskCount earlier

/-- Whether a task was made and has not ended since. -/
def Live (delay : Nat) (h : History) (t : Task) : Prop :=
  ∃ since, Made delay h since t ∧ ∀ e ∈ since, ¬ e.Ends t

/-- Whether a task was made and its line has not been taken out since. -/
def Undelivered (delay : Nat) (h : History) (t : Task) : Prop :=
  ∃ since, Made delay h since t ∧ ∀ e ∈ since, ¬ e.Delivers t.key

/-- Whether the line of the task with a number was scheduled again before it was taken out. -/
def Superseded (delay : Nat) (h : History) (number : Nat) : Prop :=
  ∃ later e earlier t, h = later ++ e :: earlier ∧ e.Schedules t.key
    ∧ Undelivered delay earlier t ∧ t.number = number

variable {delay number : Nat} {h since : History} {e : Event} {t u : Task}

/-- Whether a task is the one that the event after a history makes. -/
def MadeBy (delay : Nat) (h : History) (e : Event) (t : Task) : Prop :=
  ∃ now, e = .scheduled t.key now ∧ t.due = now + delay ∧ t.number = taskCount h

/-- Scheduling a line makes one task. -/
@[simp] theorem madeBy_scheduled {key : LineKey} {now : Nat} :
    MadeBy delay h (.scheduled key now) t ↔ t = ⟨key, now + delay, taskCount h⟩ := by
  constructor
  · rintro ⟨now', heq, hdue, hnumber⟩
    obtain ⟨rfl, rfl⟩ := Event.scheduled.inj heq
    cases t
    simp_all
  · rintro rfl
    exact ⟨now, rfl, rfl, rfl⟩

/-- Cancelling a task makes none. -/
@[simp] theorem not_madeBy_cancelled : ¬ MadeBy delay h (.cancelled number) t := by
  simp [MadeBy]

/-- Taking out lines makes no task. -/
@[simp] theorem not_madeBy_taken {now : Nat} {keys : List LineKey} :
    ¬ MadeBy delay h (.taken now keys) t := by
  simp [MadeBy]

/-- A task was made by the latest event or before it. -/
theorem made_cons : Made delay (e :: h) since t
    ↔ (since = [] ∧ MadeBy delay h e t)
      ∨ ∃ before, since = e :: before ∧ Made delay h before t := by
  constructor
  · rintro ⟨now, earlier, heq, hdue, hnumber⟩
    rcases List.cons_eq_append_iff.mp heq with ⟨rfl, hnew⟩ | ⟨before, rfl, hold⟩
    · obtain ⟨rfl, rfl⟩ := List.cons.inj hnew
      exact .inl ⟨rfl, now, rfl, hdue, hnumber⟩
    · exact .inr ⟨before, rfl, now, earlier, hold, hdue, hnumber⟩
  · rintro (⟨rfl, now, rfl, hdue, hnumber⟩ | ⟨before, rfl, now, earlier, rfl, hdue, hnumber⟩)
    · exact ⟨now, h, rfl, hdue, hnumber⟩
    · exact ⟨now, earlier, rfl, hdue, hnumber⟩

/-- A task was made without anything of a kind happening since, if it was made by the latest event,
or if it was so before and the latest event is not of that kind. -/
theorem exists_made_cons (kind : Event → Prop) :
    (∃ since, Made delay (e :: h) since t ∧ ∀ x ∈ since, ¬ kind x)
      ↔ MadeBy delay h e t
        ∨ (∃ since, Made delay h since t ∧ ∀ x ∈ since, ¬ kind x) ∧ ¬ kind e := by
  constructor
  · rintro ⟨since, hmade, hsince⟩
    rcases made_cons.mp hmade with ⟨rfl, hnew⟩ | ⟨before, rfl, hold⟩
    · exact .inl hnew
    · obtain ⟨he, hbefore⟩ := List.forall_mem_cons.mp hsince
      exact .inr ⟨⟨before, hold, hbefore⟩, he⟩
  · rintro (hnew | ⟨⟨before, hold, hbefore⟩, he⟩)
    · exact ⟨[], made_cons.mpr (.inl ⟨rfl, hnew⟩), by simp⟩
    · exact ⟨e :: before, made_cons.mpr (.inr ⟨before, rfl, hold⟩),
        List.forall_mem_cons.mpr ⟨he, hbefore⟩⟩

/-- A live task was made by the latest event, or was live before it and was not ended by it. -/
theorem live_cons : Live delay (e :: h) t ↔ MadeBy delay h e t ∨ Live delay h t ∧ ¬ e.Ends t :=
  exists_made_cons (·.Ends t)

/-- An undelivered task was made by the latest event, or was undelivered before it and was not
delivered by it. -/
theorem undelivered_cons : Undelivered delay (e :: h) t
    ↔ MadeBy delay h e t ∨ Undelivered delay h t ∧ ¬ e.Delivers t.key :=
  exists_made_cons (·.Delivers t.key)

/-- The latest event supersedes the undelivered tasks of the line that it schedules. -/
theorem superseded_cons : Superseded delay (e :: h) number
    ↔ Superseded delay h number
      ∨ ∃ t, e.Schedules t.key ∧ Undelivered delay h t ∧ t.number = number := by
  constructor
  · rintro ⟨later, x, earlier, t, heq, hx, ht, hnumber⟩
    rcases List.cons_eq_append_iff.mp heq with ⟨rfl, hnew⟩ | ⟨before, rfl, rfl⟩
    · obtain ⟨rfl, rfl⟩ := List.cons.inj hnew
      exact .inr ⟨t, hx, ht, hnumber⟩
    · exact .inl ⟨before, x, earlier, t, rfl, hx, ht, hnumber⟩
  · rintro (⟨later, x, earlier, t, rfl, hx, ht, hnumber⟩ | ⟨t, he, ht, hnumber⟩)
    · exact ⟨e :: later, x, earlier, t, rfl, hx, ht, hnumber⟩
    · exact ⟨[], e, h, t, rfl, he, ht, hnumber⟩

/-! ## Numbers -/

/-- No event makes the count of tasks smaller. -/
theorem taskCount_le_cons (e : Event) (h : History) : taskCount h ≤ taskCount (e :: h) := by
  cases e <;> simp [taskCount]

/-- Tasks are numbered below their count. -/
theorem number_lt_taskCount (hmade : Made delay h since t) : t.number < taskCount h := by
  induction h generalizing since with
  | nil =>
      obtain ⟨now, earlier, heq, -, -⟩ := hmade
      simp at heq
  | cons e h ih =>
      rcases made_cons.mp hmade with ⟨-, now, rfl, -, hnumber⟩ | ⟨before, -, hold⟩
      · rw [hnumber, taskCount]
        exact Nat.lt_succ_self _
      · exact Nat.lt_of_lt_of_le (ih hold) (taskCount_le_cons e h)

/-- A superseded task was made. -/
theorem lt_taskCount_of_superseded (hsuper : Superseded delay h number) : number < taskCount h := by
  induction h with
  | nil =>
      obtain ⟨later, e, earlier, t, heq, -⟩ := hsuper
      simp at heq
  | cons e h ih =>
      refine Nat.lt_of_lt_of_le ?_ (taskCount_le_cons e h)
      rcases superseded_cons.mp hsuper with hold | ⟨t, -, ⟨since, hmade, -⟩, rfl⟩
      · exact ih hold
      · exact number_lt_taskCount hmade

/-- Tasks with the same number are the same. -/
theorem eq_of_number_eq {since' : History} (ht : Made delay h since t)
    (hu : Made delay h since' u) (heq : t.number = u.number) : t = u := by
  induction h generalizing since since' with
  | nil =>
      obtain ⟨now, earlier, hnil, -, -⟩ := ht
      simp at hnil
  | cons e h ih =>
      rcases made_cons.mp ht with ⟨-, now, he, hdue, hnumber⟩ | ⟨before, -, hold⟩
      · rcases made_cons.mp hu with ⟨-, now', he', hdue', -⟩ | ⟨before', -, hold'⟩
        · rw [he] at he'
          obtain ⟨hkey, rfl⟩ := Event.scheduled.inj he'
          cases t
          cases u
          simp_all
        · -- An older task has a smaller number.
          have hlt := number_lt_taskCount hold'
          omega
      · rcases made_cons.mp hu with ⟨-, now', he', hdue', hnumber'⟩ | ⟨before', -, hold'⟩
        · have hlt := number_lt_taskCount hold
          omega
        · exact ih hold hold'

/-- A task that was neither delivered nor cancelled nor superseded is live. -/
theorem Undelivered.live (ht : Undelivered delay h t) (hcancelled : .cancelled t.number ∉ h)
    (hsuper : ¬ Superseded delay h t.number) : Live delay h t := by
  induction h with
  | nil =>
      obtain ⟨since, ⟨now, earlier, hnil, -, -⟩, -⟩ := ht
      simp at hnil
  | cons e h ih =>
      rw [List.mem_cons, not_or] at hcancelled
      rw [superseded_cons, not_or] at hsuper
      rcases undelivered_cons.mp ht with hnew | ⟨hold, hdelivers⟩
      · exact live_cons.mpr (.inl hnew)
      · refine live_cons.mpr (.inr ⟨ih hold hcancelled.2 hsuper.1, ?_⟩)
        rintro (hschedules | rfl | hends)
        · exact hsuper.2 ⟨t, hschedules, hold, rfl⟩
        · exact hcancelled.1 rfl
        · exact hdelivers hends

/-- No live task has the number of a task that is not live. -/
theorem number_ne_of_live (ht : Made delay h since t) (hnot : ¬ Live delay h t)
    (hu : Live delay h u) : t.number ≠ u.number := by
  intro heq
  obtain ⟨since', hmade, hsince'⟩ := hu
  rw [eq_of_number_eq ht hmade heq] at hnot
  exact hnot ⟨since', hmade, hsince'⟩

/-- Cancelling a task that is not live ends no live task. -/
theorem live_cancelled_iff (ht : Made delay h since t) (hnot : ¬ Live delay h t) (u : Task) :
    Live delay (.cancelled t.number :: h) u ↔ Live delay h u := by
  rw [live_cons, Event.ends_cancelled]
  constructor
  · rintro (hnew | ⟨hlive, -⟩)
    · exact absurd hnew not_madeBy_cancelled
    · exact hlive
  · exact fun hlive => .inr ⟨hlive, number_ne_of_live ht hnot hlive⟩

end Schedule

end Frontmatter
