import Frontmatter.Proofs.Schedule.History
import Mathlib.Data.Char
import Mathlib.Data.List.Lex
import Mathlib.Data.List.Nodup
import Mathlib.Data.Prod.Lex

/-! # Delivering live tasks

A schedule keeps cancelled tasks until it is asked for what has come due, and it marks the task that
a newer one replaces as cancelled. `Records` is the invariant that ties its tasks and its marks to
what has happened: the tasks that wait are the live ones, and the marks tell which tasks were
cancelled or superseded. Every event keeps it, so that `live_tasks_come_due` holds after every
history. -/

namespace Frontmatter

/-! ## The order of tasks -/

/-- The place of a task among others: first the time when it comes due, then the document, and then
the line. -/
def Task.rank (t : Task) : ℕ ×ₗ Text ×ₗ ℕ :=
  toLex (t.due, toLex (t.key.document, t.key.line))

/-- The order of tasks is that of their ranks. -/
theorem Task.before_iff (a b : Task) : a.before b = true ↔ a.rank ≤ b.rank := by
  rw [rank, rank, Prod.Lex.toLex_le_toLex, Prod.Lex.toLex_le_toLex, before]
  by_cases hdue : a.due = b.due
  · by_cases hdocument : a.key.document = b.key.document
    · simp [hdue, hdocument]
    · simp [hdue, hdocument]
  · simp [hdue]

/-- Tasks of the same rank are on the same line. -/
theorem Task.key_eq_of_rank_eq {a b : Task} (h : a.rank = b.rank) : a.key = b.key := by
  rw [rank, rank, toLex_inj, Prod.mk.injEq, toLex_inj, Prod.mk.injEq] at h
  obtain ⟨-, hdocument, hline⟩ := h
  cases ha : a.key
  cases hb : b.key
  rw [ha, hb] at hdocument hline
  simp_all

/-- Sorted tasks come in the order of their ranks. -/
theorem Task.pairwise_mergeSort (tasks : List Task) :
    (tasks.mergeSort Task.before).Pairwise (·.rank ≤ ·.rank) := by
  have hsorted : (tasks.mergeSort Task.before).Pairwise fun a b => a.before b = true := by
    apply List.pairwise_mergeSort
    · intro a b c hab hbc
      rw [before_iff] at hab hbc ⊢
      exact le_trans hab hbc
    · intro a b
      rw [Bool.or_eq_true, before_iff, before_iff]
      exact le_total _ _
  exact hsorted.imp fun h => (before_iff _ _).mp h

namespace Schedule

variable {delay now number : Nat} {h : History} {s : Schedule} {key : LineKey} {t u : Task}

/-! ## What one event does to a schedule -/

/-- The tasks that wait are those that are not marked as cancelled. -/
theorem mem_waiting : t ∈ s.waiting ↔ t ∈ s.tasks ∧ ¬ s.isCancelled t.number = true := by
  simp [waiting]

/-- Scheduling a line cancels the task that the line has. -/
theorem isCancelled_add : (s.add key now).isCancelled number = true
    ↔ (∃ t ∈ s.tasks, t.key = key ∧ t.number = number) ∨ s.isCancelled number = true := by
  simp [isCancelled, add, and_assoc]

/-- Scheduling a line puts its new task in place of the one that it has. -/
theorem mem_tasks_add :
    t ∈ (s.add key now).tasks ↔ t = ⟨key, now + s.delay, s.issued⟩ ∨ t ∈ s.tasks ∧ t.key ≠ key := by
  simp [add]

/-- Cancelling a task marks it besides the others. -/
theorem isCancelled_cancel {n : Nat} :
    (s.cancel number).isCancelled n = true ↔ n = number ∨ s.isCancelled n = true := by
  simp [isCancelled, cancel]

/-- The tasks that have come due, in their order. -/
def due (s : Schedule) (now : Nat) : List Task :=
  (s.waiting.filter fun t => t.due ≤ now).mergeSort Task.before

/-- The tasks that have come due are those that wait and whose time has come. -/
theorem mem_due : t ∈ s.due now ↔ t ∈ s.waiting ∧ t.due ≤ now := by
  simp [due, List.mem_mergeSort]

/-- The lines that are taken out are those of the tasks that have come due. -/
theorem takeDue_snd : (s.takeDue now).2 = (s.due now).map (·.key) := rfl

/-- Taking out lines marks no task. -/
theorem isCancelled_takeDue : (s.takeDue now).1.isCancelled number = s.isCancelled number := rfl

/-- The tasks that wait for a later time are kept. -/
theorem mem_tasks_takeDue : t ∈ (s.takeDue now).1.tasks ↔ t ∈ s.waiting ∧ now < t.due := by
  simp [takeDue]

/-! ## The invariant -/

/-- How a schedule's tasks and marks tell what has happened to it. -/
structure Records (delay : Nat) (h : History) (s : Schedule) : Prop where
  /-- The delay stays as it was. -/
  delay_eq : s.delay = delay
  /-- Tasks are counted as they are made. -/
  issued_eq : s.issued = taskCount h
  /-- Only tasks that were made have been cancelled. -/
  lt_of_cancelled : ∀ number, .cancelled number ∈ h → number < taskCount h
  /-- A line has one task at most. -/
  nodup_keys : (s.tasks.map (·.key)).Nodup
  /-- The lines of the tasks have not been taken out. -/
  undelivered : ∀ t ∈ s.tasks, Undelivered delay h t
  /-- The tasks that wait are the live ones. -/
  waiting_iff : ∀ t, t ∈ s.waiting ↔ Live delay h t
  /-- The tasks that are marked were cancelled or superseded. -/
  isCancelled_iff : ∀ number, s.isCancelled number = true
    ↔ .cancelled number ∈ h ∨ Superseded delay h number

namespace Records

/-- Tasks of the same line are the same. -/
theorem eq_of_key_eq (hr : Records delay h s) (ht : t ∈ s.tasks) (hu : u ∈ s.tasks)
    (heq : t.key = u.key) : t = u :=
  List.inj_on_of_nodup_map hr.nodup_keys ht hu heq

/-- Tasks with the same number are the same. -/
theorem eq_of_number_eq (hr : Records delay h s) (ht : t ∈ s.tasks) (hu : u ∈ s.tasks)
    (heq : t.number = u.number) : t = u := by
  obtain ⟨since, ht, -⟩ := hr.undelivered t ht
  obtain ⟨since', hu, -⟩ := hr.undelivered u hu
  exact Schedule.eq_of_number_eq ht hu heq

/-- A task of the schedule has a smaller number than the next one. -/
theorem number_lt (hr : Records delay h s) (ht : t ∈ s.tasks) : t.number < s.issued := by
  obtain ⟨since, ht, -⟩ := hr.undelivered t ht
  rw [hr.issued_eq]
  exact number_lt_taskCount ht

/-- The next task has not been marked. -/
theorem not_isCancelled_issued (hr : Records delay h s) : ¬ s.isCancelled s.issued = true := by
  rw [hr.isCancelled_iff, hr.issued_eq]
  rintro (hcancelled | hsuper)
  · exact absurd (hr.lt_of_cancelled _ hcancelled) (Nat.lt_irrefl _)
  · exact absurd (lt_taskCount_of_superseded hsuper) (Nat.lt_irrefl _)

/-- A waiting task is delivered exactly if it has come due. -/
theorem key_mem_takeDue_iff (hr : Records delay h s) (ht : t ∈ s.waiting) :
    t.key ∈ (s.takeDue now).2 ↔ t.due ≤ now := by
  rw [takeDue_snd, List.mem_map]
  constructor
  · rintro ⟨u, hu, heq⟩
    obtain ⟨hu, hdue⟩ := mem_due.mp hu
    rwa [← hr.eq_of_key_eq (mem_waiting.mp hu).1 (mem_waiting.mp ht).1 heq]
  · exact fun hdue => ⟨t, mem_due.mpr ⟨ht, hdue⟩, rfl⟩

/-- A new schedule records that nothing has happened. -/
theorem new (delay : Nat) : Records delay [] (.new delay) where
  delay_eq := rfl
  issued_eq := rfl
  lt_of_cancelled := by simp
  nodup_keys := List.nodup_nil
  undelivered := by simp [Schedule.new]
  waiting_iff := by simp [Schedule.new, waiting, Live, Made]
  isCancelled_iff := by simp [Schedule.new, isCancelled, Superseded]

/-- Scheduling a line is recorded: its task is superseded by a new one with the next number. -/
theorem add (hr : Records delay h s) (key : LineKey) (now : Nat) :
    Records delay (.scheduled key now :: h) (s.add key now) where
  delay_eq := hr.delay_eq
  issued_eq := congrArg (· + 1) hr.issued_eq
  lt_of_cancelled := by
    intro number hmem
    have hold : .cancelled number ∈ h := by simpa using hmem
    exact Nat.lt_succ_of_lt (hr.lt_of_cancelled number hold)
  nodup_keys := by
    refine List.nodup_cons.mpr ⟨by simp, ?_⟩
    exact hr.nodup_keys.sublist (List.filter_sublist.map _)
  undelivered := by
    intro t ht
    rw [undelivered_cons, madeBy_scheduled, ← hr.delay_eq, ← hr.issued_eq]
    rcases mem_tasks_add.mp ht with rfl | ⟨ht, -⟩
    · exact .inl rfl
    · exact .inr ⟨hr.delay_eq ▸ hr.undelivered t ht, id⟩
  waiting_iff := by
    intro t
    rw [live_cons, madeBy_scheduled, Event.ends_scheduled, ← hr.waiting_iff, mem_waiting,
      mem_tasks_add, isCancelled_add, mem_waiting, hr.delay_eq, hr.issued_eq]
    constructor
    · rintro ⟨rfl | ⟨ht, hkey⟩, hnot⟩
      · exact .inl rfl
      · rw [not_or] at hnot
        exact .inr ⟨⟨ht, hnot.2⟩, Ne.symm hkey⟩
    · rintro (rfl | ⟨⟨ht, hnot⟩, hkey⟩)
      · -- The new task's number is not yet in use.
        refine ⟨.inl rfl, ?_⟩
        rintro (⟨u, hu, -, hnumber⟩ | hcancelled)
        · have hlt := hr.number_lt hu
          rw [hr.issued_eq] at hlt
          exact absurd hnumber (Nat.ne_of_lt hlt)
        · rw [← hr.issued_eq] at hcancelled
          exact hr.not_isCancelled_issued hcancelled
      · -- The line's earlier task has another number.
        refine ⟨.inr ⟨ht, Ne.symm hkey⟩, ?_⟩
        rintro (⟨u, hu, rfl, hnumber⟩ | hcancelled)
        · exact hkey (congrArg Task.key (hr.eq_of_number_eq hu ht hnumber))
        · exact hnot hcancelled
  isCancelled_iff := by
    intro number
    rw [isCancelled_add, hr.isCancelled_iff, superseded_cons, List.mem_cons]
    constructor
    · rintro (⟨t, ht, rfl, hnumber⟩ | hcancelled | hsuper)
      · exact .inr (.inr ⟨t, rfl, hr.undelivered t ht, hnumber⟩)
      · exact .inl (.inr hcancelled)
      · exact .inr (.inl hsuper)
    · rintro ((hnew | hcancelled) | hsuper | ⟨t, rfl, ht, rfl⟩)
      · exact absurd hnew (by simp)
      · exact .inr (.inl hcancelled)
      · exact .inr (.inr hsuper)
      · -- Unless it was marked before, the superseded task was live, and so the schedule has it.
        by_cases hcancelled : .cancelled t.number ∈ h
        · exact .inr (.inl hcancelled)
        · by_cases hsuper : Superseded delay h t.number
          · exact .inr (.inr hsuper)
          · have hlive := (hr.waiting_iff t).mpr (ht.live hcancelled hsuper)
            exact .inl ⟨t, (mem_waiting.mp hlive).1, rfl, rfl⟩

/-- Cancelling a task is recorded: the task waits no longer, and no other is touched. -/
theorem cancel (hr : Records delay h s) (hlt : number < s.issued) :
    Records delay (.cancelled number :: h) (s.cancel number) where
  delay_eq := hr.delay_eq
  issued_eq := hr.issued_eq
  lt_of_cancelled := by
    intro n hmem
    rcases List.mem_cons.mp hmem with heq | hmem
    · obtain rfl := Event.cancelled.inj heq
      rw [hr.issued_eq] at hlt
      exact hlt
    · exact hr.lt_of_cancelled n hmem
  nodup_keys := hr.nodup_keys
  undelivered := fun t ht => undelivered_cons.mpr (.inr ⟨hr.undelivered t ht, id⟩)
  waiting_iff := by
    intro t
    rw [live_cons, Event.ends_cancelled, ← hr.waiting_iff, mem_waiting, isCancelled_cancel, not_or,
      mem_waiting]
    constructor
    · rintro ⟨ht, hne, hnot⟩
      exact .inr ⟨⟨ht, hnot⟩, Ne.symm hne⟩
    · rintro (hnew | ⟨⟨ht, hnot⟩, hne⟩)
      · exact absurd hnew not_madeBy_cancelled
      · exact ⟨ht, Ne.symm hne, hnot⟩
  isCancelled_iff := by
    intro n
    rw [isCancelled_cancel, hr.isCancelled_iff, superseded_cons, List.mem_cons]
    simp [or_assoc]

/-- Taking out lines is recorded: the tasks that have come due are gone, and the others wait on. -/
theorem takeDue (hr : Records delay h s) (now : Nat) :
    Records delay (.taken now (s.takeDue now).2 :: h) (s.takeDue now).1 where
  delay_eq := hr.delay_eq
  issued_eq := hr.issued_eq
  lt_of_cancelled := fun number hmem => hr.lt_of_cancelled number (by simpa using hmem)
  nodup_keys := hr.nodup_keys.sublist ((List.filter_sublist.trans List.filter_sublist).map _)
  undelivered := by
    intro t ht
    obtain ⟨ht, hdue⟩ := mem_tasks_takeDue.mp ht
    refine undelivered_cons.mpr (.inr ⟨hr.undelivered t (mem_waiting.mp ht).1, ?_⟩)
    rw [Event.delivers_taken, hr.key_mem_takeDue_iff ht]
    exact Nat.not_le.mpr hdue
  waiting_iff := by
    intro t
    rw [live_cons, Event.ends_taken, ← hr.waiting_iff, mem_waiting, mem_tasks_takeDue]
    constructor
    · rintro ⟨⟨ht, hdue⟩, -⟩
      exact .inr ⟨ht, by rw [hr.key_mem_takeDue_iff ht]; exact Nat.not_le.mpr hdue⟩
    · rintro (hnew | ⟨ht, hkey⟩)
      · exact absurd hnew not_madeBy_taken
      · rw [hr.key_mem_takeDue_iff ht] at hkey
        exact ⟨⟨ht, Nat.not_le.mp hkey⟩, (mem_waiting.mp ht).2⟩
  isCancelled_iff := by
    intro number
    rw [isCancelled_takeDue, hr.isCancelled_iff, superseded_cons]
    simp

end Records

/-- Every history is recorded by the schedule that it leads to. -/
theorem Reaches.records (hreach : Reaches delay h s) : Records delay h s := by
  induction hreach with
  | new => exact .new delay
  | add key now _ ih => exact ih.add key now
  | cancel _ hlt ih => exact ih.cancel hlt
  | takeDue now _ ih => exact ih.takeDue now

/-! ## What is delivered -/

namespace Records

/-- No task waits twice. -/
theorem nodup_waiting (hr : Records delay h s) : s.waiting.Nodup :=
  hr.nodup_keys.of_map.sublist List.filter_sublist

/-- Each line is delivered once. -/
theorem nodup_takeDue (hr : Records delay h s) (now : Nat) : (s.takeDue now).2.Nodup := by
  have hsublist : (s.waiting.filter fun t => t.due ≤ now).Sublist s.tasks :=
    List.filter_sublist.trans List.filter_sublist
  rw [takeDue_snd, due, ((List.mergeSort_perm _ _).map _).nodup_iff]
  exact hr.nodup_keys.sublist (hsublist.map _)

/-- Lines are delivered in the order of their tasks. -/
theorem pairwise_due (hr : Records delay h s) (now : Nat) :
    (s.due now).Pairwise (·.rank < ·.rank) := by
  have hkeys : (s.due now).Pairwise (·.key ≠ ·.key) := List.pairwise_map.mp (hr.nodup_takeDue now)
  have hsorted : (s.due now).Pairwise (·.rank ≤ ·.rank) := Task.pairwise_mergeSort _
  refine (hsorted.and hkeys).imp fun {a b} ⟨hle, hkey⟩ => lt_of_le_of_ne hle ?_
  exact fun heq => hkey (Task.key_eq_of_rank_eq heq)

/-- Taking out the lines that have come due ends their tasks and no others. -/
theorem live_takeDue_iff (hr : Records delay h s) (now : Nat) (t : Task) :
    Live delay (.taken now (s.takeDue now).2 :: h) t ↔ Live delay h t ∧ now < t.due := by
  have hafter := (hr.takeDue now).waiting_iff t
  rw [← hafter, ← hr.waiting_iff, mem_waiting, mem_tasks_takeDue, isCancelled_takeDue]
  constructor
  · exact fun hmem => hmem.1
  · exact fun hmem => ⟨hmem, (mem_waiting.mp hmem.1).2⟩

/-- The next time when a task comes due is the least of the live tasks. -/
theorem nextDue?_eq_some_iff (hr : Records delay h s) (next : Nat) :
    s.nextDue? = some next
      ↔ (∃ t, Live delay h t ∧ t.due = next) ∧ ∀ t, Live delay h t → next ≤ t.due := by
  rw [nextDue?, List.min?_eq_some_iff, List.mem_map]
  simp only [hr.waiting_iff, List.forall_mem_map]

/-- Cancelling a task that is not live leaves the waiting tasks as they are. -/
theorem waiting_cancel (hr : Records delay h s) {since : History} (ht : Made delay h since t)
    (hnot : ¬ Live delay h t) : (s.cancel t.number).waiting = s.waiting := by
  apply List.filter_congr
  intro u hu
  by_cases hcancelled : s.isCancelled u.number = true
  · have hstill : (s.cancel t.number).isCancelled u.number = true :=
      isCancelled_cancel.mpr (.inr hcancelled)
    rw [hcancelled, hstill]
  · have hlive := (hr.waiting_iff u).mp (mem_waiting.mpr ⟨hu, hcancelled⟩)
    have hnew : ¬ (s.cancel t.number).isCancelled u.number = true := by
      rw [isCancelled_cancel, not_or]
      exact ⟨(number_ne_of_live ht hnot hlive).symm, hcancelled⟩
    rw [eq_false_of_ne_true hcancelled, eq_false_of_ne_true hnew]

end Records

/-- Whatever has happened, exactly the lines of the live tasks that have come due are delivered,
each once and in the order of time, document and line, and their tasks are the ones that are no
longer live then. The tasks that wait are the live ones, and the next time when one comes due is the
least of theirs. The cancelled tasks are those that someone cancelled and those that were superseded
before they were delivered. Cancelling a task that is no longer live changes nothing for the live
ones. -/
theorem live_tasks_come_due (hreach : Reaches delay h s) :
    (∀ now, ∃ due : List Task, (s.takeDue now).2 = due.map (·.key)
        ∧ (∀ t, t ∈ due ↔ Live delay h t ∧ t.due ≤ now)
        ∧ due.Pairwise (·.rank < ·.rank) ∧ (s.takeDue now).2.Nodup
        ∧ ∀ t, Live delay (.taken now (s.takeDue now).2 :: h) t ↔ Live delay h t ∧ now < t.due)
      ∧ (∃ live : List Task, live.Nodup ∧ (∀ t, t ∈ live ↔ Live delay h t)
          ∧ s.pending = live.length)
      ∧ (∀ next, s.nextDue? = some next
          ↔ (∃ t, Live delay h t ∧ t.due = next) ∧ ∀ t, Live delay h t → next ≤ t.due)
      ∧ (∀ number, s.isCancelled number = true
          ↔ .cancelled number ∈ h ∨ Superseded delay h number)
      ∧ ∀ since t, Made delay h since t → ¬ Live delay h t →
          (∀ u, Live delay (.cancelled t.number :: h) u ↔ Live delay h u)
            ∧ (s.cancel t.number).pending = s.pending
            ∧ (s.cancel t.number).nextDue? = s.nextDue?
            ∧ ∀ now, ((s.cancel t.number).takeDue now).2 = (s.takeDue now).2 := by
  have hr := hreach.records
  refine ⟨?_, ⟨s.waiting, hr.nodup_waiting, hr.waiting_iff, rfl⟩, hr.nextDue?_eq_some_iff,
    hr.isCancelled_iff, ?_⟩
  · intro now
    refine ⟨s.due now, rfl, ?_, hr.pairwise_due now, hr.nodup_takeDue now, hr.live_takeDue_iff now⟩
    intro t
    rw [mem_due, hr.waiting_iff]
  · intro since t ht hnot
    have hwaiting : (s.cancel t.number).waiting = s.waiting := hr.waiting_cancel ht hnot
    refine ⟨live_cancelled_iff ht hnot, ?_, ?_, ?_⟩
    · rw [pending, hwaiting, pending]
    · rw [nextDue?, hwaiting, nextDue?]
    · intro now
      rw [takeDue_snd, takeDue_snd, due, hwaiting, due]

/-- A line is scheduled twice, and another one after that at an earlier time. -/
def rescheduledHistory : History :=
  [.scheduled ⟨"b".toList, 1⟩ 100, .scheduled ⟨"a".toList, 3⟩ 300, .scheduled ⟨"a".toList, 3⟩ 0]

/-- The schedule after that. -/
def rescheduled : Schedule :=
  (((new 500).add ⟨"a".toList, 3⟩ 0).add ⟨"a".toList, 3⟩ 300).add ⟨"b".toList, 1⟩ 100

/-- The first of the three tasks is superseded and the other two are live. They come due in the
order of their times, also when the first one is cancelled. -/
theorem live_tasks_come_due_after_rescheduling :
    Reaches 500 rescheduledHistory rescheduled
      ∧ Superseded 500 rescheduledHistory 0
      ∧ rescheduled.nextDue? = some 600 ∧ (∀ t, Live 500 rescheduledHistory t → 600 ≤ t.due)
      ∧ ((rescheduled.cancel 0).takeDue 800).2 = [⟨"b".toList, 1⟩, ⟨"a".toList, 3⟩] := by
  have hreach : Reaches 500 rescheduledHistory rescheduled :=
    .add _ _ (.add _ _ (.add _ _ .new))
  have hmade : Made 500 rescheduledHistory _ ⟨⟨"a".toList, 3⟩, 500, 0⟩ :=
    ⟨0, [], (rfl : _ = [_, _] ++ _), rfl, rfl⟩
  have hnot : ¬ Live 500 rescheduledHistory ⟨⟨"a".toList, 3⟩, 500, 0⟩ :=
    mt (hreach.records.waiting_iff _).mpr (by decide)
  obtain ⟨-, -, hnext, hcancelled, hcancel⟩ := live_tasks_come_due hreach
  refine ⟨hreach, ?_, by decide, ((hnext 600).mp (by decide)).2, ?_⟩
  · exact ((hcancelled 0).mp (by decide)).resolve_left (by decide)
  · -- The two tasks are in order already.
    rw [(hcancel _ _ hmade hnot).2.2.2 800, takeDue_snd, due,
      List.mergeSort_of_pairwise (by decide)]
    decide

end Schedule

end Frontmatter
