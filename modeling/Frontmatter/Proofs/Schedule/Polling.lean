import Frontmatter.Proofs.Schedule.Delivery
import Frontmatter.Workspace
import Mathlib.Data.List.Sort

/-! # Polling a schedule

A schedule is asked for what has come due whenever it suits its caller. Asking it early does no
harm: what is delivered then and later is what would have been delivered later at once, in the same
order, and the schedule is the same afterwards. A workspace gives the documents of the lines that
are delivered, each at the place of its first line, which `Task.exists_firsts` picks out. The main
statement is `Workspace.polling_early_delivers_the_same`. -/

namespace Frontmatter

namespace Task

variable {t u : Task} {tasks : List Task}

/-- What comes due earlier comes first. -/
theorem rank_lt_of_due_lt (h : t.due < u.due) : t.rank < u.rank := by
  rw [rank, rank, Prod.Lex.toLex_lt_toLex]
  exact .inl h

/-- What comes first does not come due later. -/
theorem due_le_of_rank_le (h : t.rank ≤ u.rank) : t.due ≤ u.due := by
  by_contra hlt
  exact absurd (rank_lt_of_due_lt (Nat.not_le.mp hlt)) (not_lt_of_ge h)

/-- Between tasks of different documents the line does not count. -/
theorem due_document_lt (h : t.rank < u.rank) (hne : t.key.document ≠ u.key.document) :
    toLex (t.due, t.key.document) < toLex (u.due, u.key.document) := by
  rw [rank, rank, Prod.Lex.toLex_lt_toLex, Prod.Lex.toLex_lt_toLex] at h
  rw [Prod.Lex.toLex_lt_toLex]
  rcases h with hdue | ⟨hdue, hdocument | ⟨heq, -⟩⟩
  · exact .inl hdue
  · exact .inr ⟨hdue, hdocument⟩
  · exact absurd heq hne

/-- Each document of ordered tasks, without repetitions, is that of its first task. -/
theorem exists_firsts : ∀ {tasks : List Task}, tasks.Pairwise (·.rank < ·.rank) →
    ∃ firsts : List Task, firsts.Sublist tasks
      ∧ (tasks.map (·.key.document)).eraseDups = firsts.map (·.key.document)
      ∧ firsts.Pairwise (·.key.document ≠ ·.key.document)
      ∧ ∀ t ∈ firsts, ∀ u ∈ tasks, u.key.document = t.key.document → t.rank ≤ u.rank
  | [], _ => ⟨[], .slnil, by simp, .nil, by simp⟩
  | t :: tasks, hordered => by
      obtain ⟨hfirst, hordered⟩ := List.pairwise_cons.mp hordered
      -- The document of the first task is left out of the others, and the rest goes on from there.
      have hrest : (tasks.filter (·.key.document != t.key.document)).Sublist tasks :=
        List.filter_sublist
      obtain ⟨firsts, hsub, hdocuments, hdistinct, hleast⟩ := exists_firsts (hordered.sublist hrest)
      have hother : ∀ u ∈ firsts, t.key.document ≠ u.key.document := by
        intro u hu
        have hne := (List.mem_filter.mp (hsub.subset hu)).2
        exact (bne_iff_ne.mp hne).symm
      refine ⟨t :: firsts, .cons_cons _ (hsub.trans hrest), ?_, ?_, ?_⟩
      · rw [List.map_cons, List.eraseDups_cons, List.filter_map, List.map_cons, ← hdocuments]
        rfl
      · exact List.pairwise_cons.mpr ⟨hother, hdistinct⟩
      · intro a ha b hb hsame
        rcases List.mem_cons.mp ha with rfl | ha
        · rcases List.mem_cons.mp hb with rfl | hb
          · exact le_rfl
          · exact (hfirst b hb).le
        · rcases List.mem_cons.mp hb with heq | hb
          · rw [heq] at hsame
            exact absurd hsame (hother a ha)
          · refine hleast a ha b (List.mem_filter.mpr ⟨hb, ?_⟩) hsame
            rw [hsame]
            exact bne_iff_ne.mpr (hother a ha).symm
termination_by tasks => tasks.length
decreasing_by exact Nat.lt_succ_of_le hrest.length_le

end Task

/-! ## Asking twice -/

namespace Schedule

variable {delay early late : Nat} {h : History} {s : Schedule} {t : Task}

/-- Asking early leaves a schedule that is the same after asking later. -/
theorem takeDue_takeDue (s : Schedule) (hle : early ≤ late) :
    ((s.takeDue early).1.takeDue late).1 = (s.takeDue late).1 := by
  have hwaiting : (s.takeDue early).1.waiting = s.waiting.filter fun t => early < t.due := by
    refine List.filter_eq_self.mpr fun t ht => ?_
    have hnot := (mem_waiting.mp (List.mem_filter.mp ht).1).2
    simpa [isCancelled_takeDue] using hnot
  have hlate : (s.waiting.filter fun t => early < t.due).filter (fun t => late < t.due)
      = s.waiting.filter fun t => late < t.due := by
    rw [List.filter_filter]
    refine List.filter_congr fun t _ => ?_
    by_cases hdue : late < t.due
    · simp [hdue, Nat.lt_of_le_of_lt hle hdue]
    · simp [hdue]
  change { s with tasks := (s.takeDue early).1.waiting.filter fun t => late < t.due } = _
  rw [hwaiting, hlate]
  rfl

/-- What is delivered early and later is what is delivered later at once. -/
theorem Reaches.takeDue_append (hreach : Reaches delay h s) (hle : early ≤ late) :
    (s.takeDue early).2 ++ ((s.takeDue early).1.takeDue late).2 = (s.takeDue late).2 := by
  have hr := hreach.records
  have hmem : ∀ t, t ∈ (s.takeDue early).1.due late
      ↔ t ∈ s.waiting ∧ early < t.due ∧ t.due ≤ late := by
    intro t
    rw [mem_due, mem_waiting, mem_tasks_takeDue, isCancelled_takeDue]
    constructor
    · rintro ⟨⟨⟨hwait, hearly⟩, -⟩, hlate⟩
      exact ⟨hwait, hearly, hlate⟩
    · rintro ⟨hwait, hearly, hlate⟩
      exact ⟨⟨⟨hwait, hearly⟩, (mem_waiting.mp hwait).2⟩, hlate⟩
  -- Both sides hold the same tasks, and both are in the order of their ranks.
  have hordered : (s.due early ++ (s.takeDue early).1.due late).Pairwise
      (InvImage (· < ·) Task.rank) := by
    refine List.pairwise_append.mpr
      ⟨hr.pairwise_due early, (hr.takeDue early).pairwise_due late, fun t ht u hu => ?_⟩
    exact Task.rank_lt_of_due_lt (Nat.lt_of_le_of_lt (mem_due.mp ht).2 ((hmem u).mp hu).2.1)
  have htasks : s.due early ++ (s.takeDue early).1.due late = s.due late := by
    refine hordered.eq_of_mem_iff (hr.pairwise_due late) fun t => ?_
    rw [List.mem_append, hmem, mem_due, mem_due]
    constructor
    · rintro (⟨hwait, hearly⟩ | ⟨hwait, -, hlate⟩)
      · exact ⟨hwait, Nat.le_trans hearly hle⟩
      · exact ⟨hwait, hlate⟩
    · rintro ⟨hwait, hlate⟩
      by_cases hearly : t.due ≤ early
      · exact .inl ⟨hwait, hearly⟩
      · exact .inr ⟨hwait, Nat.not_le.mp hearly, hlate⟩
  rw [takeDue_snd, takeDue_snd, takeDue_snd, ← List.map_append, htasks]

end Schedule

/-! ## Documents with lines that have come due -/

namespace Workspace

open Schedule (History Live)

/-- The workspace that a history of its schedule leads to. Reports on documents do not take part in
the schedule. -/
inductive Reaches (config : Config) : History → Workspace → Prop where
  /-- Nothing has happened to a new workspace. -/
  | new : Reaches config [] (.new config)
  /-- A report on a document is asked for. -/
  | check {h : History} {w : Workspace} (document source : Text) :
      Reaches config h w → Reaches config h (w.check document source).1
  /-- A document is forgotten. -/
  | forget {h : History} {w : Workspace} (document : Text) :
      Reaches config h w → Reaches config h (w.forget document)
  /-- A line is scheduled. -/
  | scheduleLine {h : History} {w : Workspace} (document : Text) (line now : Nat) :
      Reaches config h w →
        Reaches config (.scheduled ⟨document, line⟩ now :: h) (w.scheduleLine document line now)
  /-- A task is cancelled. -/
  | cancel {h : History} {w : Workspace} {number : Nat} :
      Reaches config h w → number < w.schedule.issued →
        Reaches config (.cancelled number :: h) (w.cancel number)
  /-- The documents of the lines that have come due are asked for. -/
  | dueDocuments {h : History} {w : Workspace} (now : Nat) :
      Reaches config h w →
        Reaches config (.taken now (w.schedule.takeDue now).2 :: h) (w.dueDocuments now).1

variable {config : Config} {h : History} {w : Workspace} {early late now : Nat}

/-- Checking a document leaves the schedule as it is. -/
theorem schedule_check (document source : Text) :
    (w.check document source).1.schedule = w.schedule := by
  rw [check]
  split <;> rfl

/-- A workspace's schedule is the one that the history leads to. -/
theorem Reaches.schedule (hreach : Reaches config h w) :
    Schedule.Reaches config.settings.validationDelay h w.schedule := by
  induction hreach with
  | new => exact .new
  | check document source _ ih => rwa [schedule_check]
  | forget document _ ih => exact ih
  | scheduleLine document line now _ ih => exact .add _ now ih
  | cancel _ hlt ih => exact .cancel ih hlt
  | dueDocuments now _ ih => exact .takeDue now ih

/-- The documents of the tasks that have come due are given, each at its first place. -/
theorem dueDocuments_snd : (w.dueDocuments now).2
    = ((w.schedule.due now).map (·.key.document)).eraseDups := by
  rw [dueDocuments, Schedule.takeDue_snd, List.map_map]
  rfl

/-- A document is given exactly if a line of it is taken out. -/
theorem mem_dueDocuments {document : Text} : document ∈ (w.dueDocuments now).2
    ↔ ∃ key ∈ (w.schedule.takeDue now).2, key.document = document := by
  rw [dueDocuments, List.mem_eraseDups, List.mem_map]

/-- Asking early does not matter. A schedule delivers early and later, one behind the other, the
lines that it delivers later when it is not asked early, and is the same afterwards. A workspace
gives each document that has a live task which has come due, once and in the order of the times of
their earliest tasks and of the documents; and the documents that it gives early or later are those
that it gives later when it is not asked early. -/
theorem polling_early_delivers_the_same {delay : Nat} {past : History} {s : Schedule}
    (hs : Schedule.Reaches delay past s) (hw : Reaches config h w) (hle : early ≤ late) :
    ((s.takeDue early).2 ++ ((s.takeDue early).1.takeDue late).2 = (s.takeDue late).2
        ∧ ((s.takeDue early).1.takeDue late).1 = (s.takeDue late).1)
      ∧ (∃ firsts : List Task, (w.dueDocuments late).2 = firsts.map (·.key.document)
        ∧ (∀ t ∈ firsts, Live config.settings.validationDelay h t ∧ ∀ u,
            Live config.settings.validationDelay h u → u.key.document = t.key.document →
              t.due ≤ u.due)
        ∧ firsts.Pairwise fun t u =>
            toLex (t.due, t.key.document) < toLex (u.due, u.key.document))
      ∧ (w.dueDocuments late).2.Nodup
      ∧ (∀ document, document ∈ (w.dueDocuments late).2
        ↔ ∃ t, Live config.settings.validationDelay h t ∧ t.key.document = document ∧ t.due ≤ late)
      ∧ ∀ document, document ∈ (w.dueDocuments early).2
            ∨ document ∈ ((w.dueDocuments early).1.dueDocuments late).2
          ↔ document ∈ (w.dueDocuments late).2 := by
  have hr := hw.schedule.records
  have hdue : ∀ t, t ∈ w.schedule.due late
      ↔ Live config.settings.validationDelay h t ∧ t.due ≤ late := by
    intro t
    rw [Schedule.mem_due, hr.waiting_iff]
  obtain ⟨firsts, hsub, hdocuments, hdistinct, hleast⟩ := Task.exists_firsts (hr.pairwise_due late)
  rw [← dueDocuments_snd] at hdocuments
  refine ⟨⟨hs.takeDue_append hle, s.takeDue_takeDue hle⟩, ⟨firsts, hdocuments, ?_, ?_⟩, ?_, ?_, ?_⟩
  · intro t ht
    obtain ⟨hlive, htlate⟩ := (hdue t).mp (hsub.subset ht)
    refine ⟨hlive, fun u hu hsame => ?_⟩
    by_cases hulate : u.due ≤ late
    · exact Task.due_le_of_rank_le (hleast t ht u ((hdue u).mpr ⟨hu, hulate⟩) hsame)
    · exact Nat.le_trans htlate (Nat.le_of_lt (Nat.not_le.mp hulate))
  · refine (((hr.pairwise_due late).sublist hsub).and hdistinct).imp fun {t u} ⟨hlt, hne⟩ => ?_
    exact Task.due_document_lt hlt hne
  · rw [hdocuments]
    exact List.pairwise_map.mpr hdistinct
  · intro document
    rw [dueDocuments_snd, List.mem_eraseDups, List.mem_map]
    constructor
    · rintro ⟨t, ht, hsame⟩
      exact ⟨t, ((hdue t).mp ht).1, hsame, ((hdue t).mp ht).2⟩
    · rintro ⟨t, hlive, hsame, hlate⟩
      exact ⟨t, (hdue t).mpr ⟨hlive, hlate⟩, hsame⟩
  · intro document
    have hafter : (w.dueDocuments early).1.schedule = (w.schedule.takeDue early).1 := rfl
    rw [mem_dueDocuments, mem_dueDocuments, mem_dueDocuments, hafter,
      ← hw.schedule.takeDue_append hle]
    simp only [List.mem_append, or_and_right, exists_or]

/-- Lines of three documents are scheduled, and the task of the first one is cancelled. -/
def polledHistory : History :=
  [.cancelled 0, .scheduled ⟨"a".toList, 1⟩ 100, .scheduled ⟨"b".toList, 1⟩ 100,
    .scheduled ⟨"a".toList, 3⟩ 300, .scheduled ⟨"c".toList, 2⟩ 50]

/-- The workspace after that. -/
def polledWorkspace : Workspace :=
  let later := ((new .default).scheduleLine "c" 2 50).scheduleLine "a" 3 300
  ((later.scheduleLine "b" 1 100).scheduleLine "a" 1 100).cancel 0

/-- Two lines come due at the same time, and a third one later. Asking between the two times splits
what is delivered; the document of the third line is then given twice. -/
theorem polling_early_delivers_the_same_in_polledWorkspace :
    Reaches .default polledHistory polledWorkspace ∧ 650 ≤ 900
      ∧ (polledWorkspace.schedule.takeDue 650).2
          ++ ((polledWorkspace.schedule.takeDue 650).1.takeDue 900).2
        = [⟨"a".toList, 1⟩, ⟨"b".toList, 1⟩, ⟨"a".toList, 3⟩]
      ∧ (polledWorkspace.dueDocuments 900).2 = ["a".toList, "b".toList]
      ∧ "b".toList ∉ ((polledWorkspace.dueDocuments 650).1.dueDocuments 900).2
      ∧ ∀ document, document ∈ (polledWorkspace.dueDocuments 650).2
            ∨ document ∈ ((polledWorkspace.dueDocuments 650).1.dueDocuments 900).2
          ↔ document ∈ (polledWorkspace.dueDocuments 900).2 := by
  have hreach : Reaches .default polledHistory polledWorkspace :=
    .cancel (.scheduleLine _ _ _ (.scheduleLine _ _ _ (.scheduleLine _ _ _ (.scheduleLine _ _ _
      .new)))) (by decide)
  -- The tasks that wait are in order already.
  have hlate : (polledWorkspace.schedule.takeDue 900).2
      = [⟨"a".toList, 1⟩, ⟨"b".toList, 1⟩, ⟨"a".toList, 3⟩] := by
    rw [Schedule.takeDue_snd, Schedule.due, List.mergeSort_of_pairwise (by decide)]
    decide
  obtain ⟨⟨happend, -⟩, -, -, -, hdocuments⟩ :=
    polling_early_delivers_the_same hreach.schedule hreach (by decide : 650 ≤ 900)
  refine ⟨hreach, by decide, happend.trans hlate, ?_, ?_, hdocuments⟩
  · rw [dueDocuments, hlate]
    decide
  · rw [dueDocuments_snd, Schedule.due, List.mergeSort_of_pairwise (by decide)]
    decide

end Workspace

end Frontmatter
