import Frontmatter.Workspace

/-! # When a document is reported on again

A workspace is asked for reports on documents and told to forget them. `after` is the workspace that
a list of such calls leads to, the latest first, and `answers` is what they were answered.
`checker_text?_after` says what is remembered of each document, and `check_after` says from the
calls alone when the next one is answered. All other results follow from it. -/

namespace Frontmatter

namespace Checker

variable (c : Checker) (config : Config) (document source other : Text)

/-- Nothing is remembered of a forgotten document, and the others keep their texts. -/
theorem text?_forget : (c.forget document).text? other
    = if other = document then none else c.text? other := by
  rw [text?, text?, forget]
  induction c.seen with
  | nil => simp
  | cons entry seen ih =>
      by_cases hentry : entry.1 = document
      · -- The entry is dropped, and it is not the other document's unless the two are the same.
        rw [List.filter_cons_of_neg (by simpa using hentry), ih, List.lookup_cons]
        by_cases hother : other = document
        · rw [if_pos hother, if_pos hother]
        · have hne : (other == entry.1) = false := by simpa [hentry] using hother
          rw [if_neg hother, if_neg hother, hne]
      · rw [List.filter_cons_of_pos (by simpa using hentry), List.lookup_cons, List.lookup_cons, ih]
        cases heq : other == entry.1 with
        | false => rfl
        | true =>
            have hother : other ≠ document := fun h => hentry (eq_of_beq heq ▸ h)
            rw [if_neg hother, if_neg hother]

/-- The text of a checked document is remembered, and the others keep theirs. -/
theorem text?_check : (c.check config document source).1.text? other
    = if other = document then some source else c.text? other := by
  rw [check]
  by_cases hsame : c.text? document = some source
  · rw [if_pos hsame]
    by_cases hother : other = document
    · rw [if_pos hother, hother, hsame]
    · rw [if_neg hother]
  · rw [if_neg hsame]
    change List.lookup other ((document, source) :: (c.forget document).seen) = _
    rw [List.lookup_cons]
    by_cases hother : other = document
    · rw [if_pos hother, hother, beq_self_eq_true]
    · rw [if_neg hother, beq_eq_false_iff_ne.mpr hother]
      exact (text?_forget c document other).trans (if_neg hother)

/-- A document is reported on unless its text is the remembered one. -/
theorem report?_check : (c.check config document source).2
    = if c.text? document = some source then none else some (config.report document source) := by
  rw [check]
  split <;> rfl

/-- Each report counts as one pass. -/
theorem passes_check : (c.check config document source).1.passes
    = c.passes + (c.check config document source).2.toList.length := by
  rw [check]
  split <;> rfl

end Checker

namespace Workspace

/-- What can be asked of a workspace about a document. -/
inductive Call where
  /-- A report on a document is asked for. -/
  | check (document source : Text)
  /-- A document is forgotten. -/
  | forget (document : Text)
  deriving DecidableEq, Repr

namespace Call

/-- The document that a call is about. -/
def document : Call → Text
  | check document _ => document
  | forget document => document

/-- The text on which a call asks for a report. -/
def source? : Call → Option Text
  | check _ source => some source
  | forget _ => none

/-- The workspace after a call, and the answer to it. -/
def run (w : Workspace) : Call → Workspace × Option Report
  | check document source => w.check document source
  | forget document => (w.forget document, none)

end Call

/-- The workspace that calls lead to from a new one. The latest call comes first. -/
def after (config : Config) : List Call → Workspace
  | [] => new config
  | call :: calls => (call.run (after config calls)).1

/-- Calls with their answers. -/
def answers (config : Config) : List Call → List (Call × Option Report)
  | [] => []
  | call :: calls => (call, (call.run (after config calls)).2) :: answers config calls

/-- The report that was last made on a document. -/
def lastReport? (config : Config) (document : Text) (calls : List Call) : Option Report :=
  (answers config calls).findSome? fun a => if a.1.document = document then a.2 else none

variable {config : Config} {calls : List Call} {document source : Text}

/-- No call changes the configuration. -/
theorem config_after : (after config calls).config = config := by
  induction calls with
  | nil => rfl
  | cons call calls ih =>
      cases call with
      | forget document => exact ih
      | check document source =>
          rw [after, Call.run, check]
          split <;> exact ih

/-- A workspace remembers of a document the text of the last call, if that asked for a report. -/
theorem checker_text?_after (hvalidate : config.settings.validate = true) :
    (after config calls).checker.text? document
      = (calls.find? (·.document = document)).bind Call.source? := by
  induction calls with
  | nil => rfl
  | cons call calls ih =>
      -- A call changes what is remembered of its own document, also when it is not answered.
      have hcall : (after config (call :: calls)).checker.text? document
          = if document = call.document then call.source?
            else (after config calls).checker.text? document := by
        cases call with
        | forget other => exact Checker.text?_forget _ _ _
        | check other source =>
            rw [after, Call.run, check, config_after, if_pos hvalidate]
            exact Checker.text?_check _ _ _ _ _
      rw [hcall, ih]
      by_cases hdocument : call.document = document
      · rw [List.find?_cons_of_pos (by simpa using hdocument), if_pos hdocument.symm]
        rfl
      · rw [List.find?_cons_of_neg (by simpa using hdocument), if_neg (Ne.symm hdocument)]

/-- The last call about a document asked for a report on a text exactly if the document's text then
is that. -/
theorem bind_source?_eq_some_iff :
    (calls.find? (·.document = document)).bind Call.source? = some source
      ↔ calls.find? (·.document = document) = some (.check document source) := by
  constructor
  · intro hbind
    obtain ⟨call, hcall, hsource⟩ := Option.bind_eq_some_iff.mp hbind
    have hdocument : call.document = document := by simpa using List.find?_some hcall
    cases call with
    | check other text =>
        obtain rfl : other = document := hdocument
        obtain rfl : text = source := Option.some.inj hsource
        exact hcall
    | forget other => exact absurd hsource (by simp [Call.source?])
  · intro hcall
    rw [hcall]
    rfl

/-- There is a report on a document unless values are not checked or the last call about it asked
for a report on the same text. -/
theorem check_after : ((after config calls).check document source).2
    = if config.settings.validate = false
        ∨ calls.find? (·.document = document) = some (.check document source)
      then none else some (config.report document source) := by
  rw [check, config_after]
  cases hvalidate : config.settings.validate with
  | false => simp
  | true =>
      have hreport := Checker.report?_check (after config calls).checker config document source
      simp only [checker_text?_after hvalidate, bind_source?_eq_some_iff] at hreport
      simpa using hreport

/-- A new workspace reports on any document, unless it is told not to. -/
theorem check_new : ((new config).check document source).2
    = if config.settings.validate = false then none else some (config.report document source) := by
  rw [show new config = after config [] from rfl, check_after]
  simp

/-- The number of passes is that of the reports that were made. -/
theorem passes_after : (after config calls).passes
    = (answers config calls).countP (·.2.isSome) := by
  induction calls with
  | nil => rfl
  | cons call calls ih =>
      have hcall : (after config (call :: calls)).passes = (after config calls).passes
          + (call.run (after config calls)).2.toList.length := by
        cases call with
        | forget document => rfl
        | check document source =>
            rw [after, Call.run, check]
            split
            · exact Checker.passes_check _ _ _ _
            · rfl
      rw [hcall, ih, answers, List.countP_cons]
      cases (call.run (after config calls)).2 <;> rfl

/-- The answers to the calls about a document do not depend on the others. -/
theorem filter_answers : (answers config calls).filter (·.1.document = document)
    = answers config (calls.filter (·.document = document)) := by
  induction calls with
  | nil => rfl
  | cons call calls ih =>
      by_cases hdocument : call.document = document
      · -- The answer depends on the last call about the document, which is kept.
        have hanswer : (call.run (after config calls)).2
            = (call.run (after config (calls.filter (·.document = document)))).2 := by
          cases call with
          | forget other => rfl
          | check other source =>
              obtain rfl : other = document := hdocument
              have hfind : (calls.filter (·.document = other)).find? (·.document = other)
                  = calls.find? (·.document = other) := by
                simp [List.find?_filter]
              rw [Call.run, Call.run, check_after, check_after, hfind]
        rw [answers, List.filter_cons_of_pos (by simpa using hdocument),
          List.filter_cons_of_pos (by simpa using hdocument), answers, ih, hanswer]
      · rw [answers, List.filter_cons_of_neg (by simpa using hdocument),
          List.filter_cons_of_neg (by simpa using hdocument), ih]

/-- The last report on a document is the answer to the latest call about it that has one. -/
theorem lastReport?_cons (call : Call) : lastReport? config document (call :: calls)
    = (if call.document = document then (call.run (after config calls)).2 else none).or
        (lastReport? config document calls) := by
  rw [lastReport?, lastReport?, answers, List.findSome?_cons]
  cases (if call.document = document then (call.run (after config calls)).2 else none) <;> rfl

/-- Once a report on a text was asked for, the last report is the one on that text, as long as the
document was not mentioned again. -/
theorem lastReport?_of_find? (hvalidate : config.settings.validate = true)
    (hfind : calls.find? (·.document = document) = some (.check document source)) :
    lastReport? config document calls = some (config.report document source) := by
  induction calls with
  | nil => exact absurd hfind (by simp)
  | cons call calls ih =>
      rw [lastReport?_cons]
      by_cases hdocument : call.document = document
      · rw [List.find?_cons_of_pos (by simpa using hdocument)] at hfind
        obtain rfl := Option.some.inj hfind
        rw [if_pos hdocument, Call.run, check_after]
        -- The call is answered, or the text is the same as at the call before it.
        by_cases hsame : calls.find? (·.document = document) = some (.check document source)
        · rw [if_pos (.inr hsame), ih hsame]
          rfl
        · rw [if_neg (by simp [hvalidate, hsame])]
          rfl
      · rw [List.find?_cons_of_neg (by simpa using hdocument)] at hfind
        rw [if_neg hdocument, ih hfind]
        rfl

/-- Where nothing is to be checked, nothing is reported. -/
theorem lastReport?_of_not_validate (hvalidate : config.settings.validate = false) :
    lastReport? config document calls = none := by
  induction calls with
  | nil => rfl
  | cons call calls ih =>
      rw [lastReport?_cons, ih]
      cases call with
      | forget other => simp [Call.run]
      | check other source => simp [Call.run, check_after, hvalidate]

/-- After a report on a text was asked for, the last report is the one on that text, whether it was
made then or before. -/
theorem lastReport?_check : lastReport? config document (.check document source :: calls)
    = ((new config).check document source).2 := by
  rw [check_new]
  cases hvalidate : config.settings.validate with
  | false => exact lastReport?_of_not_validate hvalidate
  | true =>
      rw [if_neg (by decide)]
      apply lastReport?_of_find? hvalidate
      rw [List.find?_cons_of_pos (by simp [Call.document])]

/-- Whatever a workspace was asked for, there is no report on a document exactly when values are not
checked or the last call about the document asked for a report on the same text. A report is the one
that a new workspace makes. The reports are counted. What was asked about other documents does not
matter. Once a report on a text is asked for, the last one made on the document is a new workspace's
report on that text, also when no other is made. -/
theorem skipped_report_is_current (config : Config) (calls : List Call) (document source : Text) :
    (((after config calls).check document source).2 = none ↔ config.settings.validate = false
        ∨ calls.find? (·.document = document) = some (.check document source))
      ∧ (((after config calls).check document source).2 = none
        ∨ ((after config calls).check document source).2
            = ((new config).check document source).2)
      ∧ (after config calls).passes = (answers config calls).countP (·.2.isSome)
      ∧ (answers config calls).filter (·.1.document = document)
          = answers config (calls.filter (·.document = document))
      ∧ lastReport? config document (.check document source :: calls)
          = ((new config).check document source).2 := by
  refine ⟨?_, ?_, passes_after, filter_answers, lastReport?_check⟩
  · rw [check_after]
    split
    case isTrue hskipped => exact iff_of_true rfl hskipped
    case isFalse hasked => exact iff_of_false (Option.some_ne_none _) hasked
  · rw [check_after, check_new]
    by_cases hskipped : config.settings.validate = false
        ∨ calls.find? (·.document = document) = some (.check document source)
    · exact .inl (if_pos hskipped)
    · have hvalidate : ¬ config.settings.validate = false := fun h => hskipped (.inl h)
      rw [if_neg hskipped, if_neg hvalidate]
      exact .inr rfl

end Workspace

end Frontmatter
