import Frontmatter.Diagnosis
import Frontmatter.Schedule
import Frontmatter.Selection

/-! # Workspaces

A workspace is what an editor keeps while documents are edited under one configuration: what each
document looked like at its last report, and the lines that wait to be checked again. -/

namespace Frontmatter

/-- A configuration in use. -/
structure Workspace where
  /-- The configuration. -/
  config : Config
  /-- What documents looked like at their last reports. -/
  checker : Checker
  /-- The lines that wait for their checks. -/
  schedule : Schedule
  deriving DecidableEq, Repr

namespace Workspace

/-- The workspace of a configuration before anything is edited. -/
def new (config : Config) : Workspace :=
  ⟨config, .new, .new config.settings.validationDelay⟩

/-- Reports on a document, unless values are not checked or its text has not changed. -/
def check (w : Workspace) (document source : Text) : Workspace × Option Report :=
  if w.config.settings.validate then
    let outcome := w.checker.check w.config document source
    ({ w with checker := outcome.1 }, outcome.2)
  else (w, none)

/-- Forgets what a document looked like. -/
def forget (w : Workspace) (document : Text) : Workspace :=
  { w with checker := w.checker.forget document }

/-- How many reports were made. -/
def passes (w : Workspace) : Nat :=
  w.checker.passes

/-- Schedules the check of a line. -/
def scheduleLine (w : Workspace) (document : Text) (line now : Nat) : Workspace :=
  { w with schedule := w.schedule.add ⟨document, line⟩ now }

/-- Cancels a scheduled check. -/
def cancel (w : Workspace) (number : Nat) : Workspace :=
  { w with schedule := w.schedule.cancel number }

/-- Takes out the lines that have come due, and gives each of their documents once, earliest
first. -/
def dueDocuments (w : Workspace) (now : Nat) : Workspace × List Text :=
  let outcome := w.schedule.takeDue now
  ({ w with schedule := outcome.1 }, (outcome.2.map (·.document)).eraseDups)

/-- The selection bound to the place of an offer. -/
def bind (s : Selection) (document : Text) (offer : Offer) : Selection :=
  s.bind (.ofContext document offer.context) offer.mode

end Workspace

end Frontmatter
