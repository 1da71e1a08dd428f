import Frontmatter.CommandLine.Arguments
import Frontmatter.CommandLine.Output
import Frontmatter.Config.File
import Frontmatter.Glob

/-! # Running commands

A command reads its documents from a storage and ends with an `Outcome`: what it prints, the error
that stopped it if one did, and its exit code. -/

namespace Frontmatter

/-- How a call ends. -/
structure Outcome where
  /-- The exit code. -/
  exitCode : Nat
  /-- What is printed. -/
  output : Text
  /-- The error that stopped the command. -/
  error : Option Text
  deriving DecidableEq, Repr

/-- What stops a command. -/
inductive CommandError where
  /-- The configuration file cannot be loaded. -/
  | config (path : Text)
  /-- A document cannot be read. -/
  | unreadable (path : Text)
  /-- The answer cannot be written as JSON. -/
  | unwritable (why : Json.Unwritable)
  /-- Nothing is offered at the cursor. -/
  | noOffer (file : Text) (line column : Nat)
  /-- Several keys are picked where only one can be. -/
  | singleSelect (path : Path) (count : Nat)
  /-- A picked key is not offered. -/
  | notOffered (key : Text)
  /-- The pattern for file names is wrong. -/
  | names (pattern : Text)
  deriving DecidableEq, Repr

/-- The text of an error. -/
def CommandError.message : CommandError → Text
  | .config path => "Failed to load config ".toList ++ path
  | .unreadable path => "Failed to read ".toList ++ path
  | .unwritable why => why.message
  | .noOffer file line column =>
    "No suggestions at ".toList ++ file ++ ':' :: Text.ofNat line ++ ':' :: Text.ofNat column
  | .singleSelect path count =>
    '\'' :: path ++ "' is single-select; pass one --select (got ".toList ++ Text.ofNat count
      ++ [')']
  | .notOffered key => '\'' :: key ++ "' is not among the suggestions".toList
  | .names pattern => "Invalid include pattern '".toList ++ pattern ++ ['\'']

namespace Outcome

/-- A call that prints a text and is done. -/
def done (output : Text) : Outcome := ⟨0, output, none⟩

/-- A call that is stopped by an error before it prints anything. -/
def failed (e : CommandError) : Outcome := ⟨1, [], some e.message⟩

/-- A call that prints a record. -/
def json (v : Value) : Except CommandError Text :=
  match Json.pretty v with
  | .ok text => .ok (text ++ ['\n'])
  | .error why => .error (.unwritable why)

/-- A call that prints what a command answers. -/
def ofExcept : Except CommandError Text → Outcome
  | .ok output => done output
  | .error e => failed e

end Outcome

/-! ## Contexts -/

/-- The answer of the command that shows a context. -/
def answerContext (format : OutputFormat) (c : Option Context) : Except CommandError Text :=
  match format, c with
  | .json, some c => Outcome.json c.toValue
  | .json, none => Outcome.json .null
  | .text, some c => .ok c.show
  | .text, none => .ok (textLine ["Not inside a frontmatter field"])

/-! ## Offers -/

/-- The answer of the command that shows an offer. -/
def answerOffer (format : OutputFormat) (o : Option Offer) : Except CommandError Text :=
  match format, o with
  | .json, some o => Outcome.json o.toValue
  | .json, none => Outcome.json .null
  | .text, some o =>
    .ok (if o.suggestions = [] then textLine ["No suggestions found"] else o.show)
  | .text, none => .ok (textLine ["No suggestions found"])

/-- Confirms keys one after the other in a selection, and gives the selection afterwards with the
insertions made; every key must be offered. -/
def confirmAll (o : Offer) (autoIndent : Bool) (s : Selection) :
    List Text → Except CommandError (Selection × List Insertion)
  | [] => .ok (s, [])
  | key :: keys =>
    if o.suggestions.any (·.key = key) then
      let confirmed := s.confirm key o.context autoIndent
      (confirmAll o autoIndent confirmed.1 keys).map fun r => (r.1, confirmed.2.toList ++ r.2)
    else .error (.notOffered key)

/-- The insertions made by confirming keys of an offer and closing the selection. -/
def insertPicked (o : Offer) (document : Text) (autoIndent : Bool) (keys : List Text) :
    Except CommandError (List Insertion) :=
  if o.mode = .single ∧ 1 < keys.length then .error (.singleSelect o.context.path keys.length)
  else
    (confirmAll o autoIndent (Workspace.bind .new document o) keys).map fun r =>
      r.2 ++ (r.1.close o.context autoIndent).2.toList

/-- The answer of the command that inserts picked keys: the insertions, and the document after the
only one. -/
def answerInsertions (format : OutputFormat) (source : Text) (is : List Insertion) :
    Except CommandError Text :=
  match format with
  | .json => Outcome.json (.list (is.map Insertion.toValue))
  | .text =>
    let document := match is with
      | [i] => textLine [] ++ (i.applied? source).getD []
      | _ => []
    .ok ((is.map Insertion.show).flatten ++ document)

/-- The answer of the command about offers. -/
def answerComplete (config : Config) (format : OutputFormat) (file : Text) (line column : Nat)
    (picked : List Text) (source : Text) : Except CommandError Text :=
  let offer := config.suggest? source (line - 1) (column - 1)
  if picked = [] then answerOffer format offer
  else
    match offer with
    | none => .error (.noOffer file line column)
    | some o =>
      (insertPicked o file config.settings.autoIndent picked).bind (answerInsertions format source)

/-! ## Reports -/

/-- Reports on documents in their order; a document that comes again with the same text is
skipped. -/
def reportAll : Workspace → List (Text × Text) → List Report
  | _, [] => []
  | w, (document, source) :: rest =>
    let outcome := w.check document source
    outcome.2.toList ++ reportAll outcome.1 rest

/-- The outcome of the command that checks documents. -/
def answerReports (format : OutputFormat) (reports : List Report) (files : Nat) : Outcome :=
  let exitCode := if reports.all Report.isClean then 0 else 1
  match format with
  | .text => ⟨exitCode, Report.showAll reports files, none⟩
  | .json =>
    match Outcome.json (.list (reports.map Report.toValue)) with
    | .ok output => ⟨exitCode, output, none⟩
    | .error e => .failed e

/-! ## Rules -/

/-- The answer of the command that lists the rules. -/
def answerRules (format : OutputFormat) (rules : List Rule) : Except CommandError Text :=
  match format with
  | .json => Outcome.json (.list (rules.map Rule.toValue))
  | .text =>
    .ok (if rules = [] then textLine ["No rules configured"] else (rules.map Rule.show).flatten)

/-! ## Files -/

variable {m : Type → Type} [Monad m]

/-- How many directories may lie within one another. -/
def greatestNesting : Nat := 4096

/-- The files below a directory whose names fit a pattern, in the order of names; what lies in a
directory stands in that directory's place. -/
def filesBelow (storage : Storage m) (names : Glob) : Nat → Text → m (List Text)
  | 0, _ => return []
  | depth + 1, directory => do
    let sorted := (← storage.names directory).mergeSort fun a b => a ≤ b
    let found ← sorted.mapM fun name => do
      let path := Storage.join directory name
      match ← storage.kind? path with
      | some .file => return if names.matches? name then [path] else []
      | some .directory => filesBelow storage names depth path
      | none => return []
    return found.flatten

/-- The files that paths stand for: a file for itself, and a directory for the files below it. -/
def filesOf (storage : Storage m) (names : Glob) (paths : List Text) : m (List Text) := do
  let found ← paths.mapM fun path => do
    match ← storage.kind? path with
    | some .file => return [path]
    | some .directory => filesBelow storage names greatestNesting path
    | none => return []
  return found.flatten

/-- The texts of files, each with its path, or the first path that cannot be read. -/
def readAll (storage : Storage m) : List Text → m (Except Text (List (Text × Text)))
  | [] => return .ok []
  | path :: rest => do
    match ← storage.read? path with
    | none => return .error path
    | some source => return (← readAll storage rest).map ((path, source) :: ·)

/-- Runs the command that checks documents. -/
def runValidate (storage : Storage m) (config : Config) (format : OutputFormat) (paths : List Text)
    (names : Text) : m Outcome := do
  match Glob.parse? names with
  | none => return .failed (.names names)
  | some glob =>
    match ← readAll storage (← filesOf storage glob paths) with
    | .error path => return .failed (.unreadable path)
    | .ok files => return answerReports format (reportAll (.new config) files) files.length

/-- Runs a command about one document. -/
def withDocument (storage : Storage m) (file : Text) (answer : Text → Except CommandError Text) :
    m Outcome := do
  match ← storage.read? file with
  | none => return .failed (.unreadable file)
  | some source => return .ofExcept (answer source)

/-- Runs a command under a configuration. -/
def Command.run (storage : Storage m) (config : Config) (format : OutputFormat) :
    Command → m Outcome
  | .context file line column =>
    withDocument storage file fun source =>
      answerContext format (config.context? source (line - 1) (column - 1))
  | .complete file line column picked =>
    withDocument storage file (answerComplete config format file line column picked)
  | .validate paths names => runValidate storage config format paths names
  | .rules => return .ofExcept (answerRules format config.rules)

/-! ## Calls -/

/-- What is printed when help is asked for. -/
def usage : Text :=
  "Usage: fieldsense [--config <FILE>] [--format <text|json>] ".toList
    ++ "<context|complete|validate|rules> ...\n".toList

/-- What is printed when the version is asked for. -/
def versionLine : Text := "fieldsense 0.1.0\n"

/-- How a call ends that states no command. -/
def NoCommand.outcome : NoCommand → Outcome
  | .help => .done usage
  | .version => .done versionLine
  | .wrong => ⟨2, [], none⟩

/-- Runs a call. -/
def Invocation.run (storage : Storage m) (freshId : Nat → Text) (call : Invocation) :
    m Outcome := do
  match call.config with
  | some path =>
    match ← Config.load storage freshId path with
    | .ok config => call.command.run storage config call.format
    | .error _ => return .failed (.config path)
  | none =>
    let config ← Config.loadUsual storage freshId "."
    call.command.run storage config call.format

/-- Runs the call that arguments state, where the configuration file may be stated from
elsewhere. -/
def runArguments (storage : Storage m) (freshId : Nat → Text) (config : Option Text)
    (arguments : List Text) : m Outcome := do
  match Invocation.ofArguments config arguments with
  | .ok call => call.run storage freshId
  | .error why => return why.outcome

end Frontmatter
