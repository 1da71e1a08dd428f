import Frontmatter.Children
import Frontmatter.Config.Basic
import Frontmatter.Text.Lowercase

/-! # Suggestions

The candidate keys that are offered to someone who edits a block. `Rule.suggestions` lists what a
rule offers besides the keys that are there already, `Rule.suggestionsFor` keeps what the typed
query is about, and `Config.suggest?` finds the rule for a cursor's place. -/

namespace Frontmatter

/-- A key that is offered. -/
structure Suggestion where
  /-- The rule that offers it. -/
  ruleId : Text
  /-- The key. -/
  key : Text
  /-- The text by which it is shown. -/
  display : Text
  /-- The text that stands for it in a block. -/
  insertText : Text
  /-- What the key means. -/
  description : Option Text
  deriving DecidableEq, Repr

/-- The text that a key is written as: the key, a colon and a space. -/
def keyText (key : Text) : Text :=
  key ++ ": ".toList

/-- The text by which a candidate is shown: its icon and its key, and behind a dash its description.
Empty parts are left out, and the key stands when nothing else would. -/
def Candidate.display (c : Candidate) (flags : DisplayFlags) : Text :=
  let icon := if flags.icon then (c.icon.filter (· ≠ [])).toList else []
  let key := if flags.key then [c.key] else []
  let head := Text.join [' '] (icon ++ key)
  match c.description.filter fun d => flags.description && d ≠ [] with
  | some description => if head = [] then description else head ++ " - ".toList ++ description
  | none => if head = [] then c.key else head

namespace Suggestion

/-- Whether a query occurs in the key or in the description of a suggestion. -/
def isAbout (s : Suggestion) (query : Text) (caseSensitive : Bool) : Bool :=
  let holds := fun text : Text =>
    if caseSensitive then Text.occursIn query text
    else Text.occursIn (Text.lowercase query) (Text.lowercase text)
  holds s.key || s.description.any holds

end Suggestion

namespace Rule

/-- The suggestion of a candidate. -/
def suggestion (r : Rule) (c : Candidate) : Suggestion :=
  { ruleId := r.id, key := c.key, display := c.display r.display, insertText := keyText c.key,
    description := c.description }

/-- The suggestions of the candidates that a rule lists, besides those with an existing key. -/
def listedSuggestions (r : Rule) (existing : List Text) : List Suggestion :=
  (r.candidates.filter fun c => !existing.contains c.key).map r.suggestion

/-- The suggestions of a rule besides those with an existing key. Only listed candidates are at
hand. -/
def suggestions (r : Rule) (existing : List Text) : List Suggestion :=
  match r.source with
  | .inline => r.listedSuggestions existing
  | _ => []

/-- The suggestions of a rule at a context: those that the query is about, if there is a query and
the context is as deep as the rule, and as many as the settings allow. -/
def suggestionsFor (r : Rule) (c : Context) (existing : List Text) (s : Settings) :
    List Suggestion :=
  let all := r.suggestions existing
  let query := Text.trim c.query
  let kept :=
    if c.depth = r.depth ∧ query ≠ [] then all.filter fun x => x.isAbout query s.caseSensitive
    else all
  kept.take s.maxSuggestions

end Rule

/-- How suggestions are picked. -/
inductive SelectionMode where
  /-- One at a time. -/
  | single
  /-- Several together. -/
  | multi
  deriving DecidableEq, Repr

namespace SelectionMode

/-- The name of a mode. -/
def name : SelectionMode → Text
  | .single => "single"
  | .multi => "multi"

/-- The mode with a name. -/
def ofName? (s : Text) : Option SelectionMode :=
  [SelectionMode.single, .multi].find? fun m => m.name = s

/-- The mode of a rule. -/
def ofRule (r : Rule) : SelectionMode :=
  if r.multiSelect then .multi else .single

end SelectionMode

/-- What is offered at a cursor. -/
structure Offer where
  /-- Where the cursor stands. -/
  context : Context
  /-- The rule that makes the offer. -/
  ruleId : Text
  /-- How suggestions are picked. -/
  mode : SelectionMode
  /-- What is offered. -/
  suggestions : List Suggestion

/-- The text typed in front of the cursor. -/
def Offer.query (o : Offer) : Text :=
  o.context.query

namespace Config

/-- The block of a document. -/
def block? (c : Config) (source : Text) : Option Block :=
  Block.parse? source c.settings.delimiter

/-- The context of a cursor. -/
def context? (c : Config) (source : Text) (line column : Nat) : Option Context :=
  (c.block? source).bind fun b => b.resolve? line column

/-- The rule that makes offers at a context: it governs the path and is enabled, its own path is as
deep, and the query is long enough. -/
def offeringRule? (c : Config) (x : Context) : Option Rule :=
  (Rule.enabled? c.rules x.path).filter fun r =>
    x.depth == r.depth && c.settings.minQueryLength ≤ x.query.length

/-- What is offered at a cursor. -/
def suggest? (c : Config) (source : Text) (line column : Nat) : Option Offer :=
  (c.block? source).bind fun b =>
    (b.resolve? line column).bind fun x =>
      (c.offeringRule? x).map fun r =>
        { context := x, ruleId := r.id, mode := .ofRule r,
          suggestions := r.suggestionsFor x (b.existingKeys x) c.settings }

end Config

end Frontmatter
