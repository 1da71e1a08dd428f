import Frontmatter.Json.Printer
import Frontmatter.Workspace
import Frontmatter.Yaml.Printer

/-! # Output

What the commands print: records, which are written as JSON, and lines of text. -/

namespace Frontmatter

/-! ## Records -/

/-- A position as a record. -/
def Position.toValue (p : Position) : Value :=
  .object [("line", .int p.line), ("column", .int p.column)]

/-- The name of a kind of lines. -/
def LineKind.name : LineKind → Text
  | .field => "field"
  | .placeholder => "placeholder"

/-- A context as a record; the value is left out if there is none. -/
def Context.toValue (c : Context) : Value :=
  .object <|
    [("path".toList, Value.text c.path), ("line".toList, .int c.line),
        ("indent".toList, .int c.indent)]
      ++ (c.value.map fun v => ("value".toList, v)).toList
      ++ [("kind".toList, .text c.kind.name), ("key_line".toList, .int c.keyLine),
        ("column".toList, .int c.column), ("line_len".toList, .int c.lineLength),
        ("query".toList, .text c.query), ("query_start".toList, .int c.queryStart)]

/-- A suggestion as a record. -/
def Suggestion.toValue (x : Suggestion) : Value :=
  .object <|
    [("rule_id".toList, Value.text x.ruleId), ("key".toList, .text x.key),
        ("display".toList, .text x.display), ("insert_text".toList, .text x.insertText)]
      ++ (x.description.map fun s => ("description".toList, Value.text s)).toList

/-- An offer as a record. -/
def Offer.toValue (o : Offer) : Value :=
  .object
    [("context", o.context.toValue), ("rule_id", .text o.ruleId), ("mode", .text o.mode.name),
      ("query", .text o.query), ("items", .list (o.suggestions.map Suggestion.toValue))]

/-- An insertion as a record. -/
def Insertion.toValue (i : Insertion) : Value :=
  .object
    [("start", i.start.toValue), ("end", i.stop.toValue), ("text", .text i.text),
      ("cursor", i.cursor.toValue), ("keys", .list (i.keys.map .text))]

/-- A diagnostic as a record. -/
def Diagnostic.toValue (d : Diagnostic) : Value :=
  .object
    [("line", .int d.check.line), ("path", .text d.check.path), ("rule_id", .text d.check.ruleId),
      ("value", .text d.check.value), ("start", .int d.check.start), ("end", .int d.check.stop),
      ("error", .text d.why.name), ("suggestion", .text d.why.advice)]

/-- A report as a record. -/
def Report.toValue (r : Report) : Value :=
  .object
    [("document", .text r.document), ("checked", .int r.checked),
      ("diagnostics", .list (r.diagnostics.map Diagnostic.toValue))]

/-! ## Lines -/

/-- A line of text with its line break. -/
def textLine (parts : List Text) : Text :=
  parts.flatten ++ ['\n']

/-- The name of a kind of lines at the head of a text. -/
def LineKind.title : LineKind → Text
  | .field => "Field"
  | .placeholder => "Placeholder"

/-- A context in lines of text. -/
def Context.show (c : Context) : Text :=
  textLine ["Path:      ", c.path]
    ++ textLine ["Depth:     ", Text.ofNat c.depth]
    ++ textLine ["Line kind: ", c.kind.title]
    ++ textLine ["Indent:    ", Text.ofNat c.indent]
    ++ textLine ["Key line:  ", Text.ofNat (c.keyLine + 1)]
    ++ (if c.query = [] then [] else textLine ["Query:     ", c.query])
    ++ (match c.value with
      | some v => textLine ["Value:     ", Text.trimEnd (Yaml.print v)]
      | none => [])

/-- A suggestion in a line of text. -/
def Suggestion.show (x : Suggestion) : Text :=
  textLine ["  ", Text.padRight 20 x.key, " ", Selection.new.render x]

/-- An offer in lines of text. -/
def Offer.show (o : Offer) : Text :=
  textLine
      ["Suggestions for ", o.context.path, " (", Text.ofNat o.suggestions.length, "):"]
    ++ (o.suggestions.map Suggestion.show).flatten

/-- A position counted from one. -/
def Position.show (p : Position) : Text :=
  Text.ofNat (p.line + 1) ++ ':' :: Text.ofNat (p.column + 1)

/-- An insertion in a line of text. -/
def Insertion.show (i : Insertion) : Text :=
  textLine
    ["Insert ", Rejection.listing i.keys, " at ", i.start.show, "-", i.stop.show, ", cursor ",
      i.cursor.show]

/-- A diagnostic of a document in a line of text. -/
def Diagnostic.show (document : Text) (d : Diagnostic) : Text :=
  textLine
    [document, ":", Text.ofNat (d.check.line + 1), ":", Text.ofNat (d.check.start + 1), ": ",
      d.why.label, " '", d.check.value, "' at ", d.check.path, " (", d.why.advice, ")"]

/-- Reports on a number of files in lines of text. -/
def Report.showAll (reports : List Report) (files : Nat) : Text :=
  let checked := (reports.map (·.checked)).foldl (· + ·) 0
  let invalid := (reports.map (·.diagnostics.length)).foldl (· + ·) 0
  (reports.flatMap fun r => r.diagnostics.map (Diagnostic.show r.document)).flatten
    ++ textLine []
    ++ textLine
      [Text.ofNat files, " file(s), ", Text.ofNat checked, " value(s) checked, ",
        Text.ofNat invalid, " invalid"]

/-- A rule in a line of text. -/
def Rule.show (r : Rule) : Text :=
  textLine
    [Text.padRight 30 r.declaredPath, " ", Text.padRight 8 r.source.name, " ",
      Text.padLeft 3 (Text.ofNat r.candidates.length), " options",
      if r.multiSelect then " [multi]" else "", if r.enabled then "" else " [disabled]"]

end Frontmatter
