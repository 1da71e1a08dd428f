import Frontmatter.Context

/-! # The children of a field

`Block.existingKeys` lists the keys that stand below a field already. The lines below the field's
own line are scanned first. Only when they hold no child is the value at the path consulted, which
covers records written in braces. -/

namespace Frontmatter

/-- The keys of the field lines one step below a parent, up to the first line that is not blank and
stands at or above the parent's indentation. -/
def scanChildKeys (parent : Nat) : List Text → List Text
  | [] => []
  | text :: rest =>
    if Text.isBlankLine text then scanChildKeys parent rest
    else
      let indent := Text.indentation text
      if indent ≤ parent then []
      else if indent = parent + indentStep then
        ((FieldLine.parse? text).map (·.key)).toList ++ scanChildKeys parent rest
      else scanChildKeys parent rest

namespace Block

/-- The children's keys found by scanning the lines below a key's line. -/
def scannedKeys (b : Block) (keyLine : Nat) : List Text :=
  match b.lines[keyLine]? with
  | none => []
  | some text =>
    scanChildKeys (Text.indentation text) ((b.lines.take b.span.last).drop (keyLine + 1))

/-- The keys that stand below the field of a context. -/
def existingKeys (b : Block) (c : Context) : List Text :=
  let scanned := b.scannedKeys c.keyLine
  if scanned = [] then (b.tree.bind (·.childKeys? c.path)).getD [] else scanned

end Block

end Frontmatter
