import Frontmatter.Text.Blank
import Frontmatter.Text.CaseTable

/-! # Lower case

A text is put into lower case letter by letter. Two letters are special: the capital I with a dot
becomes two characters, and the capital sigma takes its final form at the end of a word, that is
behind a cased letter and not in front of one, where characters that do not count for case are
skipped. -/

namespace Frontmatter

namespace Text

/-- The lower case form of a letter with a single one. -/
def lowerChar (c : Char) : Char :=
  let n := c.toNat
  if n < 0x80 then c.toLower
  else
    match lowerRuns.find? fun (first, last, step, _) =>
        first ≤ n && n ≤ last && (n - first) % step == 0 with
    | some (_, _, _, distance) => Char.ofNat ((n : Int) + distance).toNat
    | none => c

/-- Whether the first character that counts for case is a cased letter. -/
def leadsCased (s : Text) : Bool :=
  match s.dropWhile fun c => inRanges caseIgnorableRanges c.toNat with
  | c :: _ => inRanges casedRanges c.toNat
  | [] => false

/-- The lower case form of a text behind other characters, which are given last first. -/
def lowercaseAfter : Text → Text → Text
  | _, [] => []
  | before, c :: rest =>
    let lowered : Text :=
      if c = 'Σ' then (if leadsCased before && !leadsCased rest then ['ς'] else ['σ'])
      else if c = 'İ' then ['i', '\u0307']
      else [lowerChar c]
    lowered ++ lowercaseAfter (c :: before) rest

/-- The lower case form of a text. -/
def lowercase (s : Text) : Text :=
  lowercaseAfter [] s

end Text

end Frontmatter
