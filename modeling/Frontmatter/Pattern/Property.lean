import Frontmatter.Number.Decimal
import Frontmatter.Pattern.CharacterData
import Frontmatter.Pattern.CharSet
import Frontmatter.Text.Digit

/-! # Properties of characters

Sets of characters that have a name: general categories, scripts, and properties that a character
has or has not. `CharSet.named?` and `CharSet.valued?` find the set for a name, in which case,
spaces, hyphens, underscores and a leading `is` do not matter. The sets that patterns have short
forms for, digits, white space and the characters of words, are `CharSet.digit`, `CharSet.blank` and
`CharSet.word`. -/

namespace Frontmatter

namespace CharacterData

/-! ## Reading the tables -/

/-- Runs with one more character of a table read; the last run comes first. -/
def readRun : List (Text × Nat) → Char → List (Text × Nat)
  | [], c => [([c], 0)]
  | (name, n) :: done, c =>
    if c.isDigit then (name, 10 * n + (c.toNat - '0'.toNat)) :: done
    else if n = 0 then (name ++ [c], 0) :: done
    else ([c], 0) :: (name, n) :: done

/-- The runs of a table: names with how many code points have them in a row. -/
def runs (table : List String) : List (Text × Nat) :=
  ((table.flatMap String.toList).foldl readRun []).reverse

/-- The ranges of the runs whose names are wanted, where the first run starts at a code point. -/
def rangesOf (wanted : Text → Bool) : Nat → List (Text × Nat) → List (Nat × Nat)
  | _, [] => []
  | start, (name, n) :: rest =>
    if wanted name then (start, start + n - 1) :: rangesOf wanted (start + n) rest
    else rangesOf wanted (start + n) rest

/-- The numbers of a table. -/
def numbers (table : List String) : List Nat :=
  (Text.splitOn ' ' (table.flatMap String.toList)).map Decimal.digitsValue

/-- The ranges given by the lengths of the stretches outside and inside, from a code point on. -/
def stretches : Nat → List Nat → List (Nat × Nat)
  | start, outside :: inside :: rest =>
    (start + outside, start + outside + inside - 1) :: stretches (start + outside + inside) rest
  | _, _ => []

end CharacterData

namespace CharSet

open CharacterData

/-- The set given by the lengths of the stretches outside and inside it. -/
def ofStretches (table : List String) : CharSet :=
  .ranges (stretches 0 (numbers table))

/-- The union of several sets given by ranges, as one list of ranges. -/
def merged (sets : List CharSet) : CharSet :=
  ofRanges <| sets.flatMap fun
    | .ranges rs => rs
    | _ => []

/-! ## General categories -/

/-- The characters with one of the given general categories. -/
def ofCategories (wanted : List Text) : CharSet :=
  ofRanges (rangesOf (wanted.contains ·) 0 (runs categoryRuns))

/-- The general categories and their groups: the names, and the categories. -/
def categories : List (List String × List String) :=
  [(["lu", "uppercaseletter"], ["Lu"]), (["ll", "lowercaseletter"], ["Ll"]),
   (["lt", "titlecaseletter"], ["Lt"]), (["lm", "modifierletter"], ["Lm"]),
   (["lo", "otherletter"], ["Lo"]), (["mn", "nonspacingmark"], ["Mn"]),
   (["mc", "spacingmark"], ["Mc"]), (["me", "enclosingmark"], ["Me"]),
   (["nd", "decimalnumber", "digit"], ["Nd"]), (["nl", "letternumber"], ["Nl"]),
   (["no", "othernumber"], ["No"]), (["pc", "connectorpunctuation"], ["Pc"]),
   (["pd", "dashpunctuation"], ["Pd"]), (["ps", "openpunctuation"], ["Ps"]),
   (["pe", "closepunctuation"], ["Pe"]), (["pi", "initialpunctuation"], ["Pi"]),
   (["pf", "finalpunctuation"], ["Pf"]), (["po", "otherpunctuation"], ["Po"]),
   (["sm", "mathsymbol"], ["Sm"]), (["sc", "currencysymbol"], ["Sc"]),
   (["sk", "modifiersymbol"], ["Sk"]), (["so", "othersymbol"], ["So"]),
   (["zs", "spaceseparator"], ["Zs"]), (["zl", "lineseparator"], ["Zl"]),
   (["zp", "paragraphseparator"], ["Zp"]), (["cc", "control", "cntrl"], ["Cc"]),
   (["cf", "format"], ["Cf"]), (["co", "privateuse"], ["Co"]), (["cn", "unassigned"], ["Cn"]),
   (["lc", "casedletter"], ["Lu", "Ll", "Lt"]), (["l", "letter"], ["Lu", "Ll", "Lt", "Lm", "Lo"]),
   (["m", "mark", "combiningmark"], ["Mn", "Mc", "Me"]), (["n", "number"], ["Nd", "Nl", "No"]),
   (["p", "punctuation", "punct"], ["Pc", "Pd", "Ps", "Pe", "Pi", "Pf", "Po"]),
   (["s", "symbol"], ["Sm", "Sc", "Sk", "So"]), (["z", "separator"], ["Zs", "Zl", "Zp"]),
   (["c", "other"], ["Cc", "Cf", "Cn", "Co"])]

/-- The characters of a general category or group with a name in small letters. -/
def category? (name : Text) : Option CharSet :=
  if name = "any".toList then some full
  else if name = "ascii".toList then some (.ranges [(0, 0x7f)])
  else if name = "assigned".toList then some (.compl (ofCategories ["Cn"]))
  else
    (categories.find? fun e => e.1.any (·.toList = name)).map fun e =>
      ofCategories (e.2.map String.toList)

/-! ## Properties -/

/-- The characters that are alphabetic. -/
def alphabetic : CharSet :=
  merged [ofCategories ["Lu", "Ll", "Lt", "Lm", "Lo", "Nl"], ofStretches otherAlphabetic,
    ofStretches otherLowercase, ofStretches otherUppercase]

/-- The characters in lower case. -/
def lowercase : CharSet := merged [ofCategories ["Ll"], ofStretches otherLowercase]

/-- The characters in upper case. -/
def uppercase : CharSet := merged [ofCategories ["Lu"], ofStretches otherUppercase]

/-- The characters with a case. -/
def cased : CharSet := merged [lowercase, uppercase, ofCategories ["Lt"]]

/-- The characters that do not count for case. -/
def caseIgnorable : CharSet :=
  merged [ofCategories ["Mn", "Me", "Cf", "Lm", "Sk"], ofStretches wordMiddle]

/-- The characters that an identifier may start with. -/
def identifierStart : CharSet :=
  .diff
    (merged [ofCategories ["Lu", "Ll", "Lt", "Lm", "Lo", "Nl"],
      .ranges [(0x1885, 0x1886), (0x2118, 0x2118), (0x212e, 0x212e), (0x309b, 0x309c)]])
    (.ranges [(0x2e2f, 0x2e2f)])

/-- The characters that an identifier may go on with. -/
def identifierPart : CharSet :=
  .union identifierStart
    (merged [ofCategories ["Mn", "Mc", "Nd", "Pc"],
      .ranges [(0xb7, 0xb7), (0x387, 0x387), (0x1369, 0x1371), (0x19da, 0x19da), (0x200c, 0x200d),
        (0x30fb, 0x30fb), (0xff65, 0xff65)]])

/-- The characters that extend the one before them. -/
def graphemeExtend : CharSet := merged [ofCategories ["Me", "Mn"], ofStretches otherGraphemeExtend]

/-- The characters that stand for themselves and do not extend the one before them. -/
def graphemeBase : CharSet :=
  .compl (merged [ofCategories ["Cc", "Cf", "Co", "Cn", "Zl", "Zp"], graphemeExtend])

/-- The characters that lower case changes. -/
def lowercased : CharSet :=
  ofRanges <| (0x130, 0x130) ::
    Text.lowerRuns.flatMap fun (first, last, step, _) =>
      (List.range ((last - first) / step + 1)).map fun i => (first + i * step, first + i * step)

/-- The characters that case folding changes. -/
def caseFolded : CharSet :=
  .union (lowercased.diff (.ranges [(0x13a0, 0x13f5)])) (ofStretches foldedOnly)

/-- The characters that title case changes. -/
def titlecased : CharSet :=
  .union
    ((ofStretches uppercased).diff
      (.ranges [(0x1c5, 0x1c5), (0x1c8, 0x1c8), (0x1cb, 0x1cb), (0x1f2, 0x1f2), (0x10d0, 0x10fa),
        (0x10fd, 0x10ff), (0x1f88, 0x1f8f), (0x1f98, 0x1f9f), (0x1fa8, 0x1faf), (0x1fbc, 0x1fbc),
        (0x1fcc, 0x1fcc), (0x1ffc, 0x1ffc)]))
    (.ranges [(0x1c4, 0x1c4), (0x1c7, 0x1c7), (0x1ca, 0x1ca), (0x1f1, 0x1f1)])

/-- The characters that stand for the same thing in every plane: the last two of each, and a
block. -/
def noncharacters : CharSet :=
  .ranges <| (0xfdd0, 0xfdef) ::
    (List.range 17).map fun plane => (0x10000 * plane + 0xfffe, 0x10000 * plane + 0xffff)

/-- The properties with their names in small letters. -/
def properties : List (List String × CharSet) :=
  [(["asciihexdigit", "ahex"], .ranges [(0x30, 0x39), (0x41, 0x46), (0x61, 0x66)]),
   (["alphabetic", "alpha"], alphabetic),
   (["bidicontrol", "bidic"],
     .ranges [(0x61c, 0x61c), (0x200e, 0x200f), (0x202a, 0x202e), (0x2066, 0x2069)]),
   (["bidimirrored", "bidim"], ofStretches bidiMirrored),
   (["caseignorable", "ci"], caseIgnorable),
   (["cased"], cased),
   (["changeswhencasefolded", "cwcf"], caseFolded),
   (["changeswhencasemapped", "cwcm"],
     .union lowercased (.union (ofStretches uppercased) titlecased)),
   (["changeswhenlowercased", "cwl"], lowercased),
   (["changeswhentitlecased", "cwt"], titlecased),
   (["changeswhenuppercased", "cwu"], ofStretches uppercased),
   (["dash"], ofStretches dash),
   (["defaultignorablecodepoint", "di"], ofStretches defaultIgnorable),
   (["deprecated", "dep"], ofStretches deprecated),
   (["diacritic", "dia"], ofStretches diacritic),
   (["emoji"], ofStretches emoji),
   (["emojicomponent", "ecomp"], ofStretches emojiComponent),
   (["emojimodifier", "emod"], .ranges [(0x1f3fb, 0x1f3ff)]),
   (["emojimodifierbase", "ebase"], ofStretches emojiModifierBase),
   (["emojipresentation", "epres"], ofStretches emojiPresentation),
   (["extendedpictographic", "extpict"], ofStretches extendedPictographic),
   (["extender", "ext"], ofStretches extender),
   (["graphemebase", "grbase"], graphemeBase),
   (["graphemeextend", "grext"], graphemeExtend),
   (["hexdigit", "hex"],
     .ranges [(0x30, 0x39), (0x41, 0x46), (0x61, 0x66), (0xff10, 0xff19), (0xff21, 0xff26),
       (0xff41, 0xff46)]),
   (["idsbinaryoperator", "idsb"], .ranges [(0x2ff0, 0x2ff1), (0x2ff4, 0x2ffd), (0x31ef, 0x31ef)]),
   (["idstrinaryoperator", "idst"], .ranges [(0x2ff2, 0x2ff3)]),
   (["idcontinue", "idc"], identifierPart),
   (["idstart", "ids"], identifierStart),
   (["ideographic", "ideo"], ofStretches ideographic),
   (["joincontrol", "joinc"], .ranges [(0x200c, 0x200d)]),
   (["logicalorderexception", "loe"],
     .ranges [(0xe40, 0xe44), (0xec0, 0xec4), (0x19b5, 0x19b7), (0x19ba, 0x19ba), (0xaab5, 0xaab6),
       (0xaab9, 0xaab9), (0xaabb, 0xaabc)]),
   (["lowercase", "lower"], lowercase),
   (["math"], merged [ofCategories ["Sm"], ofStretches otherMath]),
   (["noncharactercodepoint", "nchar"], noncharacters),
   (["patternsyntax", "patsyn"], ofStretches patternSyntax),
   (["patternwhitespace", "patws"],
     .ranges [(0x9, 0xd), (0x20, 0x20), (0x85, 0x85), (0x200e, 0x200f), (0x2028, 0x2029)]),
   (["quotationmark", "qmark"], ofStretches quotationMark),
   (["radical"], .ranges [(0x2e80, 0x2e99), (0x2e9b, 0x2ef3), (0x2f00, 0x2fd5)]),
   (["regionalindicator", "ri"], .ranges [(0x1f1e6, 0x1f1ff)]),
   (["sentenceterminal", "sterm"], ofStretches sentenceTerminal),
   (["softdotted", "sd"], ofStretches softDotted),
   (["terminalpunctuation", "term"], ofStretches terminalPunctuation),
   (["unifiedideograph", "uideo"], ofStretches unifiedIdeograph),
   (["uppercase", "upper"], uppercase),
   (["variationselector", "vs"],
     .ranges [(0x180b, 0x180d), (0x180f, 0x180f), (0xfe00, 0xfe0f), (0xe0100, 0xe01ef)]),
   (["whitespace", "wspace", "space"], .ranges Text.blankRanges),
   (["xidcontinue", "xidc"], identifierPart.diff (ofStretches notInside)),
   (["xidstart", "xids"], identifierStart.diff (ofStretches notAtStart))]

/-- The characters with a property whose name is given in small letters. -/
def property? (name : Text) : Option CharSet :=
  (properties.find? fun e => e.1.any (·.toList = name)).map (·.2)

/-! ## Scripts -/

/-- A name as names are compared: ASCII letters in small form, and spaces, underscores, hyphens,
other characters and a leading `is` left out. The comment property keeps its short name, which
starts with `is` itself. -/
def plainName (name : Text) : Text :=
  let leads := (name.take 2).map Char.toLower = "is".toList
  let kept := (if leads then name.drop 2 else name).filter fun c =>
    c.toNat < 0x80 && c ≠ ' ' && c ≠ '_' && c ≠ '-'
  let small := kept.map Char.toLower
  if leads ∧ small = ['c'] then "isc" else small

/-- The short name of a script with a name in small letters. -/
def scriptCode? (name : Text) : Option Text :=
  (scriptNames.find? fun names =>
    (Text.splitOn ' ' names.toList).any fun n => plainName n = name).map fun names =>
      names.toList.take 4

/-- The characters of a script. -/
def script? (name : Text) : Option CharSet :=
  (scriptCode? name).map fun code => ofRanges (rangesOf (· = code) 0 (runs scriptRuns))

/-- The characters of an entry of the table of shared scripts, and its scripts. -/
def sharedEntry (entry : String) : (Nat × Nat) × List Text :=
  match Text.splitOn ' ' entry.toList with
  | first :: count :: codes =>
    let start := Decimal.digitsValue first
    ((start, start + Decimal.digitsValue count - 1), codes)
  | _ => ((0, 0), [])

/-- The characters that a script uses, alone or with others. -/
def scriptExtension? (name : Text) : Option CharSet :=
  (scriptCode? name).map fun code =>
    let shared := sharedScripts.map sharedEntry
    let own := ofRanges (rangesOf (· = code) 0 (runs scriptRuns))
    .union (own.diff (.ranges (shared.map (·.1))))
      (.ranges ((shared.filter fun e => e.2.contains code).map (·.1)))

/-! ## Names -/

/-- The set with a name: a property, a category or a script. -/
def named? (name : Text) : Option CharSet :=
  let name := plainName name
  ((property? name).or (category? name)).or (script? name)

/-- The set of the characters that have a value of a property with several values. -/
def valued? (property value : Text) : Option CharSet :=
  let property := plainName property
  let value := plainName value
  if property = "gc".toList ∨ property = "generalcategory".toList then category? value
  else if property = "sc".toList ∨ property = "script".toList then script? value
  else if property = "scx".toList ∨ property = "scriptextensions".toList then scriptExtension? value
  else none

/-! ## Short forms -/

/-- The decimal digits. -/
def digit : CharSet := .ranges Text.digitRanges

/-- White space. -/
def blank : CharSet := .ranges Text.blankRanges

/-- The characters of words. -/
def word : CharSet :=
  merged [alphabetic, ofCategories ["Mn", "Mc", "Me", "Nd", "Pc"], .ranges [(0x200c, 0x200d)]]

/-- The ASCII digits. -/
def asciiDigit : CharSet := .ranges [(0x30, 0x39)]

/-- The ASCII characters of white space. -/
def asciiBlank : CharSet := .ranges [(0x09, 0x0d), (0x20, 0x20)]

/-- The ASCII characters of words. -/
def asciiWord : CharSet := .ranges [(0x30, 0x39), (0x41, 0x5a), (0x5f, 0x5f), (0x61, 0x7a)]

end CharSet

end Frontmatter
