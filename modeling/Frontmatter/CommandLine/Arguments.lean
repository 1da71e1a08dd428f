import Frontmatter.Number.Decimal

/-! # Arguments

The arguments of a call and the command that they state. Options stand behind two hyphens with their
names or behind one hyphen with their letters; a value follows behind an equals sign or as the next
argument. Other arguments are words, and so are all arguments behind a lone double hyphen. The first
word is the name of the command, and what stands behind it belongs to the command. -/

namespace Frontmatter

/-! ## Options and words -/

/-- An option. -/
structure OptionForm where
  /-- Its name. -/
  name : Text
  /-- Its letter. -/
  letter : Option Char
  /-- Whether it may be given several times. -/
  repeats : Bool
  /-- Which values it takes. -/
  takes : Text → Bool

/-- What may be given on a level of the command line. -/
structure ArgumentLevel where
  /-- The options, besides the one for help. -/
  options : List OptionForm
  /-- Whether the version may be asked for. -/
  hasVersion : Bool
  /-- How many words there may be; without a number the first word ends the level. -/
  words : Option Nat

/-- Why arguments state no command. -/
inductive NoCommand where
  /-- Help is asked for. -/
  | help
  /-- The version is asked for. -/
  | version
  /-- The arguments are wrong. -/
  | wrong
  deriving DecidableEq, Repr

/-- The options and words given on a level. -/
structure Given where
  /-- The names of options with their values, in order. -/
  options : List (Text × Text)
  /-- The words, in order. -/
  words : List Text
  deriving DecidableEq, Repr

namespace Given

/-- The values of an option, in order. -/
def values (g : Given) (name : Text) : List Text :=
  (g.options.filter (·.1 = name)).map (·.2)

/-- The first value of an option. -/
def value? (g : Given) (name : Text) : Option Text :=
  (g.values name).head?

/-- An option with a value given as well, if the option takes it. -/
def add? (g : Given) (form : OptionForm) (value : Text) : Option Given :=
  if form.takes value ∧ (form.repeats ∨ g.values form.name = []) then
    some { g with options := g.options ++ [(form.name, value)] }
  else none

end Given

namespace ArgumentLevel

/-- Whether an argument is meant as an option and not as a value. -/
def isOption : Text → Bool
  | '-' :: _ :: _ => true
  | _ => false

/-- The value of an option and the arguments behind it: the attached one, or else the next
argument. -/
def value? : Option Text → List Text → Option (Text × List Text)
  | some value, rest => some (value, rest)
  | none, next :: rest => if isOption next then none else some (next, rest)
  | none, [] => none

/-- The option meant by what stands behind two hyphens, with its attached value. -/
def named (level : ArgumentLevel) (s : Text) : Except NoCommand (OptionForm × Option Text) :=
  let parts : Text × Option Text :=
    match Text.cut '=' s with
    | some (name, value) => (name, some value)
    | none => (s, none)
  if parts = ("help".toList, none) then .error .help
  else if level.hasVersion ∧ parts = ("version".toList, none) then .error .version
  else
    match level.options.find? (·.name = parts.1) with
    | some form => .ok (form, parts.2)
    | none => .error .wrong

/-- The option meant by what stands behind one hyphen, with its attached value. -/
def lettered (level : ArgumentLevel) (letter : Char) (s : Text) :
    Except NoCommand (OptionForm × Option Text) :=
  if letter = 'h' then .error .help
  else if level.hasVersion ∧ letter = 'V' then .error .version
  else
    match level.options.find? (·.letter = some letter) with
    | some form =>
      .ok (form, match s with
        | [] => none
        | '=' :: value => some value
        | value => some value)
    | none => .error .wrong

/-- The option at the head of the arguments added to what is given, and the arguments behind it. -/
def addOption (g : Given) (rest : List Text) (meant : OptionForm × Option Text) :
    Except NoCommand (Given × List Text) :=
  match value? meant.2 rest with
  | none => .error .wrong
  | some (value, rest) =>
    match g.add? meant.1 value with
    | some g => .ok (g, rest)
    | none => .error .wrong

/-- Reads the arguments of a level: what is given, and the word that ends the level with the
arguments behind it. The number bounds how many arguments there are; the flag tells whether all of
them are words. -/
def collect (level : ArgumentLevel) : Nat → Bool → Given → List Text →
    Except NoCommand (Given × Option (Text × List Text))
  | 0, _, _, _ => .error .wrong
  | _ + 1, _, g, [] => .ok (g, none)
  | fuel + 1, escaped, g, argument :: rest =>
    let word : Except NoCommand (Given × Option (Text × List Text)) :=
      match level.words with
      | none => if escaped then .error .wrong else .ok (g, some (argument, rest))
      | some most =>
        if argument = [] ∨ most ≤ g.words.length then .error .wrong
        else level.collect fuel escaped { g with words := g.words ++ [argument] } rest
    if escaped then word
    else
      match argument with
      | ['-', '-'] => level.collect fuel true g rest
      | '-' :: '-' :: name =>
        ((level.named name).bind (addOption g rest)).bind fun (g, rest) =>
          level.collect fuel false g rest
      | '-' :: letter :: attached =>
        ((level.lettered letter attached).bind (addOption g rest)).bind fun (g, rest) =>
          level.collect fuel false g rest
      | _ => word

/-- Reads the arguments of a level. -/
def read (level : ArgumentLevel) (arguments : List Text) :
    Except NoCommand (Given × Option (Text × List Text)) :=
  level.collect (arguments.length + 1) false ⟨[], []⟩ arguments

end ArgumentLevel

/-! ## Commands -/

/-- How answers are written. -/
inductive OutputFormat where
  /-- As text. -/
  | text
  /-- As JSON. -/
  | json
  deriving DecidableEq, Repr

/-- What to do. -/
inductive Command where
  /-- Show the context of a cursor, whose line and column count from one. -/
  | context (file : Text) (line column : Nat)
  /-- Show what is offered at a cursor, or insert the picked keys. -/
  | complete (file : Text) (line column : Nat) (picked : List Text)
  /-- Check the values of documents; in directories those whose names fit a pattern. -/
  | validate (paths : List Text) (names : Text)
  /-- List the rules. -/
  | rules
  deriving DecidableEq, Repr

/-- A call of the program. -/
structure Invocation where
  /-- The configuration file. -/
  config : Option Text
  /-- How answers are written. -/
  format : OutputFormat
  /-- What to do. -/
  command : Command
  deriving DecidableEq, Repr

namespace Invocation

/-- The number that a text of digits with an optional plus sign states; it has at most 64 bits. -/
def number? (s : Text) : Option Nat :=
  let digits := if s.head? = some '+' then s.drop 1 else s
  if digits = [] ∨ !digits.all Char.isDigit then none
  else
    let n := Decimal.digitsValue digits
    if n < Nat.pow 2 64 then some n else none

/-- The format with a name. -/
def format? (s : Text) : Option OutputFormat :=
  if s = "text".toList then some .text
  else if s = "json".toList then some .json
  else none

/-- What may stand before the command. -/
def topLevel : ArgumentLevel :=
  { options :=
      [⟨"config", none, false, (· ≠ [])⟩, ⟨"format", some 'f', false, fun s => (format? s).isSome⟩]
    hasVersion := true
    words := none }

/-- The options for a line and a column. -/
def cursorOptions : List OptionForm :=
  [⟨"line", some 'l', false, fun s => (number? s).isSome⟩,
    ⟨"column", some 'c', false, fun s => (number? s).isSome⟩]

/-- The file, the line and the column of a command about a cursor. -/
def cursor (g : Given) : Except NoCommand (Text × Nat × Nat) :=
  match g.words, (g.value? "line").bind number?, (g.value? "column").bind number? with
  | [file], some line, some column => .ok (file, line, column)
  | _, _, _ => .error .wrong

/-- Reads the arguments behind the name of a command. -/
def given (options : List OptionForm) (words : Nat) (arguments : List Text) :
    Except NoCommand Given :=
  ((ArgumentLevel.mk options false (some words)).read arguments).map (·.1)

/-- The command with a name and the arguments behind it. -/
def commandNamed (name : Text) (arguments : List Text) : Except NoCommand Command :=
  if name = "context".toList then
    ((given cursorOptions 1 arguments).bind cursor).map fun (file, line, column) =>
      .context file line column
  else if name = "complete".toList then
    (given (cursorOptions ++ [⟨"select", none, true, fun _ => true⟩]) 1 arguments).bind fun g =>
      (cursor g).map fun (file, line, column) => .complete file line column (g.values "select")
  else if name = "validate".toList then
    (given [⟨"include", none, false, fun _ => true⟩] arguments.length arguments).bind fun g =>
      if g.words = [] then .error .wrong
      else .ok (.validate g.words ((g.value? "include").getD "*.md"))
  else if name = "rules".toList then (given [] 0 arguments).map fun _ => .rules
  else if name = "help".toList then .error .help
  else .error .wrong

/-- The call that arguments state. The configuration file may be stated from elsewhere. -/
def ofArguments (config : Option Text) (arguments : List Text) : Except NoCommand Invocation :=
  (topLevel.read arguments).bind fun (g, word) =>
    match word with
    | none => .error .wrong
    | some (name, rest) =>
      (commandNamed name rest).bind fun command =>
        let config := (g.value? "config").or config
        if config = some [] then .error .wrong
        else
          let format := ((g.value? "format").bind format?).getD .text
          .ok ⟨config, format, command⟩

end Invocation

end Frontmatter
