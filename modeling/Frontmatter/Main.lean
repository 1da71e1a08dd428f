import Frontmatter.CommandLine.Run

/-! # The program

Runs the call that the arguments state on the file system. A rule without a name is named by a
random number, and an environment variable may state the configuration file. -/

namespace Frontmatter

/-- The file system as a storage. -/
def fileSystem : Storage IO where
  kind? path := do
    try
      let found ← (← IO.FS.realPath (String.ofList path)).metadata
      return match found.type with
        | .file => some .file
        | .dir => some .directory
        | _ => none
    catch _ => return none
  read? path := do
    try return some (← IO.FS.readFile (String.ofList path)).toList
    catch _ => return none
  names path := do
    try
      let entries ← (← IO.FS.realPath (String.ofList path)).readDir
      return entries.toList.map fun e => e.fileName.toList
    catch _ => return []

/-- The lower hexadecimal digits of a number, as many as asked for. -/
def hexDigits : Nat → Nat → Text
  | 0, _ => []
  | count + 1, n => hexDigits count (n / 16) ++ [Nat.digitChar (n % 16)]

/-- The name made of 122 random bits: groups of hexadecimal digits between hyphens, where one digit
tells that the name is random. -/
def randomName (bits : Nat) : Text :=
  hexDigits 8 bits ++ '-' :: hexDigits 4 (bits / Nat.pow 2 32)
    ++ '-' :: '4' :: hexDigits 3 (bits / Nat.pow 2 48)
    ++ '-' :: Nat.digitChar (8 + bits / Nat.pow 2 60 % 4) :: hexDigits 3 (bits / Nat.pow 2 62)
    ++ '-' :: hexDigits 12 (bits / Nat.pow 2 74)

end Frontmatter

/-- Runs the program. -/
def main (arguments : List String) : IO UInt32 := do
  let seed ← IO.getRandomBytes 16
  let bits := seed.toList.foldl (fun n b => 256 * n + b.toNat) 0
  let config ← IO.getEnv "FIELDSENSE_CONFIG"
  let outcome ←
    Frontmatter.runArguments Frontmatter.fileSystem (fun n => Frontmatter.randomName (bits + n))
      (config.map String.toList) (arguments.map String.toList)
  IO.print (String.ofList outcome.output)
  match outcome.error with
  | some message => IO.eprintln (String.ofList ("Error: ".toList ++ message))
  | none => pure ()
  return outcome.exitCode.toUInt32
