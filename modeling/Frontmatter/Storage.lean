import Frontmatter.Text.Basic

/-! # Storages

Where documents and configurations are kept: files and directories under paths. A `Storage` answers
what is under a path, in whatever way it keeps its files (`m`). `Storage.held` keeps them in a
list. -/

namespace Frontmatter

/-- What is under a path. -/
inductive EntryKind where
  /-- A file. -/
  | file
  /-- A directory. -/
  | directory
  deriving DecidableEq, Repr

/-- Access to files and directories. -/
structure Storage (m : Type → Type) where
  /-- What is under a path, if anything is. -/
  kind? : Text → m (Option EntryKind)
  /-- The text of the file under a path; there is none if it cannot be read as text. -/
  read? : Text → m (Option Text)
  /-- The names of the entries of the directory under a path. -/
  names : Text → m (List Text)

namespace Storage

/-! ## Paths of files -/

/-- The path of an entry of the directory under a path. -/
def join (path name : Text) : Text :=
  if path.getLast? = some '/' then path ++ name else path ++ '/' :: name

/-- The last name of a path. -/
def fileName (path : Text) : Text :=
  ((Text.splitOn '/' path).filter (· ≠ [])).getLast?.getD []

/-- The part of a path's last name behind its last dot; a dot at its start does not count. -/
def extension? (path : Text) : Option Text :=
  match Text.splitOn '.' (fileName path) with
  | [] => none
  | [_] => none
  | [[], _] => none
  | _ :: parts => parts.getLast?

/-! ## Files in a list -/

/-- The names that a path leads through from the start; `..` goes back by one. There are none for a
path that starts elsewhere. -/
def trail? (path : Text) : Option (List Text) :=
  if path.head? = some '/' then none
  else
    (Text.splitOn '/' path).foldlM (fun trail name =>
      if name = [] ∨ name = ['.'] then some trail
      else if name = ['.', '.'] then (if trail = [] then none else some trail.dropLast)
      else some (trail ++ [name])) []

/-- Whether a path can only be that of a directory. -/
def endsOpen (path : Text) : Bool :=
  path.getLast? = some '/' || (Text.splitOn '/' path).getLast? = some ['.']

/-- The entries of a list of files by their trails. A path that ends in a slash stands for an empty
directory. -/
def trails (files : List (Text × Option Text)) : List (List Text × Option (Option Text)) :=
  files.filterMap fun (path, content) =>
    (trail? path).map fun trail => (trail, if endsOpen path then none else some content)

/-- The content of the file at the end of a trail. -/
def content? (files : List (Text × Option Text)) (trail : List Text) : Option (Option Text) :=
  ((trails files).find? fun e => e.1 = trail ∧ e.2.isSome).bind (·.2)

/-- Whether a directory is at the end of a trail. -/
def isDirectory (files : List (Text × Option Text)) (trail : List Text) : Bool :=
  trail = [] ||
    (trails files).any fun e => trail.isPrefixOf e.1 && (e.2.isNone || trail.length < e.1.length)

/-- The storage of a list of files with their contents. Directories are there as far as files need
them; a file without content is not text. -/
def held (files : List (Text × Option Text)) : Storage Id where
  kind? path :=
    match trail? path with
    | none => none
    | some trail =>
      if isDirectory files trail then some .directory
      else if (content? files trail).isSome ∧ !endsOpen path then some .file
      else none
  read? path :=
    match trail? path with
    | none => none
    | some trail => if endsOpen path then none else ((content? files trail).bind id)
  names path :=
    match trail? path with
    | none => []
    | some trail =>
      ((trails files).filterMap fun e =>
        if trail.isPrefixOf e.1 then e.1[trail.length]? else none).eraseDups

end Storage

end Frontmatter
