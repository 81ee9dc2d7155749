import ReportLang.Text.Split

/-!
# File trees

Files in directories, and how a path leads to a file. A path is followed name by name, so every
name before the last has to be that of a directory, also where a parent follows it. A path that
starts with a slash is followed from the root, any other one from where it is read.
-/

namespace ReportLang.CommandLine

/-- Why a file cannot be read. -/
inductive ReadError where
  /-- A name on the path is not in its directory. -/
  | notFound
  /-- A file stands where the path needs a directory. -/
  | notADirectory
  /-- The path leads to a directory. -/
  | isADirectory
  /-- A name on the path, or the path itself, is too long. -/
  | nameTooLong
  /-- The file may not be read. -/
  | denied
  /-- The file holds no text. -/
  | notText
  /-- Any other failure, in the words of the system. -/
  | other (reason : String)
deriving DecidableEq

/-- The wording of a failure to read. -/
def ReadError.message : ReadError → String
  | .notFound => "No such file or directory (os error 2)"
  | .notADirectory => "Not a directory (os error 20)"
  | .isADirectory => "Is a directory (os error 21)"
  | .nameTooLong => "File name too long (os error 36)"
  | .denied => "Permission denied (os error 13)"
  | .notText => "stream did not contain valid UTF-8"
  | .other reason => reason

/-- A file with its text, or a directory with its entries by name. -/
inductive FileTree where
  /-- A file. -/
  | file (text : String)
  /-- A directory. -/
  | directory (entries : List (String × FileTree))

namespace FileTree

/-- The directory without entries. -/
def empty : FileTree := .directory []

/-- The entries of a directory; a file has none. -/
def entries : FileTree → List (String × FileTree)
  | .file _ => []
  | .directory entries => entries

/-- Puts a tree at the end of a path of names, with directories on the way to it. -/
def put (tree : FileTree) (path : List String) (added : FileTree) : FileTree :=
  match path with
  | [] => added
  | name :: rest =>
    let inner := (tree.entries.lookup name).getD .empty
    .directory ((name, inner.put rest added) :: tree.entries.filter (·.1 ≠ name))

end FileTree

/-- A place in a tree, with the directories around it, innermost first. -/
structure Location where
  /-- The file or directory itself. -/
  here : FileTree
  /-- The directories around it. -/
  above : List FileTree

namespace Location

/-- The most bytes that a name on a path can have. -/
def maxNameSize : Nat := 255

/-- The most bytes that a path can have. -/
def maxPathSize : Nat := 4095

/-- The root of the tree. -/
def root (location : Location) : Location :=
  ⟨location.above.getLastD location.here, []⟩

/-- The directory around a place; the root is its own parent. -/
def parent (location : Location) : Location :=
  match location.above with
  | [] => location
  | outer :: above => ⟨outer, above⟩

/-- Follows one name. An empty name and a dot stay in a directory, two dots lead to its parent. -/
def enter (location : Location) (name : String) : Except ReadError Location :=
  match location.here with
  | .file _ => .error .notADirectory
  | .directory entries =>
    if name = "" ∨ name = "." then .ok location
    else if name = ".." then .ok location.parent
    else if maxNameSize < name.utf8ByteSize then .error .nameTooLong
    else
      match entries.lookup name with
      | some found => .ok ⟨found, location.here :: location.above⟩
      | none => .error .notFound

/-- Follows names one after the other. -/
def walk (location : Location) (names : List String) : Except ReadError Location :=
  names.foldlM enter location

/-- The names on a path, with an empty one after a slash at its end. -/
def names (path : String) : List String :=
  let (first, others) := Text.splitParts '/' path.toList
  (first :: others).map String.ofList

/-- The place a path leads to. -/
def find (location : Location) (path : String) : Except ReadError Location :=
  if path = "" then .error .notFound
  else if maxPathSize < path.utf8ByteSize then .error .nameTooLong
  else
    let start := if path.startsWith "/" then location.root else location
    start.walk (names path)

/-- The text of the file a path leads to. -/
def read (location : Location) (path : String) : Except ReadError String := do
  match (← location.find path).here with
  | .file text => return text
  | .directory _ => throw .isADirectory

end Location

end ReportLang.CommandLine
