/-!
# Files

* `FileFault`: why a file cannot be read.
* `FileTree`: files held in memory; `FileTree.read` finds one by its path.
* `extension?`: what follows the last point in the name of a file.
-/

namespace BoundQuery

/-- Why a file cannot be read. -/
inductive FileFault where
  /-- There is none. -/
  | missing
  /-- Something on the way to it is no directory. -/
  | notDirectory
  /-- It is a directory. -/
  | isDirectory
  /-- It may not be read. -/
  | denied
  /-- It does not hold text. -/
  | notText
  /-- Any other reason. -/
  | other (text : String)
deriving DecidableEq

/-- The text of the fault. -/
def FileFault.message : FileFault → String
  | .missing => "No such file or directory (os error 2)"
  | .notDirectory => "Not a directory (os error 20)"
  | .isDirectory => "Is a directory (os error 21)"
  | .denied => "Permission denied (os error 13)"
  | .notText => "stream did not contain valid UTF-8"
  | .other text => text

/-- The parts of a path between slashes. -/
def pathParts (path : String) : List String := (path.toList.splitOn '/').map String.ofList

/-- What follows the last point in the name of a file. A name that starts with its only point has
no extension. -/
def extension? (path : String) : Option String :=
  match ((pathParts path).filter fun part => part ≠ "" && part ≠ ".").getLast? with
  | none => none
  | some ".." => none
  | some name =>
    let reversed := name.toList.reverse
    match reversed.dropWhile (· ≠ '.') with
    | [] => none
    | [_] => none
    | _ => some (String.ofList (reversed.takeWhile (· ≠ '.')).reverse)

/-- Files by the parts of their paths. -/
structure FileTree where
  /-- The files. -/
  files : List (List String × String)

namespace FileTree

/-- The tree of a list of paths and texts. -/
def ofList (files : List (String × String)) : FileTree :=
  ⟨files.map fun (path, text) => (pathParts path, text)⟩

/-- The text of a file. -/
def file? (t : FileTree) (parts : List String) : Option String := t.files.lookup parts

/-- Whether there is such a directory. -/
def isDirectory (t : FileTree) (parts : List String) : Bool :=
  parts.isEmpty || t.files.any fun (file, _) => parts.isPrefixOf file && parts ≠ file

/-- Follows the parts of a path from a directory. -/
def follow (t : FileTree) (here : List String) : List String → Except FileFault String
  | [] => .error .isDirectory
  | part :: rest =>
    if part = "" ∨ part = "." then t.follow here rest
    else if part = ".." then if here.isEmpty then .error .missing else t.follow here.dropLast rest
    else
      match t.file? (here ++ [part]) with
      | some text => if rest.isEmpty then .ok text else .error .notDirectory
      | none =>
        if t.isDirectory (here ++ [part]) then t.follow (here ++ [part]) rest
        else .error .missing

/-- The text of the file at a path. Only paths from the root of the tree lead to one. -/
def read (t : FileTree) (path : String) : Except FileFault String :=
  match pathParts path with
  | [] => .error .missing
  | "" :: _ => .error .missing
  | parts => t.follow [] parts

end FileTree

end BoundQuery
