import Concordance.Entries
import Concordance.Path
import Concordance.Text.Quoted

/-!
# File trees

A file tree holds texts under the names of files, below one directory. A path is
followed part by part; every part before the last has to be a directory. What
lies outside of the tree is not known: directories are there, but no files.
-/

namespace Concordance

/-- Why a file could not be read, or a directory could not be made. -/
inductive FileError
  | missing
  | occupied
  | isDirectory
  | insideFile
  deriving DecidableEq, Repr

/-- The wording of a refusal, with the path that was asked for. -/
def FileError.message (error : FileError) (path : Path) : String :=
  let cause :=
    match error with
    | .missing => "[Errno 2] No such file or directory: "
    | .occupied => "[Errno 17] File exists: "
    | .isDirectory => "[Errno 21] Is a directory: "
    | .insideFile => "[Errno 20] Not a directory: "
  cause ++ Text.quoted path.text

/-- Texts of files by name, and directories that need not hold any. -/
structure FileTree where
  files : Entries String
  directories : List String := []
  deriving DecidableEq, Repr

namespace FileTree

/-- The name of a place. -/
def nameOf (place : List String) : String :=
  "/".intercalate place

/-- Whether a place is a directory: the top, a named one, or one with files. -/
def isDirectoryAt (tree : FileTree) (place : List String) : Bool :=
  let start := (nameOf place ++ "/").toList
  place.isEmpty || tree.directories.contains (nameOf place) ||
    tree.files.any fun file => start.isPrefixOf file.1.toList

/-- Follow the parts of a path from a place on. -/
def follow (tree : FileTree) (place : List String) : List String -> Except FileError String
  | [] =>
      match tree.files.get? (nameOf place) with
      | some text => .ok text
      | none => .error .isDirectory
  | part :: rest =>
      if tree.files.has (nameOf place) then .error .insideFile
      else if part = ".." ∧ place.isEmpty then
        .error (if rest.isEmpty then .isDirectory else .missing)
      else
        let next := if part = ".." then place.dropLast else place ++ [part]
        if tree.isDirectoryAt next || tree.files.has (nameOf next) then follow tree next rest
        else .error .missing

/-- The text of a file. -/
def read (tree : FileTree) (path : Path) : Except FileError String :=
  if path.slashes = 0 then follow tree [] path.parts
  else if path.parts.isEmpty then .error .isDirectory
  else .error .missing

/-- Whether the directories of a path can be made from a place on: no file may
stand in their way. -/
def roomFrom (tree : FileTree) (place : List String) : List String -> Except FileError Unit
  | [] => .ok ()
  | part :: rest =>
      let next := if part = ".." then place.dropLast else place ++ [part]
      if tree.files.has (nameOf next) then
        .error (if rest.isEmpty then .occupied else .insideFile)
      else roomFrom tree next rest

/-- Whether a directory can be made, with those around it. -/
def room (tree : FileTree) (path : Path) : Except FileError Unit :=
  if path.slashes = 0 then roomFrom tree [] path.parts else .ok ()

/-- Whether a name leads to a directory; the empty name leads nowhere. -/
def hasDirectory (tree : FileTree) (name : String) : Bool :=
  match tree.read (Path.ofText name) with
  | .error .isDirectory => !name.isEmpty
  | _ => false

end FileTree
end Concordance
