import BuilderGen.Path
import BuilderGen.Storage.Basic

/-!
# A file system as a value

Files and directories stand under the names that lead to them from the root. Paths are followed one
component after the other from the root or from the working directory, and every component that is
passed has to be a directory, also one that a following `..` leaves again.
-/

namespace BuilderGen.Storage

/-! ## 1. Trees -/

/-- The way from the root to a file or directory. -/
abbrev Location := List String

/-- What stands at a location. -/
inductive Entry where
  | file (content : ByteArray)
  | directory
deriving Inhabited

/-- A file system with a working directory. The root is always there. -/
structure FileTree where
  entries : List (Location × Entry)
  workingDirectory : Location

namespace FileTree

/-- The file system that holds nothing but an empty working directory. -/
def empty : FileTree := ⟨[(["work"], .directory)], ["work"]⟩

/-- What stands at a location. -/
def entry? (t : FileTree) : Location → Option Entry
  | [] => some .directory
  | l => t.entries.lookup l

/-- The tree with something else at a location. -/
def set (t : FileTree) (l : Location) (e : Entry) : FileTree :=
  { t with entries := (l, e) :: t.entries.filter fun x => x.1 != l }

/-- The tree without a location and all that is below it. -/
def erase (t : FileTree) (l : Location) : FileTree :=
  { t with entries := t.entries.filter fun x => !l.isPrefixOf x.1 }

/-! ## 2. Paths -/

/-- The greatest number of bytes of a component. -/
def maxNameLength : Nat := 255

/-- The greatest number of bytes of a path. -/
def maxPathLength : Nat := 4095

/-- Goes on from a directory along all components but the last one. -/
def follow (t : FileTree) (l : Location) : List String → Except SystemError Location
  | [] => .ok l
  | name :: rest =>
    match t.entry? l with
    | none => .error .notFound
    | some (.file _) => .error .notADirectory
    | some .directory =>
      if name = ".." then follow t l.dropLast rest
      else if maxNameLength < name.utf8ByteSize then .error .nameTooLong
      else follow t (l ++ [name]) rest

/-- Whether the last component of a path, which is given in reverse order, is `.` or `..`. -/
def endsInDot (reversed : List Char) : Bool :=
  let last := reversed.takeWhile (· != '/')
  last == ['.'] || last == ['.', '.']

/-- Where a path leads, and whether it can only mean a directory. The location itself need not be
there, but the directory that would hold it does; a component `.` or `..` at the end is looked up
in a directory, which has to be there. -/
def locate (t : FileTree) (path : String) : Except SystemError (Location × Bool) :=
  if path.toList.contains '\x00' then .error .nulInPath
  else if path.isEmpty then .error .notFound
  else if maxPathLength < path.utf8ByteSize then .error .nameTooLong
  else
    let start := if Path.isAbsolute path then [] else t.workingDirectory
    match t.follow start (Path.components path) with
    | .error e => .error e
    | .ok l =>
      let named := path.toList.reverse.dropWhile (· == '/')
      if endsInDot named then
        match t.entry? l with
        | none => .error .notFound
        | some (.file _) => .error .notADirectory
        | some .directory => .ok (l, true)
      else .ok (l, path.toList.getLast? == some '/')

/-! ## 3. Operations -/

/-- The content of a file. -/
def readBytes (t : FileTree) (path : String) : Except SystemError ByteArray :=
  match t.locate path with
  | .error e => .error e
  | .ok (l, needsDirectory) =>
    match t.entry? l with
    | none => .error .notFound
    | some .directory => .error .isADirectory
    | some (.file content) => if needsDirectory then .error .notADirectory else .ok content

/-- The text of a file. -/
def readText (t : FileTree) (path : String) : Except SystemError String :=
  match t.readBytes path with
  | .error e => .error e
  | .ok content =>
    match String.fromUTF8? content with
    | some s => .ok s
    | none => .error .notText

/-- Writes a file. -/
def writeBytes (path : String) (content : ByteArray) (t : FileTree) :
    Except SystemError Unit × FileTree :=
  match t.locate path with
  | .error e => (.error e, t)
  | .ok (l, needsDirectory) =>
    match t.entry? l with
    | some .directory => (.error .isADirectory, t)
    | some (.file _) =>
      if needsDirectory then (.error .notADirectory, t) else (.ok (), t.set l (.file content))
    | none =>
      if needsDirectory then (.error .isADirectory, t) else (.ok (), t.set l (.file content))

/-- Creates one directory. -/
def createDirectory (path : String) (t : FileTree) : Except SystemError Unit × FileTree :=
  match t.locate path with
  | .error e => (.error e, t)
  | .ok (l, _) =>
    match t.entry? l with
    | some _ => (.error .exists, t)
    | none => (.ok (), t.set l .directory)

/-- Whether a path leads to a directory. -/
def isDirectory (t : FileTree) (path : String) : Bool :=
  match t.locate path with
  | .error _ => false
  | .ok (l, _) =>
    match t.entry? l with
    | some .directory => true
    | _ => false

/-- Creates a directory, or finds it there. -/
def ensureDirectory (path : String) (t : FileTree) : Except SystemError Unit × FileTree :=
  match t.createDirectory path with
  | (.ok (), t) => (.ok (), t)
  | (.error e, t) => if t.isDirectory path then (.ok (), t) else (.error e, t)

/-- Creates a directory, and its ancestors where they are missing. At most `fuel` ancestors are
looked at. -/
def createDirectoriesFrom : Nat → String → FileTree → Except SystemError Unit × FileTree
  | 0, _, t => (.error .incompleteTree, t)
  | fuel + 1, path, t =>
    if path.isEmpty then (.ok (), t)
    else
      match t.ensureDirectory path with
      | (.error .notFound, t) =>
        match Path.parent? path with
        | none => (.error .incompleteTree, t)
        | some parent =>
          match createDirectoriesFrom fuel parent t with
          | (.ok (), t) => t.ensureDirectory path
          | (.error e, t) => (.error e, t)
      | (r, t) => (r, t)

/-- Creates a directory, and its ancestors where they are missing. -/
def createDirectories (path : String) (t : FileTree) : Except SystemError Unit × FileTree :=
  createDirectoriesFrom (path.length + 1) path t

/-- Removes a file, or a directory with all that is in it. -/
def remove (path : String) (t : FileTree) : Except SystemError Unit × FileTree :=
  match t.locate path with
  | .error e => (.error e, t)
  | .ok (l, needsDirectory) =>
    match t.entry? l with
    | none => (.error .notFound, t)
    | some (.file _) => if needsDirectory then (.error .notADirectory, t) else (.ok (), t.erase l)
    | some .directory => (.ok (), t.erase l)

/-- The locations below the working directory, seen from there; a directory ends with a slash. -/
def listing (t : FileTree) : List (String × Entry) :=
  t.entries.filterMap fun (l, e) =>
    match t.workingDirectory.isPrefixOf? l with
    | none | some [] => none
    | some below =>
      let path := "/".intercalate below
      match e with
      | .file _ => some (path, e)
      | .directory => some (path ++ "/", e)

end FileTree

/-- The operations on a file system that is a value. -/
def treeStorage : Storage (StateM FileTree) where
  readText path := fun t => (t.readText path, t)
  createDirectories path := fun t => t.createDirectories path
  writeText path text := fun t => t.writeBytes path text.toUTF8

end BuilderGen.Storage
