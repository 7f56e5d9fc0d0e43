/-!
Files: why one cannot be read, the paths that lead to them, and a tree of them in memory.
-/

namespace BalanceSheet

/-! ### Faults -/

inductive FileFault where
  | notFound
  | isDirectory
  | notDirectory
  | noPermission
  | notText
  | longName
  | nulInName
  deriving DecidableEq

def FileFault.message : FileFault → String
  | notFound => "No such file or directory (os error 2)"
  | isDirectory => "Is a directory (os error 21)"
  | notDirectory => "Not a directory (os error 20)"
  | noPermission => "Permission denied (os error 13)"
  | longName => "File name too long (os error 36)"
  | nulInName => "file name contained an unexpected NUL byte"
  | notText => "stream did not contain valid UTF-8"

/-! ### Paths

A path is a text of names between slashes. Of the names of a path, empty ones and single dots say nothing, apart
from a dot at the very start; a path that starts with a slash is absolute.
-/

namespace Path

def isAbsolute (path : String) : Bool := path.toList.head? == some '/'

/-- Whether a name of a path says nothing. -/
def isIdle (name : List Char) : Bool := name.isEmpty || name = ['.']

/-- Drops the names at the end that say nothing, of names in reverse order; the first name stays. -/
def dropIdle : List (List Char) → List (List Char)
  | name :: before :: rest => if isIdle name then dropIdle (before :: rest) else name :: before :: rest
  | names => names

/-- The directory that a path names a file in, with the path's own spelling. -/
def directory? (path : String) : Option String :=
  match dropIdle (path.toList.splitOn '/').reverse with
  | [] | [[]] => none
  | [_] => some ""
  | _ :: before =>
    match (dropIdle before).reverse with
    | [[]] => some "/"
    | names => some (String.ofList (['/'].intercalate names))

/-- A path as it is seen from a directory. -/
def join (directory path : String) : String :=
  if isAbsolute path || directory.isEmpty then path
  else if directory.toList.getLast? = some '/' then directory ++ path
  else directory ++ "/" ++ path

end Path

/-! ### Files in memory

Files are held in memory so that commands can run without a disk. A directory is there if it is named or a
file lies below it. A path is followed name by name from the working directory, or from the root.
-/

structure FileTree where
  workingDirectory : List String
  /-- The texts of files, by the names on the way from the root. -/
  files : List (List String × String)
  directories : List (List String)

/-- Where a path leads. -/
inductive Place where
  | directory (names : List String)
  | file (text : String)

namespace FileTree

def hasDirectory (t : FileTree) (names : List String) : Bool :=
  names.isEmpty || t.directories.any names.isPrefixOf || t.files.any fun file => names.isPrefixOf file.1

def maxNameLength : Nat := 255

/-- Follows one name of a path. -/
def step (t : FileTree) (place : Place) (name : String) : Except FileFault Place :=
  match place with
  | .file _ => .error .notDirectory
  | .directory names =>
    if name.isEmpty || name = "." then .ok place
    else if name = ".." then .ok (.directory names.dropLast)
    else if name.utf8ByteSize > maxNameLength then .error .longName
    else
      match t.files.lookup (names ++ [name]) with
      | some text => .ok (.file text)
      | none =>
        if t.hasDirectory (names ++ [name]) then .ok (.directory (names ++ [name])) else .error .notFound

def find (t : FileTree) (path : String) : Except FileFault Place :=
  if path.isEmpty then .error .notFound
  else if path.contains '\x00' then .error .nulInName
  else
    let start := if Path.isAbsolute path then [] else t.workingDirectory
    (path.splitOn "/").foldlM t.step (.directory start)

def read (t : FileTree) (path : String) : Except FileFault String := do
  match ← t.find path with
  | .file text => return text
  | .directory _ => throw .isDirectory

def has (t : FileTree) (path : String) : Bool := (t.find path).toBool

/-- Adds a file at a path below the working directory. -/
def add (t : FileTree) (path text : String) : FileTree :=
  let names := (path.splitOn "/").filter fun name => !name.isEmpty && name != "."
  { t with files := t.files ++ [(t.workingDirectory ++ names, text)] }

end FileTree

end BalanceSheet
