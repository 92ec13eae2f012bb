import EventForge.Fault
import EventForge.Text.Quoted
import EventForge.Text.Utf8

/-!
# Files

A file tree hangs below a home directory.  Paths are read relative to it.  A path is walked name by
name: every name but the last must lead to a directory, a pair of points leads up, and a name can be
too long.  Reading and writing fail as file systems do: the file is missing, is a directory, lies
below a file, or exists already.
-/

namespace EventForge

/-- Why a file cannot be read or written; each names the path as it was given. -/
inductive FileFault
  | missing (path : Text)
  | exists (path : Text)
  | notDirectory (path : Text)
  | isDirectory (path : Text)
  | nameTooLong (path : Text)
  /-- The path holds a NUL. -/
  | nullByte
  /-- The path has no encoding. -/
  | unencodable (error : Utf8EncodeError)
deriving DecidableEq, Repr

namespace FileFault

def message : FileFault → Text
  | .missing path => ("[Errno 2] No such file or directory: " : Text) ++ Quoted.ofText path
  | .exists path => ("[Errno 17] File exists: " : Text) ++ Quoted.ofText path
  | .notDirectory path => ("[Errno 20] Not a directory: " : Text) ++ Quoted.ofText path
  | .isDirectory path => ("[Errno 21] Is a directory: " : Text) ++ Quoted.ofText path
  | .nameTooLong path => ("[Errno 36] File name too long: " : Text) ++ Quoted.ofText path
  | .nullByte => "embedded null byte"
  | .unencodable error => error.message

def kind : FileFault → FaultKind
  | .missing _ => .missingFile
  | .exists _ => .fileExists
  | .notDirectory _ => .notDirectory
  | .isDirectory _ => .isDirectory
  | .nameTooLong _ => .fileSystem
  | .nullByte => .value
  | .unencodable _ => .utf8Encoding

def fault (fault : FileFault) : Fault := Fault.plain fault.kind fault.message

/-- Whether the system gives a fault when it is asked for a file.  A path that it cannot even be asked
for is refused before. -/
def isOfSystem : FileFault → Bool
  | .missing _ | .exists _ | .notDirectory _ | .isDirectory _ | .nameTooLong _ => true
  | .nullByte | .unencodable _ => false

end FileFault

/-- What a path names. -/
inductive FileEntry
  | file (content : Bytes)
  | directory
deriving DecidableEq, Repr

/-- The names that lead from the home directory to a place.  Outside the home directory they begin
with a pair of points for every step up, or with a slash for the root of all directories. -/
abbrev Place := List Text

/-- The files and directories below a home directory, each under the names that lead to it. -/
structure FileTree where
  home : Text
  entries : List (Place × FileEntry)

namespace FilePath

/-- The names in a path; a single point names nothing. -/
def names (path : Text) : List Text :=
  (path.splitAt '/').filter fun name => !name.isEmpty && name ≠ ("." : Text)

/-- A path without needless parts. -/
def normal (path : Text) : Text :=
  let joined := Text.join "/" (names path)
  if path.startsWith "/" then ("/" : Text) ++ joined
  else if joined.isEmpty then "."
  else joined

/-- The last name of a path. -/
def lastName (path : Text) : Text := ((names path).getLast?).getD []

/-- The part of a name from its last point on.  A point at the beginning or at the end of a name
opens no suffix. -/
def suffix (path : Text) : Text :=
  let name := lastName path
  let tail := (name.reverse.takeWhile fun point => point ≠ CodePoint.ofChar '.').reverse
  if tail.length + 1 < name.length && !tail.isEmpty then ("." : Text) ++ tail else []

/-- The root of all directories. -/
def root : Text := "/"

/-- The name that leads up. -/
def above : Text := ".."

/-- The place above a place. -/
def up (place : Place) : Place :=
  match place.getLast? with
  | none => [above]
  | some name =>
      if name = above then place ++ [above] else if place = [root] then place else place.dropLast

/-- Where a name leads from a place. -/
def follow (place : Place) (name : Text) : Place :=
  if name = above then up place else place ++ [name]

/-- The most bytes that a name can have. -/
def longestName : Nat := 255

/-- The most bytes that a path can have. -/
def longestPath : Nat := 4095

/-- Whether a code point stands for a byte of a name that is no text. -/
def isByte (point : CodePoint) : Bool := 0xDC80 ≤ point.val && point.val ≤ 0xDCFF

/-- How many bytes a path has. -/
def byteLength (path : Text) : Nat :=
  (path.filter isByte).length + (Utf8.encodeAll (path.filter fun point => !isByte point)).length

/-- The first part of a path that has no encoding, if there is one.  `position` is where the path
begins. -/
def encodeError? (position : Nat) : Text → Option Utf8EncodeError
  | [] => none
  | point :: rest =>
      if point.isSurrogate && !isByte point then
        some { position, length := 1 + (rest.takeWhile CodePoint.isSurrogate).length, point }
      else encodeError? (position + 1) rest

/-- The directories that every system has. -/
def systemDirectories : List Text :=
  List.map Text.ofString ["bin", "dev", "etc", "home", "proc", "root", "tmp", "usr", "var"]

end FilePath

namespace FileTree

/-- An empty home directory. -/
def empty (home : Text) : FileTree := { home, entries := [] }

/-- Where a path starts, and the names in it.  A path that begins with all the names of the home
directory starts there. -/
def start (tree : FileTree) (path : Text) : Place × List Text :=
  let absolute := path.startsWith FilePath.root
  let names := FilePath.names path
  let home := FilePath.names tree.home
  if absolute == tree.home.startsWith FilePath.root && home.isPrefixOf names then
    ([], names.drop home.length)
  else (if absolute then [FilePath.root] else [], names)

/-- The place that a path names if all its names lead to directories. -/
def place (tree : FileTree) (path : Text) : Place :=
  let (start, names) := tree.start path
  names.foldl FilePath.follow start

/-- The absolute path of a place. -/
def absoluteText (tree : FileTree) (place : Place) : Text :=
  match place with
  | [] => tree.home
  | name :: names =>
      if name = FilePath.root then FilePath.root ++ Text.join "/" names
      else tree.home ++ "/" ++ Text.join "/" (name :: names)

/-- The absolute form of a path. -/
def resolve (tree : FileTree) (path : Text) : Text := tree.absoluteText (tree.place path)

/-- What is at a place. -/
def entry? (tree : FileTree) (place : Place) : Option FileEntry :=
  if place.all fun name => name = FilePath.above || name = FilePath.root then some .directory
  else
    match tree.entries.find? fun found => found.1 == place with
    | some (_, entry) => some entry
    | none =>
        match place with
        | [first, second] =>
            if first = FilePath.root && FilePath.systemDirectories.contains second then
              some .directory
            else none
        | _ => none

/-- Goes from a place to where a name leads; `path` is the path that is walked. -/
def step (tree : FileTree) (path : Text) (place : Place) (name : Text) :
    Except FileFault Place :=
  match tree.entry? place with
  | none => .error (.missing path)
  | some (.file _) => .error (.notDirectory path)
  | some .directory =>
      if FilePath.longestName < FilePath.byteLength name then .error (.nameTooLong path)
      else .ok (FilePath.follow place name)

/-- Walks a path up to its last name: the place that it leads to, where there may be nothing. -/
def walk (tree : FileTree) (path : Text) : Except FileFault Place :=
  if let some error := FilePath.encodeError? 0 path then .error (.unencodable error)
  else if path.contains (0 : CodePoint) then .error .nullByte
  else if FilePath.longestPath < FilePath.byteLength path then .error (.nameTooLong path)
  else
    let (start, names) := tree.start path
    names.foldlM (tree.step path) start

/-- What a path names, or why it names nothing. -/
def look (tree : FileTree) (path : Text) : Except FileFault FileEntry := do
  match tree.entry? (← tree.walk path) with
  | some found => return found
  | none => throw (.missing path)

/-- Whether a path names something.  A path that cannot be walked names nothing, unless it is too
long to be sure. -/
def isThere (tree : FileTree) (path : Text) : Except FileFault Bool :=
  match tree.look path with
  | .ok _ => .ok true
  | .error (.nameTooLong path) => .error (.nameTooLong path)
  | .error _ => .ok false

/-- The bytes of a file. -/
def read (tree : FileTree) (path : Text) : Except FileFault Bytes := do
  match ← tree.look path with
  | .file content => return content
  | .directory => throw (.isDirectory path)

/-- Sets what is at a place. -/
def set (tree : FileTree) (place : Place) (entry : FileEntry) : FileTree :=
  { tree with
    entries := (tree.entries.filter fun found => found.1 != place) ++ [(place, entry)] }

/-- Removes what a path names. -/
def erase (tree : FileTree) (path : Text) : FileTree :=
  let place := tree.place path
  { tree with entries := tree.entries.filter fun found => found.1 != place }

/-- Makes a directory at a path. -/
def makeDirectory (tree : FileTree) (path : Text) : Except FileFault FileTree := do
  let place ← tree.walk path
  if (tree.entry? place).isSome then throw (.exists path)
  return tree.set place .directory

/-- Makes a directory at a path unless it is there. -/
def ensureDirectory (tree : FileTree) (path : Text) : Except FileFault FileTree :=
  match tree.makeDirectory path with
  | .ok tree => .ok tree
  | .error fault =>
      match tree.look path with
      | .ok .directory => .ok tree
      | _ => .error fault

/-- The path that some names make, behind a slash if it is absolute. -/
def pathOf (absolute : Bool) (names : List Text) : Text :=
  if absolute then FilePath.root ++ Text.join "/" names
  else if names.isEmpty then "."
  else Text.join "/" names

/-- Takes over what became of a tree; where that failed, the tree stays. -/
def settle (tree : FileTree) : Except FileFault FileTree → Except FileFault Unit × FileTree
  | .ok after => (.ok (), after)
  | .error fault => (.error fault, tree)

/-- Makes the directory that some names lead to, the last name first; where one above it is missing,
that is made before it, and stays if the directory itself cannot be made. -/
def makeDirectories (tree : FileTree) (absolute : Bool) :
    List Text → Except FileFault Unit × FileTree
  | [] => tree.settle (tree.ensureDirectory (pathOf absolute []))
  | name :: names =>
      let path := pathOf absolute (name :: names).reverse
      match tree.makeDirectory path with
      | .error (.missing _) =>
          match makeDirectories tree absolute names with
          | (.ok (), tree) => tree.settle (tree.ensureDirectory path)
          | (.error fault, tree) => (.error fault, tree)
      | _ => tree.settle (tree.ensureDirectory path)

/-- Makes the directory above a path, and those above that one. -/
def makeParents (tree : FileTree) (path : Text) : Except FileFault Unit × FileTree :=
  tree.makeDirectories (path.startsWith FilePath.root) (FilePath.names path).dropLast.reverse

/-- Writes a file with the given bytes at a path. -/
def write (tree : FileTree) (path : Text) (content : Bytes) : Except FileFault FileTree := do
  let place ← tree.walk path
  match tree.entry? place with
  | some .directory => throw (.isDirectory path)
  | _ => return tree.set place (.file content)

/-- Puts a file with the given bytes at a path, with the directories above it. -/
def put (tree : FileTree) (path : Text) (content : Bytes) : Except FileFault FileTree :=
  match tree.makeParents path with
  | (.ok (), tree) => tree.write path content
  | (.error fault, _) => .error fault

/-- Removes the file at a path. -/
def removeFile (tree : FileTree) (path : Text) : Except FileFault FileTree := do
  match ← tree.look path with
  | .file _ => return tree.erase path
  | .directory => throw (.isDirectory path)

/-- Removes the directory at a path. -/
def removeDirectory (tree : FileTree) (path : Text) : Except FileFault FileTree := do
  match ← tree.look path with
  | .directory => return tree.erase path
  | .file _ => throw (.notDirectory path)

end FileTree

end EventForge
