import PrivacyMapping.Entries
import PrivacyMapping.Text.Pieces

/-!
# Files

The files and directories of a file system, as they are seen from its working directory. A path is a
text that is followed name by name, from the root if it begins with a slash and from the working
directory otherwise: empty parts and `.` stay where they are, `..` leads back, and every name on the
way must be that of a directory. So a file may be reached by many paths, but it has one place, and one
name that it is held under. An operation that fails may have made directories by then, so it answers
with the files and directories that it leaves; no file has changed.
-/

namespace PrivacyMapping

/-- Why a file cannot be read or written. -/
inductive FileFault where
  | notFound
  | exists
  | notDirectory
  | isDirectory
  | nameTooLong
  | nulInPath
  | notText
  /-- A fault of another kind, which tells its own wording. -/
  | other (description : String)
  deriving DecidableEq, Repr

def FileFault.message : FileFault → String
  | .notFound => "No such file or directory (os error 2)"
  | .exists => "File exists (os error 17)"
  | .notDirectory => "Not a directory (os error 20)"
  | .isDirectory => "Is a directory (os error 21)"
  | .nameTooLong => "File name too long (os error 36)"
  | .nulInPath => "file name contained an unexpected NUL byte"
  | .notText => "stream did not contain valid UTF-8"
  | .other description => description

/-- The content of the file at each path, or the reason why it cannot be read. -/
abbrev FileReader := String → Except FileFault ByteArray

def FileReader.text (read : FileReader) (path : String) : Except FileFault String :=
  match read path with
  | .error fault => .error fault
  | .ok content =>
    match String.fromUTF8? content with
    | some text => .ok text
    | none => .error .notText

/-! ## Paths -/

namespace FilePath

def parts (path : String) : List String :=
  let (first, more) := Text.pieces '/' path.toList
  (first :: more).map String.ofList

def ofParts (parts : List String) : String :=
  "/".intercalate parts

/-- Drop the parts at the end that stand for nothing, `.` at the start of the path apart. -/
def trimEnd (parts : List String) : List String :=
  match parts with
  | [] => []
  | first :: rest =>
    first :: (rest.reverse.dropWhile fun part => part = "" ∨ part = ".").reverse

/-- The path of the directory that holds the file at a path, if the path names it. -/
def parent? (path : String) : Option String :=
  match trimEnd (parts path) with
  | [] | [_] => none
  | parts =>
    match trimEnd parts.dropLast with
    | [""] => some "/"
    | parts => some (ofParts parts)

end FilePath

/-! ## Places -/

/-- The names that lead to a place from the root, the last one first. -/
abbrev Files.Place := List String

/-- The place of the working directory. A class, so that files can be given by their nodes alone. -/
class Files.Home where
  place : Files.Place

/-- Without another place, the working directory stands in the root. -/
instance : Files.Home := ⟨["work"]⟩

/-- What stands at a place. -/
inductive FileNode where
  | file (content : ByteArray)
  | directory
  deriving Inhabited

/-- The files and directories by the names of their places, and the working directory. -/
structure Files where
  nodes : Entries FileNode
  [home : Files.Home]
  deriving Inhabited

namespace Files

/-- The name of a place: the path to it from the working directory if it lies there, or else the path
from the root. -/
def placeKey (files : Files) (place : Place) : String :=
  match files.home.place.isSuffixOf? place with
  | some inside => FilePath.ofParts inside.reverse
  | none => "/" ++ FilePath.ofParts place.reverse

/-- What stands at a place. The working directory and those around it are always there. -/
def node? (files : Files) (place : Place) : Option FileNode :=
  if place <:+ files.home.place then some .directory else files.nodes.get? (files.placeKey place)

def put (files : Files) (place : Place) (node : FileNode) : Files :=
  { files with nodes := files.nodes.insert (files.placeKey place) node }

/-! ## Paths that are followed -/

/-- The way back. -/
def parentName : String := ".."

/-- The greatest number of bytes of a name. -/
def nameLimit : Nat := 255

/-- The number of bytes that a path must stay below. -/
def pathLimit : Nat := 4096

def step (files : Files) (place : Place) (part : String) : Except FileFault Place :=
  match files.node? place with
  | none => .error .notFound
  | some (.file _) => .error .notDirectory
  | some .directory =>
    if part = "" ∨ part = "." then .ok place
    -- the way back from the root, which has no name, leads to the root
    else if part = parentName then .ok place.tail
    else if part.utf8ByteSize ≤ nameLimit then .ok (part :: place)
    else .error .nameTooLong

/-- Where a path begins: at the root if its first part is empty, as there is a slash before the others,
or else in the working directory. -/
def start (files : Files) (parts : List String) : Place :=
  if parts.head? = some "" then [] else files.home.place

/-- Follow the parts of a path. The last one need not stand for anything that is there. -/
def walk (files : Files) (parts : List String) : Except FileFault Place :=
  parts.foldlM files.step (files.start parts)

/-- What is wrong with a path before it is followed. -/
def pathFault? (path : String) : Option FileFault :=
  if path.toList.contains '\x00' then some .nulInPath
  else if path = "" then some .notFound
  else if pathLimit ≤ path.utf8ByteSize then some .nameTooLong
  else none

/-! ## Operations -/

def read (files : Files) : FileReader := fun path =>
  match pathFault? path with
  | some fault => .error fault
  | none => do
    let place ← files.walk (FilePath.parts path)
    match files.node? place with
    | none => throw .notFound
    | some .directory => throw .isDirectory
    | some (.file content) => pure content

/-- The place of the file that a path names for writing. -/
def target (files : Files) (path : String) : Except FileFault Place :=
  match pathFault? path with
  | some fault => .error fault
  | none => do
    let parts := FilePath.parts path
    if parts.getLast? = some "" then
      let _ ← files.walk (parts.reverse.dropWhile (· = "")).tail.reverse
      throw .isDirectory
    else
      let place ← files.walk parts
      match files.node? place with
      | some .directory => throw .isDirectory
      | _ => pure place

/-- Write a file, which may be there already, into a directory that is there. -/
def write (files : Files) (path : String) (content : ByteArray) : Except FileFault Files := do
  let place ← files.target path
  pure (files.put place (.file content))

/-- Follow the parts of a path from a place, putting directories where there is nothing, and answer
with what is there in the end. -/
def createFrom (files : Files) (place : Place) : List String → Except FileFault Unit × Files
  | [] => (.ok (), files)
  | part :: rest =>
    match files.step place part with
    | .error fault => (.error fault, files)
    | .ok place =>
      match files.node? place with
      | some (.file _) => (.error (if rest.isEmpty then .exists else .notDirectory), files)
      | some .directory => files.createFrom place rest
      | none => (files.put place .directory).createFrom place rest

/-- Make the directory at a path and those on the way to it, as far as they are not there. -/
def createDirectories (files : Files) (path : String) : Except FileFault Unit × Files :=
  match pathFault? path with
  | some fault => (.error fault, files)
  | none => files.createFrom (files.start (FilePath.parts path)) (FilePath.parts path)

/-- The files with their contents, by the names of their places. -/
def contents (files : Files) : Entries ByteArray :=
  files.nodes.filterMap fun entry =>
    match entry.2 with
    | .file content => some (entry.1, content)
    | .directory => none

/-- The files that are new or have another content than before. -/
def changes (files before : Files) : Entries ByteArray :=
  files.contents.filter fun entry => before.contents.get? entry.1 != some entry.2

end Files

end PrivacyMapping
