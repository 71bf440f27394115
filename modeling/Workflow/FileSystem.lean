import Workflow.FilePath
import Workflow.Network

/-!
# A file system as a value

A file system is the finite tree of folders and files that a run can see, with a current
folder and a home folder, and with the network that downloads come from.  Reading never changes
it, and writing returns a new one, so a whole run is a function from file system to file system.

Paths are looked up component by component: `.` stays, `..` goes up, and every component
before the last has to be a folder.
-/

namespace Workflow

/-- Why a file could not be read or written. -/
inductive FileError where
  | notFound
  | notFolder
  | isFolder
  | nameTooLong
  | nulInPath
  | notText
  deriving DecidableEq, Repr

/-- The wording of the reason. -/
def FileError.message : FileError → String
  | .notFound => "No such file or directory (os error 2)"
  | .notFolder => "Not a directory (os error 20)"
  | .isFolder => "Is a directory (os error 21)"
  | .nameTooLong => "File name too long (os error 36)"
  | .nulInPath => "file name contained an unexpected NUL byte"
  | .notText => "stream did not contain valid UTF-8"

/-- An absolute location: the components from the root folder down. -/
abbrev Location := List String

/-- Folders and files, with the folder that relative paths start from, and what else a run
finds outside of itself. -/
structure FileSystem where
  current : Location
  home : String
  folders : List Location
  files : List (Location × ByteArray)
  network : Network
  deriving Inhabited

namespace FileSystem

/-- A file system with the current folder and the folders above it only, on a machine without a
connection. -/
def empty (current : Location) (home : String) : FileSystem :=
  ⟨current, home, (List.range (current.length + 1)).map current.take, [], .offline⟩

def content? (system : FileSystem) (location : Location) : Option ByteArray :=
  (system.files.find? fun file => file.1 == location).map Prod.snd

def isFolderAt (system : FileSystem) (location : Location) : Bool :=
  system.folders.contains location

/-- The location reached from a folder through the components of a path. -/
def walk (system : FileSystem) : Location → List String → Except FileError Location
  | place, [] => .ok place
  | place, piece :: rest =>
      if system.isFolderAt place then
        if piece == "" || piece == "." then walk system place rest
        else if piece == ".." then walk system place.dropLast rest
        else if 255 < piece.utf8ByteSize then .error .nameTooLong
        else
          let inner := place ++ [piece]
          if system.isFolderAt inner || (system.content? inner).isSome then walk system inner rest
          else .error .notFound
      else .error .notFolder

/-- The components of a path text. -/
def pieces (path : FilePath) : List String :=
  (FilePath.pieces path.text.toList).map String.ofList

/-- The longest path text, in bytes. -/
def maxPathLength : Nat := 4095

/-- The reasons for which a path text is refused before any look-up. -/
def refusal (path : FilePath) : Option FileError :=
  if path.text.toList.contains '\x00' then some .nulInPath
  else if path.text = "" then some .notFound
  else if maxPathLength < path.text.utf8ByteSize then some .nameTooLong
  else none

/-- The place where the look-up of a path starts. -/
def start (system : FileSystem) (path : FilePath) : Location :=
  if path.isAbsolute then [] else system.current

/-- The existing file or folder that a path denotes. -/
def locate (system : FileSystem) (path : FilePath) : Except FileError Location :=
  match refusal path with
  | some reason => .error reason
  | none => system.walk (system.start path) (pieces path)

def isFolder (system : FileSystem) (path : FilePath) : Bool :=
  match system.locate path with
  | .ok location => system.isFolderAt location
  | .error _ => false

def isFile (system : FileSystem) (path : FilePath) : Bool :=
  match system.locate path with
  | .ok location => (system.content? location).isSome
  | .error _ => false

/-- Whether the path denotes a file or a folder. -/
def occupied (system : FileSystem) (path : FilePath) : Bool :=
  match system.locate path with
  | .ok _ => true
  | .error _ => false

def read (system : FileSystem) (path : FilePath) : Except FileError ByteArray := do
  let location ← system.locate path
  match system.content? location with
  | some bytes => .ok bytes
  | none => .error .isFolder

def readText (system : FileSystem) (path : FilePath) : Except FileError String := do
  let bytes ← system.read path
  match String.fromUTF8? bytes with
  | some text => .ok text
  | none => .error .notText

/-- The location that writing to a path fills: its folder must exist, and no folder may be
in its place.  A path that ends with a slash names a folder, whether it exists or not. -/
def target (system : FileSystem) (path : FilePath) : Except FileError Location := do
  if let some reason := refusal path then .error reason
  let namesFolder := path.text.toList.getLast? == some '/'
  match (pieces path).reverse.dropWhile (· == "") with
  | [] => .error .isFolder
  | last :: before =>
      let place ← system.walk (system.start path) before.reverse
      if system.isFolderAt place then
        if namesFolder || last == "." || last == ".." then .error .isFolder
        else if 255 < last.utf8ByteSize then .error .nameTooLong
        else if system.isFolderAt (place ++ [last]) then .error .isFolder
        else .ok (place ++ [last])
      else .error .notFolder

/-- The system with the bytes at a location, in place of what was there or at the end. -/
def store (system : FileSystem) (location : Location) (bytes : ByteArray) : FileSystem :=
  if (system.content? location).isSome then
    { system with
      files := system.files.map fun file => if file.1 == location then (location, bytes) else file }
  else { system with files := system.files ++ [(location, bytes)] }

/-- The system after writing the bytes to a file. -/
def write (system : FileSystem) (path : FilePath) (bytes : ByteArray) :
    Except FileError FileSystem := do
  let location ← system.target path
  .ok (system.store location bytes)

/-- The system after writing the text to a file. -/
def writeText (system : FileSystem) (path : FilePath) (text : String) :
    Except FileError FileSystem :=
  system.write path text.toUTF8

def addFolder (system : FileSystem) (location : Location) : FileSystem :=
  let above := (List.range (location.length + 1)).map location.take
  { system with folders := system.folders ++ above.filter fun folder => !system.isFolderAt folder }

def resolve (system : FileSystem) (workingFolder : FilePath) (text : String) : FilePath :=
  FilePath.resolve system.home workingFolder text

end FileSystem

end Workflow
