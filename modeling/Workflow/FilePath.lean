import Workflow.Text.Search

/-!
# Paths as they are written

A path is kept as its text, so that messages show it as it was given.  `join` and `parent`
work on that text: joining never removes a component, and the parent is what stands before
the last real component.
-/

namespace Workflow

/-- A path in the file system, absolute or relative, as it was written. -/
structure FilePath where
  text : String
  deriving DecidableEq, Repr, Inhabited

namespace FilePath

def current : FilePath := ⟨"."⟩

/-- Whether the path starts at the root folder. -/
def isAbsolute (path : FilePath) : Bool := path.text.toList.head? == some '/'

/-- The components between the slashes. -/
def pieces (text : List Char) : List (List Char) := Text.pieces (· == '/') text

/-- The path `inner` seen from the folder `folder`.  An absolute inner path stands alone. -/
def join (folder inner : FilePath) : FilePath :=
  if inner.isAbsolute then inner
  else if folder.text = "" ∨ folder.text.toList.getLast? = some '/' then
    ⟨folder.text ++ inner.text⟩
  else ⟨folder.text ++ "/" ++ inner.text⟩

/-- The start of a path that is no ordinary component: the root folder or a leading
current-folder component; then the rest of the text. -/
def splitRoot (text : List Char) : List Char × List Char :=
  match text with
  | '/' :: rest => (['/'], rest)
  | ['.'] => (['.'], [])
  | '.' :: '/' :: rest => (['.'], '/' :: rest)
  | _ => ([], text)

/-- A component that adds nothing to a path. -/
def isEmptyPiece (piece : List Char) : Bool := piece == [] || piece == ['.']

/-- Components put together again, the last one first in the list. -/
def unreverse (pieces : List (List Char)) : List Char := ['/'].intercalate pieces.reverse

/-- The path without its last component, if it has one.  A single component has the empty
path as its parent; the root folder and the empty path have no parent. -/
def parent (path : FilePath) : Option FilePath :=
  let (root, rest) := splitRoot path.text.toList
  match (pieces rest).reverse.dropWhile isEmptyPiece with
  | [] => if root = ['.'] then some ⟨""⟩ else none
  | _ :: before =>
      some ⟨String.ofList (root ++ unreverse (before.dropWhile isEmptyPiece))⟩

/-- The folder that holds a file; the current folder if the path names none. -/
def folder (path : FilePath) : FilePath :=
  match path.parent with
  | some ⟨""⟩ | none => current
  | some parent => parent

/-- The text with a leading `~` component replaced by the home folder. -/
def expandHome (home : String) (text : String) : String :=
  match text.toList with
  | ['~'] => home
  | '~' :: '/' :: rest => home ++ String.ofList ('/' :: rest)
  | _ => text

/-- What a path text given by the user denotes: the home folder is expanded, then a relative
path starts at the working folder. -/
def resolve (home : String) (workingFolder : FilePath) (text : String) : FilePath :=
  workingFolder.join ⟨expandHome home text⟩

example : ((FilePath.join ⟨"."⟩ ⟨"a"⟩).text, (FilePath.join ⟨"sub/"⟩ ⟨"a"⟩).text,
    (FilePath.join ⟨""⟩ ⟨"a"⟩).text, (FilePath.join ⟨"x"⟩ ⟨"/a"⟩).text) =
      ("./a", "sub/a", "a", "/a") := by decide

example : (parent ⟨"./a"⟩, parent ⟨"a/./b"⟩, parent ⟨"/a"⟩, parent ⟨"a"⟩, parent ⟨"/"⟩) =
    (some ⟨"."⟩, some ⟨"a"⟩, some ⟨"/"⟩, some ⟨""⟩, none) := by decide

end FilePath

end Workflow
