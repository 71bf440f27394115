import Workflow.Yaml.Character

/-!
# Folding of gaps

Between the words of a scalar there may be gaps of blanks and breaks.  A gap within a line is
kept as it is.  In a gap with breaks the blanks do not count; a single break reads as a space,
and of several breaks the first is dropped.
-/

namespace Workflow.Yaml

/-- What stands between two words: blanks, or breaks with blanks around them.  The characters
are in reverse order. -/
inductive Gap where
  | blanks (reversed : List Char)
  | breaks (first : Option Char) (reversed : List Char)
  deriving DecidableEq, Repr

namespace Gap

/-- Nothing between two words. -/
def empty : Gap := .blanks []

/-- A gap that joins two lines without anything between them. -/
def joint : Gap := .breaks none []

/-- Whether the gap goes to another line. -/
def hasBreak : Gap → Bool
  | .blanks _ => false
  | .breaks _ _ => true

def addBlank (c : Char) : Gap → Gap
  | .blanks reversed => .blanks (c :: reversed)
  | .breaks first reversed => .breaks first reversed

def addBreak (c : Char) : Gap → Gap
  | .blanks _ => .breaks (some (normalBreak c)) []
  | .breaks first reversed => .breaks first (normalBreak c :: reversed)

def reversed : Gap → List Char
  | .blanks reversed => reversed
  | .breaks (some '\n') [] => [' ']
  | .breaks (some '\n') reversed => reversed
  | .breaks first reversed => reversed ++ first.toList

end Gap

end Workflow.Yaml
