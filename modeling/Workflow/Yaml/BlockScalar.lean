import Workflow.Yaml.SyntaxError

/-!
# Block scalars

A block scalar holds whole lines.  Its header may say how far the lines are indented and what
becomes of the breaks at its end; without a width in the header, the widest blank line before
the text and the first line of the text decide.  The lines of a literal scalar are kept; those
of a folded one are joined by spaces unless they start with a blank.
-/

namespace Workflow.Yaml

/-- What becomes of the breaks at the end of a block scalar. -/
inductive Chomping where
  | strip
  | clip
  | keep
  deriving DecidableEq, Repr

/-- What the header of a block scalar says. -/
structure BlockHeader where
  chomping : Chomping
  /-- How much further than the block around it the scalar is indented. -/
  increment : Option Nat
  deriving DecidableEq, Repr

namespace BlockScalar

/-- The chomping at the start of a header; clipping if there is none. -/
def readChomping (cursor : Cursor) : Chomping × Cursor :=
  match cursor.text with
  | '+' :: _ => (.keep, cursor.tail)
  | '-' :: _ => (.strip, cursor.tail)
  | _ => (.clip, cursor)

/-- The increment at the start of a header, if there is one.  It cannot be zero. -/
def readIncrement (cursor : Cursor) : Except Misreading (Option Nat × Cursor) :=
  match cursor.text with
  | '0' :: _ => .error ⟨.blockScalar, .zeroIncrement, cursor.mark⟩
  | c :: _ =>
      if '1' ≤ c ∧ c ≤ '9' then .ok (some (c.toNat - '0'.toNat), cursor.tail)
      else .ok (none, cursor)
  | [] => .ok (none, cursor)

/-- The header after the indicator, and what follows it. -/
def readHeader (cursor : Cursor) : Except Misreading (BlockHeader × Cursor) :=
  match readChomping cursor with
  | (.clip, _) => do
      let (increment, rest) ← readIncrement cursor
      let (chomping, rest) := if increment.isSome then readChomping rest else (.clip, rest)
      return (⟨chomping, increment⟩, rest)
  | (chomping, rest) => do
      let (increment, rest) ← readIncrement rest
      return (⟨chomping, increment⟩, rest)

/-- The widest margin among the blank lines before a text and its first line.  No margin holds
a tab. -/
def widestMargin : (widest : Nat) → Mark → List Char → Except Misreading Nat
  | widest, mark, [] => .ok (max widest mark.column)
  | widest, mark, '\r' :: '\n' :: rest =>
      widestMargin (max widest mark.column) (mark.newLine 2) rest
  | widest, mark, c :: rest =>
      if c == ' ' then widestMargin widest mark.next rest
      else if isBreak c then widestMargin (max widest mark.column) (mark.newLine 1) rest
      else if c == '\t' then .error ⟨.blockScalar, .tabInMargin, mark⟩
      else .ok (max widest mark.column)

/-- How far the lines of a scalar are indented, if the block around it has its entries in the
given column. -/
def indent (header : BlockHeader) (around : Option Nat) (cursor : Cursor) :
    Except Misreading Nat :=
  match header.increment with
  | some increment => .ok (around.getD 0 + increment)
  | none => do
      let widest ← widestMargin 0 cursor.mark cursor.text
      return max widest (max ((around.map (· + 1)).getD 0) 1)

/-- Where the scan of a block scalar stands: in a margin or in a line. -/
inductive Place where
  | margin
  | line

/-- The lines of a scalar that were read: their text in reverse order, the break after the last
line and the breaks after that one, and whether the last line starts with a blank. -/
structure Lines where
  reversed : List Char := []
  first : Option Char := none
  others : List Char := []
  startsBlank : Bool := false

namespace Lines

/-- Whether the break between two lines is folded when the second one starts with `c`. -/
def folds (folded : Bool) (lines : Lines) (c : Char) : Bool :=
  folded && lines.first == some '\n' && !lines.startsBlank && !isBlank c

/-- What separates the last line from a next one that starts with `c`, in reverse order. -/
def separator (folded : Bool) (lines : Lines) (c : Char) : List Char :=
  if lines.folds folded c then (if lines.others.isEmpty then [' '] else lines.others)
  else lines.others ++ lines.first.toList

def start (folded : Bool) (lines : Lines) (c : Char) : Lines where
  reversed := c :: (lines.separator folded c ++ lines.reversed)
  startsBlank := isBlank c

def text (chomping : Chomping) (lines : Lines) : String :=
  let ending := match chomping with
    | .strip => []
    | .clip => lines.first.toList
    | .keep => lines.others ++ lines.first.toList
  String.ofList (ending ++ lines.reversed).reverse

end Lines

/-- The lines of a scalar that are indented by `indent`, and what follows them. -/
def scan (folded : Bool) (indent : Nat) :
    Place → Lines → Mark → List Char → Except Misreading (Lines × Cursor)
  | _, lines, mark, [] => .ok (lines, ⟨mark, []⟩)
  | .line, lines, mark, '\r' :: '\n' :: rest =>
      scan folded indent .margin { lines with first := some '\n' } (mark.newLine 2) rest
  | .line, lines, mark, c :: rest =>
      if isBreak c then
        scan folded indent .margin { lines with first := some (normalBreak c) } (mark.newLine 1)
          rest
      else scan folded indent .line { lines with reversed := c :: lines.reversed } mark.next rest
  | .margin, lines, mark, '\r' :: '\n' :: rest =>
      scan folded indent .margin { lines with others := '\n' :: lines.others } (mark.newLine 2)
        rest
  | .margin, lines, mark, c :: rest =>
      if isBreak c then
        scan folded indent .margin { lines with others := normalBreak c :: lines.others }
          (mark.newLine 1) rest
      else if indent ≤ mark.column then
        scan folded indent .line (lines.start folded c) mark.next rest
      else if c == ' ' then scan folded indent .margin lines mark.next rest
      else if c == '\t' then .error ⟨.blockScalar, .tabInMargin, mark⟩
      else .ok (lines, ⟨mark, c :: rest⟩)

/-- The text of a block scalar after its indicator, and what follows it. -/
def read (folded : Bool) (around : Option Nat) (cursor : Cursor) :
    Except Misreading (String × Cursor) := do
  let (header, rest) ← readHeader cursor
  let rest := rest.skipComment
  if atLineEnd rest.text then
    let lines := rest.skipBreak
    let indent ← indent header around lines
    let (found, rest) ← scan folded indent .margin {} lines.mark lines.text
    return (found.text header.chomping, rest)
  else throw ⟨.blockScalar, .noLineEnd, rest.mark⟩

end BlockScalar

end Workflow.Yaml
