import Workflow.Yaml.Character

/-!
# Places in YAML texts

A mark is a place between two characters of a text.  Messages give its line and its column, both
counted from one, but say nothing of a place at the very start.  A cursor is a mark together with
the text behind it.
-/

namespace Workflow.Yaml

/-- A place in a text. -/
structure Mark where
  /-- The number of characters before it. -/
  index : Nat := 0
  /-- The number of breaks before it. -/
  line : Nat := 0
  /-- The number of characters before it on its line. -/
  column : Nat := 0
  deriving DecidableEq, Repr, Inhabited

namespace Mark

/-- The place after a character that ends no line. -/
def next (mark : Mark) : Mark := { mark with index := mark.index + 1, column := mark.column + 1 }

/-- The place after a break of as many characters. -/
def newLine (mark : Mark) (characters : Nat) : Mark :=
  ⟨mark.index + characters, mark.line + 1, 0⟩

/-- The start of the next line, unless the place is the start of a line itself. -/
def atLineStart (mark : Mark) : Mark :=
  if mark.column = 0 then mark else { mark with line := mark.line + 1, column := 0 }

/-- Whether two places have the same line and the same column. -/
def meets (mark other : Mark) : Bool := mark.line == other.line && mark.column == other.column

/-- How a message tells the place, behind what it tells about it. -/
def suffix (mark : Mark) : String :=
  if mark.meets {} then "" else s!" at line {mark.line + 1} column {mark.column + 1}"

end Mark

/-- What is left of a text, and the place where that starts. -/
structure Cursor where
  mark : Mark
  text : List Char

namespace Cursor

/-- The cursor behind one character that ends no line. -/
def tail (cursor : Cursor) : Cursor := ⟨cursor.mark.next, cursor.text.tail⟩

/-- The characters in front that satisfy `accepts`, which no break does, and the cursor behind
them. -/
def takeWhile (accepts : Char → Bool) (cursor : Cursor) : List Char × Cursor :=
  go cursor.mark [] cursor.text
where
  /-- The characters in `reversed` were taken before. -/
  go (mark : Mark) (reversed : List Char) : List Char → List Char × Cursor
    | [] => (reversed.reverse, ⟨mark, []⟩)
    | c :: rest =>
        if accepts c then go mark.next (c :: reversed) rest
        else (reversed.reverse, ⟨mark, c :: rest⟩)

/-- The cursor behind the characters in front that satisfy `accepts`, which no break does. -/
def dropWhile (accepts : Char → Bool) (cursor : Cursor) : Cursor := (cursor.takeWhile accepts).2

/-- The cursor behind blanks. -/
def skipBlanks (cursor : Cursor) : Cursor := cursor.dropWhile isBlank

/-- The cursor behind blanks and a comment. -/
def skipComment (cursor : Cursor) : Cursor :=
  let rest := cursor.skipBlanks
  if rest.text.head? = some '#' then rest.dropWhile fun c => !isBreak c else rest

/-- The cursor behind a break, if there is one. -/
def skipBreak (cursor : Cursor) : Cursor :=
  match cursor.text with
  | '\r' :: '\n' :: rest => ⟨cursor.mark.newLine 2, rest⟩
  | c :: rest => if isBreak c then ⟨cursor.mark.newLine 1, rest⟩ else cursor
  | [] => cursor

end Cursor

/-- What was found between two places of a text. -/
structure Located (α : Type) where
  value : α
  start : Mark
  stop : Mark
  deriving DecidableEq, Repr

end Workflow.Yaml
