import Mathlib.Data.List.Forall2
import Workflow.Proofs.CommandFile.BlockComments
import Workflow.Proofs.Sessions

/-!
# Changes of single lines

The only thing that one line of a file passes on to the lines below it is whether a block comment
is open.  A line that starts neither with `/*` nor with `*/` passes on what it was given, whatever
else is wrong with it.  So the other lines are read as the same commands when such lines are
exchanged for each other, and an open quote or parenthesis does not reach beyond its line.
-/

namespace Workflow.CommandFile

open Text

/-- A line without a mark of block comments: trimmed, it starts with neither of the two. -/
structure IsUnmarked (line : List Char) : Prop where
  opensNone : ¬ ['/', '*'] <+: trim line
  closesNone : ¬ ClosesBlock line

/-- A line and what it is changed to: either it is kept, or both versions are without a mark. -/
inductive Alters : List Char → List Char → Prop where
  | kept (line : List Char) : Alters line line
  | rewritten {before after : List Char} (unmarked : IsUnmarked before)
      (stillUnmarked : IsUnmarked after) : Alters before after

/-- As many lines on the left as on the right, which differ in the line `index` at most. -/
structure DifferAt (index : Nat) (left right : List (List Char)) : Prop where
  length_eq : left.length = right.length
  elsewhere : ∀ other, other ≠ index → left[other]? = right[other]?

/-- There is exactly one command for each line: in order, with its number and its text. -/
structure IsOneForEach (commands : List Command) (content : List (List Char)) : Prop where
  length_eq : commands.length = content.length
  each : ∀ index command, commands[index]? = some command →
    command.line = index + 1 ∧ content[index]? = some command.text.toList

instance (line : List Char) : Decidable (IsUnmarked line) :=
  decidable_of_iff (¬ ['/', '*'] <+: trim line ∧ ¬ ClosesBlock line)
    ⟨fun ⟨opensNone, closesNone⟩ => ⟨opensNone, closesNone⟩,
      fun ⟨opensNone, closesNone⟩ => ⟨opensNone, closesNone⟩⟩

/-! ## What lines pass on -/

section

variable {left right : List (List Char)} {line before after : List Char} {index : Nat}

/-- A line without a mark leaves a block comment open or closed, as it was above. -/
theorem isOpenBehind_of_isUnmarked (unmarked : IsUnmarked line) (isOpen : Bool) :
    isOpenBehind isOpen line = isOpen := by
  have unclosed : closesComment (trim line) = false :=
    eq_false_of_ne_true (mt closesComment_iff.mp unmarked.closesNone)
  rw [isOpenBehind, if_neg (mt opensComment_iff.mp unmarked.opensNone), unclosed, Bool.not_false,
    Bool.and_true]

/-- A line passes on the same before and after it is altered. -/
theorem Alters.isOpenBehind_eq (alters : Alters before after) (isOpen : Bool) :
    isOpenBehind isOpen before = isOpenBehind isOpen after := by
  cases alters with
  | kept => rfl
  | rewritten unmarked stillUnmarked =>
      rw [isOpenBehind_of_isUnmarked unmarked, isOpenBehind_of_isUnmarked stillUnmarked]

/-- Altered lines pass on the same as the lines before. -/
theorem foldl_isOpenBehind_eq (altered : List.Forall₂ Alters left right) (isOpen : Bool) :
    left.foldl isOpenBehind isOpen = right.foldl isOpenBehind isOpen := by
  induction altered generalizing isOpen with
  | nil => rfl
  | cons alters _ ih => rw [List.foldl_cons, List.foldl_cons, alters.isOpenBehind_eq, ih]

/-- However many lines are altered, a line that is kept is read as the same command. -/
theorem getElem?_readLines_of_altered (registry : Registry) (isOpen : Bool) (number : Nat)
    (altered : List.Forall₂ Alters left right) (same : left[index]? = right[index]?) :
    (readLines registry isOpen number left)[index]? =
      (readLines registry isOpen number right)[index]? := by
  rw [getElem?_readLines, getElem?_readLines, same,
    foldl_isOpenBehind_eq (List.forall₂_take index altered)]

/-- A difference in one line without a mark alters this line and keeps the others. -/
theorem DifferAt.altered (differ : DifferAt index left right)
    (unmarked : ∀ line, left[index]? = some line → IsUnmarked line)
    (stillUnmarked : ∀ line, right[index]? = some line → IsUnmarked line) :
    List.Forall₂ Alters left right := by
  refine List.forall₂_iff_get.mpr ⟨differ.length_eq, ?_⟩
  intro position inLeft inRight
  have onLeft : left[position]? = some left[position] := List.getElem?_eq_getElem inLeft
  have onRight : right[position]? = some right[position] := List.getElem?_eq_getElem inRight
  rw [List.get_eq_getElem, List.get_eq_getElem]
  by_cases here : position = index
  · subst here
    exact .rewritten (unmarked _ onLeft) (stillUnmarked _ onRight)
  · have same : left[position] = right[position] := by
      rw [← Option.some_inj, ← onLeft, ← onRight]
      exact differ.elsewhere position here
    rw [same]
    exact .kept _

end

/-! ## The commands of a text -/

theorem text_readBelow (registry : Registry) (isOpen : Bool) (number : Nat) (line : List Char) :
    (readBelow registry isOpen number line).text = String.ofList line := by
  rw [readBelow]
  split
  · rfl
  · exact (text_readLenient registry number line).1

/-- Every text is read as exactly one command for each of its lines. -/
theorem isOneForEach_read (registry : Registry) (text : String) :
    IsOneForEach (read registry text) (lines text.toList) := by
  constructor
  case length_eq => rw [read, length_readLines]
  case each =>
    intro index command here
    refine ⟨isNumbered_read registry text index command here, ?_⟩
    rw [read, getElem?_readLines] at here
    obtain ⟨line, held, rfl⟩ := Option.map_eq_some_iff.mp here
    rw [held, text_readBelow, String.toList_ofList]

/-- If two texts have the same number of lines and differ in one line only, neither version of
which starts with `/*` or with `*/` behind its blanks, all other lines are read as the same
commands: with the same numbers, kinds, names and parameters, and so with the same warnings and
annotations.  Each text is read as exactly one command for each line, whatever stands on the line
in which they differ. -/
theorem read_agrees_elsewhere (registry : Registry) {left right : String} {index : Nat}
    (differ : DifferAt index (lines left.toList) (lines right.toList))
    (unmarked : ∀ line, (lines left.toList)[index]? = some line → IsUnmarked line)
    (stillUnmarked : ∀ line, (lines right.toList)[index]? = some line → IsUnmarked line) :
    (∀ other, other ≠ index → (read registry left)[other]? = (read registry right)[other]?) ∧
      IsOneForEach (read registry left) (lines left.toList) ∧
      IsOneForEach (read registry right) (lines right.toList) := by
  refine ⟨?_, isOneForEach_read registry left, isOneForEach_read registry right⟩
  intro other elsewhere
  exact getElem?_readLines_of_altered registry false 1 (differ.altered unmarked stillUnmarked)
    (differ.elsewhere other elsewhere)

/-- A call with a quote that is left open, above a block comment, in a file with another line that
cannot be read. -/
def openQuote : String :=
  "Exit(\nMessage(Message=\"a\n/*\nMessage(Message=\"b\")\n*/\nMesage(Message=c)"

/-- The same file with the call removed from the line. -/
def withoutCall : String := "Exit(\n\n/*\nMessage(Message=\"b\")\n*/\nMesage(Message=c)"

theorem read_agrees_elsewhere_openQuote :
    (DifferAt 1 (lines openQuote.toList) (lines withoutCall.toList) ∧
      (∀ line, (lines openQuote.toList)[1]? = some line → IsUnmarked line) ∧
      (∀ line, (lines withoutCall.toList)[1]? = some line → IsUnmarked line)) ∧
    (∀ other, other ≠ 1 → (read Builtin.registry openQuote)[other]? =
      (read Builtin.registry withoutCall)[other]?) ∧
    IsOneForEach (read Builtin.registry openQuote) (lines openQuote.toList) ∧
    IsOneForEach (read Builtin.registry withoutCall) (lines withoutCall.toList) := by
  have openLines : lines openQuote.toList =
      ["Exit(".toList, "Message(Message=\"a".toList, "/*".toList,
        "Message(Message=\"b\")".toList, "*/".toList, "Mesage(Message=c)".toList] := by
    decide
  have otherLines : lines withoutCall.toList =
      ["Exit(".toList, [], "/*".toList, "Message(Message=\"b\")".toList, "*/".toList,
        "Mesage(Message=c)".toList] := by
    decide
  have differ : DifferAt 1 (lines openQuote.toList) (lines withoutCall.toList) := by
    rw [openLines, otherLines]
    refine ⟨rfl, ?_⟩
    intro other elsewhere
    match other with
    | 0 => rfl
    | 1 => exact absurd rfl elsewhere
    | _ + 2 => rfl
  have unmarked : ∀ line, (lines openQuote.toList)[1]? = some line → IsUnmarked line := by
    intro line here
    rw [openLines] at here
    cases here
    decide
  have stillUnmarked : ∀ line, (lines withoutCall.toList)[1]? = some line → IsUnmarked line := by
    intro line here
    rw [otherLines] at here
    cases here
    decide
  exact ⟨⟨differ, unmarked, stillUnmarked⟩,
    read_agrees_elsewhere Builtin.registry differ unmarked stillUnmarked⟩

end Workflow.CommandFile
