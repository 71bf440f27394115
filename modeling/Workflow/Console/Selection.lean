import Workflow.Error

/-!
# Line selections

A selection names lines of a command file by number: single lines and ranges, with commas
between them.  The lines of its items are gathered and sorted, and repetitions are left out, so the
order of the items and overlaps between them do not matter.
-/

namespace Workflow.Selection

/-- The line number that a text spells, which must be one of the lines of the file. -/
def line (count : Nat) (text : List Char) : Except SelectionFault Nat :=
  let trimmed := Text.trim text
  match Decimal.readUnsigned trimmed with
  | none => .error (.notNumber (String.ofList trimmed))
  | some number =>
      if number = 0 ∨ count < number then .error (.outside number count) else .ok number

/-- The first and the last line of an item. -/
def item (count : Nat) (text : List Char) : Except SelectionFault (Nat × Nat) :=
  if Text.trim text = [] then .error .emptyItem
  else
    match Text.splitOnce (· == '-') text with
    | none => do
        let only ← line count text
        .ok (only, only)
    | some (before, after) => do
        let first ← line count before
        let last ← line count after
        if last < first then .error (.reversed (String.ofList (Text.trim text)))
        else .ok (first, last)

/-- The ranges of lines of all items. -/
def ranges (count : Nat) : List (List Char) → Except SelectionFault (List (Nat × Nat))
  | [] => .ok []
  | text :: rest => do
      let range ← item count text
      let others ← ranges count rest
      .ok (range :: others)

/-- The indices of the lines of all ranges, one range after the other. -/
def gathered (ranges : List (Nat × Nat)) : List Nat :=
  ranges.flatMap fun (first, last) => List.range' (first - 1) (last + 1 - first)

/-- The indices of the lines of all ranges in order, with those that several ranges hold once. -/
def indices (ranges : List (Nat × Nat)) : List Nat := (gathered ranges).mergeSort.eraseReps

/-- The indices of the lines that a selection denotes in a file with the given number of
lines. -/
def read (selection : String) (count : Nat) : Except Error (List Nat) :=
  match ranges count (Text.commaPieces selection.toList) with
  | .ok found => .ok (indices found)
  | .error fault => .error (.selection selection fault)

end Workflow.Selection
