/-!
# Tables of ranges

Classes of characters with many members are tables of closed ranges of code points, ascending
and apart.  A look-up in a table halves it at every step.
-/

namespace Workflow.Text

/-- Whether a code point lies in a range between positions `low` and `high` of an ascending
table; `steps` bounds the number of halvings. -/
def searchRanges (ranges : Array (Nat × Nat)) (code : Nat) : (steps low high : Nat) → Bool
  | 0, _, _ => false
  | steps + 1, low, high =>
      if low < high then
        let middle := (low + high) / 2
        match ranges[middle]? with
        | none => false
        | some range =>
            if code < range.1 then searchRanges ranges code steps low middle
            else if range.2 < code then searchRanges ranges code steps (middle + 1) high
            else true
      else false

/-- Whether a code point lies in a range of an ascending table of fewer than `2 ^ 16` ranges. -/
def inTable (ranges : Array (Nat × Nat)) (code : Nat) : Bool :=
  searchRanges ranges code 16 0 ranges.size

end Workflow.Text
