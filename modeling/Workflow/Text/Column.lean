/-!
# Fixed-width columns

A column pads a text with spaces up to a width counted in characters.  Longer texts
are never cut.
-/

namespace Workflow.Text

/-- Spaces that bring a text of the given length up to `width`. -/
def padding (width length : Nat) : String := String.ofList (List.replicate (width - length) ' ')

/-- The text at the left of a column. -/
def padRight (width : Nat) (text : String) : String := text ++ padding width text.length

/-- The text at the right of a column. -/
def padLeft (width : Nat) (text : String) : String := padding width text.length ++ text

end Workflow.Text
