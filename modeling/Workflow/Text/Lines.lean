/-!
# The lines of a text

A line ends at a line feed or at a carriage return followed by a line feed.  The last
line needs no ending, and a text that ends with a line ending has no empty last line.
A carriage return elsewhere belongs to its line.
-/

namespace Workflow.Text

/-- The lines of a text without their endings. -/
def lines : List Char → List (List Char)
  | [] => []
  | '\n' :: text => [] :: lines text
  | '\r' :: '\n' :: text => [] :: lines text
  | c :: text =>
      match lines text with
      | [] => [[c]]
      | line :: rest => (c :: line) :: rest

/-- The text with a line feed after every line. -/
def unlines (content : List (List Char)) : List Char := content.flatMap (· ++ ['\n'])

example : lines "a\r\n\nb\r".toList = ["a".toList, [], "b\r".toList] := by decide

end Workflow.Text
