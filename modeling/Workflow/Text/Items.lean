import Workflow.Text.Blank
import Workflow.Text.Search

/-!
# Comma-separated items

The items of a text stand between commas.  Blanks around an item do not belong to it, and an
item that is blank does not count.
-/

namespace Workflow.Text

def items (text : String) : List String :=
  ((commaPieces text.toList).map trim).filterMap fun item =>
    if item = [] then none else some (String.ofList item)

end Workflow.Text
