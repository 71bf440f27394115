import Workflow.Error
import Workflow.OrderedMap

/-!
# Property assignments

A property is set on the command line by its name, an equals sign and its value.  The value may
hold further equals signs; of several assignments to one name the last counts.
-/

namespace Workflow.Assignment

/-- The name and the value of an assignment. -/
def read (text : String) : Except Error (String × String) :=
  match Text.splitOnce (· == '=') text.toList with
  | none => .error (.assignmentForm text)
  | some (before, after) =>
      let name := String.ofList (Text.trim before)
      if Identifier.isValid name then .ok (name, String.ofList after)
      else .error (.assignmentForm text)

/-- The properties that several assignments set. -/
def readAll (texts : List String) : Except Error (OrderedMap String) := do
  let pairs ← texts.mapM read
  .ok (.ofList pairs)

end Workflow.Assignment
