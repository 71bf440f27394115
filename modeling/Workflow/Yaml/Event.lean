import Workflow.Yaml.Fault
import Workflow.Yaml.Token

/-!
# Events of documents

The nodes of a document in the order in which they are written are a sequence of events: a
scalar is one event, and a collection has an event at its start and one at its end.  An alias
stands for an anchored node elsewhere in the document; both are kept as the number of the
anchor, because a node may hold an alias for itself.
-/

namespace Workflow.Yaml

/-- An event of a document, with the number of its anchor if it starts an anchored node. -/
inductive Event where
  /-- A scalar with the full name of its tag, if it has one. -/
  | scalar (anchor : Option Nat) (tag : Option String) (style : ScalarStyle) (text : String)
  | sequenceStart (anchor : Option Nat)
  | sequenceEnd
  | mappingStart (anchor : Option Nat)
  | mappingEnd
  | alias (anchor : Nat)
  deriving DecidableEq, Repr

/-- The scalar where nothing is written. -/
def Event.empty : Event := .scalar none none .plain ""

/-- The events of a document with their places.  A fault may cut them off, or stand behind
them. -/
structure Events where
  found : List (Event × Mark)
  /-- Why there are no more events of the document. -/
  cut : Option Fault
  /-- What is wrong with the text behind the document. -/
  behind : Option Fault

end Workflow.Yaml
