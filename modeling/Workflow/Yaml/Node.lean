import Workflow.Yaml.Event

/-!
# Documents as nodes

A document is a tree of scalars, sequences and mappings in the order in which they are written.
Where a fault cuts off the events of a document, the node that would come next holds the fault;
so the nodes before it can still be looked at.
-/

namespace Workflow.Yaml

/-- A node of a document. -/
inductive Node where
  /-- A scalar with the full name of its tag, if it has one. -/
  | scalar (mark : Mark) (tag : Option String) (style : ScalarStyle) (text : String)
  | sequence (mark : Mark) (items : List Node)
  | mapping (mark : Mark) (entries : List (Node × Node))
  | alias (anchor : Nat)
  /-- A node that was not reached. -/
  | missing (fault : Fault)
  deriving Repr, Inhabited

namespace Node

/-- The node where nothing is written. -/
def empty : Node := .scalar {} none .plain ""

def mark : Node → Mark
  | .scalar mark .. | .sequence mark _ | .mapping mark _ => mark
  | .alias _ | .missing _ => {}

def text? : Node → Option String
  | .scalar _ _ _ text => some text
  | _ => none

/-- The entries of a mapping whose keys and values take turns. -/
def pairs : List Node → List (Node × Node)
  | key :: value :: rest => (key, value) :: pairs rest
  | [key] => [(key, key)]
  | [] => []

mutual

def fault? : Node → Option Fault
  | .missing fault => some fault
  | .sequence _ items => faultAmong? items
  | .mapping _ entries => faultInEntries? entries
  | .scalar .. | .alias _ => none

/-- The fault that cuts off one of some nodes. -/
def faultAmong? : List Node → Option Fault
  | [] => none
  | node :: rest => (fault? node).or (faultAmong? rest)

/-- The fault that cuts off one of some entries. -/
def faultInEntries? : List (Node × Node) → Option Fault
  | [] => none
  | (key, value) :: rest => ((fault? key).or (fault? value)).or (faultInEntries? rest)

end

end Node

/-- A collection whose end was not reached yet, with its nodes in reverse order. -/
structure OpenNode where
  isMapping : Bool
  anchor : Option Nat
  mark : Mark
  reversed : List Node := []

/-- The collection with the nodes that were found. -/
def OpenNode.close (node : OpenNode) : Node :=
  if node.isMapping then .mapping node.mark (Node.pairs node.reversed.reverse)
  else .sequence node.mark node.reversed.reverse

/-- A document that is being built: its open collections, the innermost first, the outermost
node once it is there, and the anchored nodes by number. -/
structure NodeBuilder where
  opened : List OpenNode := []
  root : Option Node := none
  anchored : List (Nat × Node) := []

namespace NodeBuilder

def start (builder : NodeBuilder) : Option Nat → NodeBuilder
  | none => builder
  | some anchor =>
      { builder with anchored := builder.anchored.filter fun entry => entry.1 != anchor }

/-- A node with the given anchor is complete.  The number of its anchor belongs to it unless a
node inside of it has taken the number. -/
def add (builder : NodeBuilder) (anchor : Option Nat) (node : Node) : NodeBuilder :=
  let anchored := match anchor with
    | none => builder.anchored
    | some number =>
        if (builder.anchored.lookup number).isSome then builder.anchored
        else (number, node) :: builder.anchored
  match builder.opened with
  | [] => { builder with root := some node, anchored }
  | parent :: rest =>
      let parent := { parent with reversed := node :: parent.reversed }
      { builder with opened := parent :: rest, anchored }

/-- A collection starts. -/
def enter (builder : NodeBuilder) (isMapping : Bool) (anchor : Option Nat) (mark : Mark) :
    NodeBuilder :=
  let builder := builder.start anchor
  { builder with opened := { isMapping, anchor, mark } :: builder.opened }

/-- The innermost open collection ends. -/
def leave (builder : NodeBuilder) : NodeBuilder :=
  match builder.opened with
  | [] => builder
  | node :: rest => { builder with opened := rest }.add node.anchor node.close

/-- The document with one more event. -/
def step (builder : NodeBuilder) : Event × Mark → NodeBuilder
  | (.scalar anchor tag style text, mark) =>
      (builder.start anchor).add anchor (.scalar mark tag style text)
  | (.alias anchor, _) => builder.add none (.alias anchor)
  | (.sequenceStart anchor, mark) => builder.enter false anchor mark
  | (.mappingStart anchor, mark) => builder.enter true anchor mark
  | (.sequenceEnd, _) | (.mappingEnd, _) => builder.leave

/-- The document where a fault cuts off what is open. -/
def cutOff (builder : NodeBuilder) (fault : Fault) : NodeBuilder :=
  if builder.opened = [] && builder.root.isSome then builder
  else builder.opened.foldl (fun builder _ => builder.leave) (builder.add none (.missing fault))

end NodeBuilder

/-- A document: its outermost node, the anchored nodes by number, how often an alias may be
followed in it, and what is wrong with it or behind it. -/
structure Document where
  root : Node
  anchored : List (Nat × Node) := []
  maxAliases : Nat := 0
  fault : Option Fault := none

namespace Document

/-- How many aliases may be followed for every event of a document. -/
def aliasesPerEvent : Nat := 100

def ofEvents (events : Events) : Document :=
  let built := events.found.foldl NodeBuilder.step {}
  let complete := match events.cut with
    | none => built
    | some fault => built.cutOff fault
  { root := complete.root.getD .empty
    anchored := complete.anchored
    maxAliases := aliasesPerEvent * events.found.length
    fault := events.cut.or events.behind }

/-- The document that could not be read. -/
def unread (fault : Fault) : Document where
  root := .missing fault
  fault := some fault

end Document

end Workflow.Yaml
