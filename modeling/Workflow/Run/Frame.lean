import Workflow.Definition
import Workflow.Value

/-!
# Open blocks

While a block is open, a frame remembers its name and where it was opened; the frame of a loop
also holds the values of the loop and the place of the current one.  Faults of the block
structure make the rest of a run meaningless.
-/

namespace Workflow.Run

/-- An open block.  `start` is the place in the plan where it was opened. -/
inductive Frame where
  | loop (name iterator : String) (values : Array Value) (current start : Nat)
  | conditional (name : String) (start : Nat)

namespace Frame

/-- The name of the block. -/
def name : Frame → String
  | .loop name _ _ _ _ | .conditional name _ => name

/-- The place in the plan where the block was opened. -/
def start : Frame → Nat
  | .loop _ _ _ _ start | .conditional _ start => start

/-- The kind of the block. -/
def kind : Frame → BlockKind
  | .loop _ _ _ _ _ => .loop
  | .conditional _ _ => .conditional

/-- Whether the frame belongs to a block of this kind and name. -/
def isOf (kind : BlockKind) (name : String) (frame : Frame) : Bool :=
  frame.kind == kind && frame.name == name

end Frame

/-- What makes the block structure of a run unusable. -/
inductive Fault where
  | missingTerminator (command terminator name : String) (line : Nat)
  | improperNesting (command name innermost : String) (line : Nat)
  | duplicateName (command name : String) (line : Nat)
  | iterationLimit (limit : Nat)
  deriving DecidableEq, Repr

/-- The wording of a fault. -/
def Fault.message : Fault → String
  | .missingTerminator command terminator name line =>
      s!"{command}(Name=\"{name}\") at line {line} has no matching {terminator}"
  | .improperNesting command name innermost line =>
      s!"{command}(Name=\"{name}\") at line {line} closes a block while `{innermost}` " ++
        "is still open inside it"
  | .duplicateName command name line =>
      s!"{command}(Name=\"{name}\") at line {line} is nested inside a block with the same name"
  | .iterationLimit limit => s!"Loops iterated more than {limit} times"

/-- How a run ended.  The indices are those of commands in the list. -/
inductive Ending where
  /-- The plan was done to its end. -/
  | finished
  | exited (index : Nat)
  | haltedOnFailure (index : Nat)
  | cancelled
  | faulted (fault : Fault)
  deriving DecidableEq, Repr

namespace Ending

/-- Why the run was aborted, if it was. -/
def abortReason? : Ending → Option String
  | .cancelled => some "run cancelled"
  | .faulted fault => some fault.message
  | _ => none

/-- Whether the run was aborted. -/
def isAborted (ending : Ending) : Bool := ending.abortReason?.isSome

end Ending

end Workflow.Run
