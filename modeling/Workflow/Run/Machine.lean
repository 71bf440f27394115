import Workflow.Run.Frame
import Workflow.Run.Preparation

/-!
# The machine that runs a plan

A plan is a list of commands to run, with their places in the command list.  The machine stands
at a position of the plan, holds the open blocks with the innermost first, and keeps the record
of every execution of every command.  Its budget is the number of loop passes that may still
start; every move either goes ahead in the plan or spends some of the budget, so a run ends.
-/

namespace Workflow.Run

/-- A command of a plan, with its place in the command list. -/
structure Planned where
  index : Nat
  command : Command

/-- The commands to run, in order. -/
abbrev Plan := Array Planned

/-- The state of a run.  `executions` holds for every position of the plan the records of the
executions there, the latest first. -/
structure Machine where
  position : Nat
  frames : List Frame
  budget : Nat
  workspace : Workspace
  files : FileSystem
  cancelled : Bool
  haltOnFailure : Bool
  exitRequested : Bool
  executions : Array (List StatusRecord)

/-- Where a run goes after a command.  A move that starts a pass of a loop leaves a smaller
budget. -/
inductive Move (budget : Nat) where
  /-- To the command after as many skipped ones. -/
  | ahead (skipped : Nat)
  /-- Into a loop that was just opened. -/
  | enter (left : Fin budget)
  /-- Back to the command after the one at `start`, which opened a loop. -/
  | again (start : Nat) (left : Fin budget)

/-- What a command makes of the scene and the open blocks, and where the run goes. -/
structure Turn (budget : Nat) where
  scene : Scene
  frames : List Frame
  move : Except Fault (Move budget)

namespace Machine

/-- The scene that the next command finds, with a fresh record. -/
def scene (machine : Machine) : Scene where
  workspace := machine.workspace
  files := machine.files
  cancelled := machine.cancelled
  haltOnFailure := machine.haltOnFailure
  exitRequested := machine.exitRequested
  status := .fresh

/-- The machine after an execution at its position has left the scene. -/
def absorb (machine : Machine) (scene : Scene) : Machine :=
  { machine with
    workspace := scene.workspace
    files := scene.files
    cancelled := scene.cancelled
    haltOnFailure := scene.haltOnFailure
    exitRequested := scene.exitRequested
    executions := machine.executions.modify machine.position (scene.status :: ·) }

/-- The machine with one more execution recorded at a position. -/
def recordAt (machine : Machine) (position : Nat) (status : StatusRecord) : Machine :=
  { machine with executions := machine.executions.modify position (status :: ·) }

/-- The machine after a move. -/
def go (machine : Machine) (move : Move machine.budget) : Machine :=
  match move with
  | .ahead skipped => { machine with position := machine.position + 1 + skipped }
  | .enter left => { machine with position := machine.position + 1, budget := left }
  | .again start left => { machine with position := start + 1, budget := left }

/-- A number that falls with every move inside a plan of the given size. -/
def distance (size : Nat) (machine : Machine) : Nat :=
  machine.budget * (size + 1) + (size - machine.position)

theorem distance_go_lt {size : Nat} {machine : Machine} (inside : machine.position < size)
    (move : Move machine.budget) :
    (machine.go move).distance size < machine.distance size := by
  have spend (left : Fin machine.budget) :
      left.val * (size + 1) + (size + 1) ≤ machine.budget * (size + 1) := by
    have := Nat.mul_le_mul_right (size + 1) left.isLt
    rwa [Nat.succ_mul] at this
  cases move with
  | ahead skipped => simp only [go, distance]; omega
  | enter left => have := spend left; simp only [go, distance]; omega
  | again start left => have := spend left; simp only [go, distance]; omega

end Machine

end Workflow.Run
