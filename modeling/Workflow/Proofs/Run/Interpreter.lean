import Workflow.Nested
import Workflow.Proofs.Run.Program

/-!
# The interpretation of a program

A program is interpreted by recursion over its tree, without places to jump to and without open
blocks.  A loop finds out its values once and interprets its body for each of them in order; a
condition interprets its body once or not at all.  An interpretation is cut short by a command
that ends the run, by a failure under a policy that halts, by a cancellation, and by the limit on
loop passes.
-/

namespace Workflow.Run

/-- What a run changes apart from its place: what the commands share, the number of loop passes
that may still start, and a journal of all executions, the latest first. -/
structure Store where
  budget : Nat
  workspace : Workspace
  files : FileSystem
  cancelled : Bool
  haltOnFailure : Bool
  exitRequested : Bool
  /-- The place of the command and the record of each execution. -/
  journal : List (Nat × StatusRecord)

/-- What an interpretation leads to. -/
inductive Flow where
  | goes (store : Store)
  | ends (store : Store) (ending : Ending)

namespace Flow

/-- The flow with what comes after it, unless it has come to an end. -/
def andThen (flow : Flow) (next : Store → Flow) : Flow :=
  match flow with
  | .goes store => next store
  | .ends store ending => .ends store ending

/-- The store at the end of a flow, and how the run ended. -/
def result : Flow → Store × Ending
  | .goes store => (store, .finished)
  | .ends store ending => (store, ending)

end Flow

namespace Store

/-- The scene that the next command finds, with a fresh record. -/
def scene (store : Store) : Scene where
  workspace := store.workspace
  files := store.files
  cancelled := store.cancelled
  haltOnFailure := store.haltOnFailure
  exitRequested := store.exitRequested
  status := .fresh

/-- The store with one more execution in its journal. -/
def note (store : Store) (index : Nat) (status : StatusRecord) : Store :=
  { store with journal := (index, status) :: store.journal }

/-- The store after an execution has left the scene. -/
def absorb (store : Store) (index : Nat) (scene : Scene) : Store :=
  { store.note index scene.status with
    workspace := scene.workspace
    files := scene.files
    cancelled := scene.cancelled
    haltOnFailure := scene.haltOnFailure
    exitRequested := scene.exitRequested }

/-- The records of the executions of the command at a place, the latest first. -/
def executionsAt (store : Store) (index : Nat) : List StatusRecord :=
  (store.journal.filter fun entry => entry.1 == index).map Prod.snd

/-- The flow of an execution: nothing is executed once the run was cancelled. -/
def attempt (store : Store) (index : Nat) (perform : Scene → Flow) : Flow :=
  if store.cancelled then .ends (store.note index (failureRecord "Run cancelled")) .cancelled
  else perform store.scene

/-- The flow after an execution has left the scene. -/
def complete (store : Store) (index : Nat) (scene : Scene) : Flow :=
  if scene.exitRequested then .ends (store.absorb index scene) (.exited index)
  else if scene.haltOnFailure && scene.status.hasFailure then
    .ends (store.absorb index scene) (.haltedOnFailure index)
  else .goes (store.absorb index scene)

/-- The flow after an execution that made the rest of the run meaningless. -/
def abort (store : Store) (index : Nat) (scene : Scene) (fault : Fault) : Flow :=
  .ends (store.absorb index (scene.fail fault.message)) (.faulted fault)

/-- The flow of a line that does not open or close a block. -/
def runCommand (setting : Setting) (command : Command) (index : Nat) (store : Store) : Flow :=
  if command.isInert then .goes store
  else store.attempt index fun scene => store.complete index (execute setting command scene)

/-- The scene with a mark that the engine has done what the command asks for. -/
def performed (scene : Scene) : Scene :=
  { scene with status := scene.status.promote .run .success }

/-- The scene after a terminator, which is always valid. -/
def terminated (scene : Scene) : Scene :=
  performed { scene with status := scene.status.promote .validation .success }

/-- The flow after the command at `index` has started a pass of a loop. -/
def startPass (limit : Nat) (index : Nat) (iterator : String) (value : Value) (store : Store)
    (scene : Scene) : Flow :=
  match store.budget with
  | 0 => store.abort index scene (.iterationLimit limit)
  | left + 1 =>
      complete { store with budget := left } index
        (scene.withWorkspace (scene.workspace.setProperty iterator value))

/-- The flow of the passes behind the first one.  The terminator at `index` starts each of them
and is left behind when there are no more values. -/
def laterPasses (limit : Nat) (index : Nat) (iterator : String) (body : Store → Flow) :
    List Value → Store → Flow
  | [], store => store.attempt index fun scene => store.complete index (terminated scene)
  | value :: later, store =>
      (store.attempt index fun scene =>
        store.startPass limit index iterator value (terminated scene)).andThen fun store =>
          (body store).andThen (laterPasses limit index iterator body later)

/-- The flow of a loop that was validated.  `closing` is the place of its terminator. -/
def runPasses (setting : Setting) (name : String) (parameters : ParameterSet)
    (index closing : Nat) (body : Store → Flow) (store : Store) (scene : Scene) : Flow :=
  let limit := setting.surroundings.configuration.maxLoopIterations
  match Builtin.Loop.values parameters scene.workspace limit with
  | .error error => store.complete index (scene.fail error.message)
  | .ok values =>
      match values.toList with
      | [] => store.complete index (scene.inform s!"Loop `{name}` has no values; body skipped")
      | first :: later =>
          let iterator := Builtin.Loop.iterator parameters name
          (store.startPass limit index iterator first (performed scene)).andThen fun store =>
            (body store).andThen (laterPasses limit closing iterator body later)

/-- The flow of a condition that was validated. -/
def runBranch (name : String) (parameters : ParameterSet) (index closing : Nat)
    (body : Store → Flow) (store : Store) (scene : Scene) : Flow :=
  match Builtin.Conditional.holds parameters scene.workspace with
  | .error error => store.complete index (scene.fail error.message)
  | .ok false =>
      store.complete index (scene.inform s!"Condition of `{name}` is false; block skipped")
  | .ok true =>
      (store.complete index (performed scene)).andThen fun store =>
        (body store).andThen fun store =>
          store.attempt closing fun scene => store.complete closing (terminated scene)

/-- The flow of a block whose body has the given flow.  A block that cannot be validated only
leaves its own record. -/
def runBlock (setting : Setting) (kind : BlockKind) (opener : Command) (index closing : Nat)
    (body : Store → Flow) (store : Store) : Flow :=
  store.attempt index fun scene =>
    match prepare scene opener with
    | (scene, none) => store.complete index scene
    | (scene, some parameters) =>
        match kind with
        | .loop =>
            store.runPasses setting (writtenName opener) parameters index closing body scene
        | .conditional =>
            store.runBranch (writtenName opener) parameters index closing body scene

end Store

/-- The flow of a program whose first command is at `index`. -/
def interpret (setting : Setting) : Program → (index : Nat) → Store → Flow
  | .done, _, store => .goes store
  | .single command rest, index, store =>
      (store.runCommand setting command index).andThen (interpret setting rest (index + 1))
  | .block kind opener body _ rest, index, store =>
      (store.runBlock setting kind opener index (index + 1 + body.size)
        (interpret setting body (index + 1))).andThen
          (interpret setting rest (index + 1 + body.size + 1))

end Workflow.Run

namespace Workflow.Processor

/-- The store at the start of an interpretation. -/
def store (processor : Processor) (files : FileSystem) : Run.Store where
  budget := processor.configuration.maxLoopIterations
  workspace := processor.workspace
  files := files
  cancelled := processor.cancelled
  haltOnFailure := processor.configuration.haltOnFailure
  exitRequested := false
  journal := []

/-- What the interpretation of a program leaves behind. -/
def interpret (processor : Processor) (files : FileSystem) (program : Run.Program) : Run :=
  let (store, ending) :=
    (Run.interpret (processor.setting processor.runFile) program 0 (processor.store files)).result
  let commands := program.commands.mapIdx fun index command =>
    { command with status := .combine (store.executionsAt index).reverse }
  { processor :=
      { processor with
        commands
        workspace := store.workspace
        state := if ending.isAborted then .aborted else .completed
        cancelled := store.cancelled }
    files := store.files
    result := .ofCommands commands ending }

end Workflow.Processor
