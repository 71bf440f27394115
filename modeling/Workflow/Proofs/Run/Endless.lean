import Workflow.Nested
import Workflow.Proofs.Builtin.Sequences
import Workflow.Proofs.Run.Skipping

/-!
# An engine without a cap on sequences

In this engine a loop over a sequence takes the whole of it, even if it has no end.  A command does
not know how many passes of loops have been started: it asks for a pass, and the run grants the
pass or is ended by the limit.
-/

namespace Workflow.Run

/-- A command that a run comes to, with the pass of a loop that it would start: the property that
is set and its value.  The machines before and after it do not show the values of open loops. -/
structure Dispatch where
  before : Machine
  planned : Planned
  pass? : Option (String × Value)
  after : Machine

/-- The number of passes that would start. -/
def passes (dispatches : List Dispatch) : Nat :=
  dispatches.countP fun dispatch => dispatch.pass?.isSome

theorem distance_finish_lt {machine next : Machine} {index size : Nat} {turn : Turn machine.budget}
    (inside : machine.position < size) (goes : finish machine index turn = .goes next) :
    next.distance size < machine.distance size := by
  simp only [finish] at goes
  split at goes
  · cases goes
  · next move _ =>
      split at goes
      · cases goes
      · split at goes
        · cases goes
        · cases goes
          exact @Machine.distance_go_lt _ (settle machine _ _) inside move

/-- What a run comes to, what it leaves behind, and how it ends. -/
structure Course where
  dispatches : List Dispatch
  last : Machine
  ending : Ending

namespace Endless

open Builtin.Loop (Supply supply)

/-- An open block.  A loop draws its values from a supply. -/
inductive Block where
  | loop (name iterator : String) (supply : Supply) (current start : Nat)
  | conditional (name : String) (start : Nat)

/-- The frame of a block, without values. -/
def Block.frame : Block → Frame
  | .loop name iterator _ current start => .loop name iterator #[] current start
  | .conditional name start => .conditional name start

/-- What a command asks for. -/
inductive Wish where
  /-- To go on behind as many skipped commands. -/
  | ahead (skipped : Nat)
  /-- To start a pass of the loop that was opened at `start`, with these open blocks. -/
  | pass (iterator : String) (value : Value) (start : Nat) (within : List Block)

/-- What a command makes of the scene and the open blocks, and what it asks for. -/
structure Request where
  scene : Scene
  blocks : List Block
  wish : Except Fault Wish

namespace Request

/-- The pass that is asked for. -/
def pass? (request : Request) : Option (String × Value) :=
  match request.wish with
  | .ok (.pass iterator value _ _) => some (iterator, value)
  | _ => none

/-- The open blocks if the request is granted. -/
def granted (request : Request) : List Block :=
  match request.wish with
  | .ok (.pass _ _ _ within) => within
  | _ => request.blocks

/-- The turn of a request.  A pass is granted unless as many as the limit have been started. -/
def turn (request : Request) (limit budget : Nat) : Turn budget :=
  let frames := request.blocks.map Block.frame
  match request.wish, budget with
  | .error fault, _ => ⟨request.scene, frames, .error fault⟩
  | .ok (.ahead skipped), _ => ⟨request.scene, frames, .ok (.ahead skipped)⟩
  | .ok (.pass _ _ _ _), 0 => ⟨request.scene, frames, .error (.iterationLimit limit)⟩
  | .ok (.pass iterator value start within), left + 1 =>
      let scene := request.scene.withWorkspace (request.scene.workspace.setProperty iterator value)
      { scene := { scene with status := scene.status.promote .run .success }
        frames := within.map Block.frame
        move := .ok (.again start ⟨left, Nat.lt_succ_self left⟩) }

end Request

section

variable (standing : Standing) (blocks : List Block) (scene : Scene)

/-- The request of a block that could not be validated. -/
def skipBlock (kind : BlockKind) : Request :=
  let name := writtenName standing.command
  match bodyLength? standing.plan standing.position kind name with
  | some bodyLength => ⟨scene, blocks, .ok (.ahead (bodyLength + 1))⟩
  | none => ⟨scene, blocks, .error (missingTerminator standing.command kind name)⟩

/-- The request of a loop that was validated and has a body. -/
def enterLoop (parameters : ParameterSet) (bodyLength : Nat) : Request :=
  let name := blockName parameters
  match supply parameters scene.workspace with
  | .error error => ⟨scene.fail error.message, blocks, .ok (.ahead (bodyLength + 1))⟩
  | .ok supply =>
      match supply 0 with
      | none =>
          ⟨scene.inform s!"Loop `{name}` has no values; body skipped", blocks,
            .ok (.ahead (bodyLength + 1))⟩
      | some first =>
          let iterator := Builtin.Loop.iterator parameters name
          ⟨scene, blocks, .ok (.pass iterator first standing.position
            (.loop name iterator supply 0 standing.position :: blocks))⟩

/-- The request of a condition that was validated and has a body. -/
def enterConditional (parameters : ParameterSet) (bodyLength : Nat) : Request :=
  let name := blockName parameters
  match Builtin.Conditional.holds parameters scene.workspace with
  | .error error => ⟨scene.fail error.message, blocks, .ok (.ahead (bodyLength + 1))⟩
  | .ok false =>
      ⟨scene.inform s!"Condition of `{name}` is false; block skipped", blocks,
        .ok (.ahead (bodyLength + 1))⟩
  | .ok true =>
      { scene := { scene with status := scene.status.promote .run .success }
        blocks := .conditional name standing.position :: blocks
        wish := .ok (.ahead 0) }

/-- The request of a command that opens a block. -/
def openBlock (kind : BlockKind) : Request :=
  match prepare scene standing.command with
  | (scene, none) => skipBlock standing blocks scene kind
  | (scene, some parameters) =>
      match enclosedBody standing.plan standing.position standing.frames standing.command kind
          (blockName parameters) with
      | .error fault => ⟨scene, blocks, .error fault⟩
      | .ok bodyLength =>
          match kind with
          | .loop => enterLoop standing blocks scene parameters bodyLength
          | .conditional => enterConditional standing blocks scene parameters bodyLength

/-- The request of a terminator that closes no open block. -/
def closeNothing (kind : BlockKind) (name : String) : Request :=
  let turn : Turn 0 := standing.closeNothing scene kind name
  ⟨turn.scene, blocks, .ok (.ahead 0)⟩

/-- The request of a terminator that closes the innermost block. -/
def closeInnermost (innermost : Block) (outer : List Block) : Request :=
  match innermost with
  | .conditional _ _ => ⟨scene, outer, .ok (.ahead 0)⟩
  | .loop name iterator supply current start =>
      match supply (current + 1) with
      | none => ⟨scene, outer, .ok (.ahead 0)⟩
      | some value =>
          ⟨scene, blocks, .ok (.pass iterator value start
            (.loop name iterator supply (current + 1) start :: outer))⟩

/-- The request of a terminator of the block with the given name. -/
def closeNamed (kind : BlockKind) (name : String) : Request :=
  match blocks with
  | [] => closeNothing standing blocks scene kind name
  | innermost :: outer =>
      if innermost.frame.isOf kind name then
        closeInnermost blocks { scene with status := scene.status.promote .run .success }
          innermost outer
      else if outer.any fun block => block.frame.isOf kind name then
        ⟨scene, blocks, .error (.improperNesting standing.command.name name innermost.frame.name
          standing.command.line)⟩
      else closeNothing standing blocks scene kind name

/-- The request of any command. -/
def request : Request :=
  match standing.command.role? with
  | some .openLoop => openBlock standing blocks scene .loop
  | some .openCondition => openBlock standing blocks scene .conditional
  | some .closeLoop =>
      closeNamed standing blocks (prepare scene standing.command).1 .loop
        (searchedName scene standing.command)
  | some .closeCondition =>
      closeNamed standing blocks (prepare scene standing.command).1 .conditional
        (searchedName scene standing.command)
  | none => ⟨execute standing.setting standing.command scene, blocks, .ok (.ahead 0)⟩

end

/-- The state of a run.  The frames of the engine are those of the open blocks. -/
structure Machine where
  base : Run.Machine
  blocks : List Block

/-- What one step leads to. -/
inductive Progress where
  | goes (machine : Machine)
  | ends (last : Run.Machine) (ending : Ending)

/-- The progress of the engine, with the blocks that are open if the run goes on. -/
def Progress.within (blocks : List Block) : Run.Progress → Progress
  | .goes next => .goes ⟨next, blocks⟩
  | .ends last ending => .ends last ending

variable (setting : Setting) (plan : Plan)

/-- The request of the command that the machine has come to, if it runs at all. -/
def requestAt? (machine : Machine) (command : Command) : Option Request :=
  if command.isInert || machine.base.cancelled then none
  else
    let frames := machine.blocks.map Block.frame
    some (request ⟨setting, plan, machine.base.position, frames, command⟩ machine.blocks
      machine.base.scene)

/-- The pass that the command would start. -/
def passAt? (machine : Machine) (command : Command) : Option (String × Value) :=
  (requestAt? setting plan machine command).bind Request.pass?

/-- One step of a machine at a command of the plan. -/
def step (machine : Machine) (planned : Planned) : Progress :=
  match requestAt? setting plan machine planned.command with
  | some request =>
      let limit := setting.surroundings.configuration.maxLoopIterations
      .within request.granted
        (finish machine.base planned.index (request.turn limit machine.base.budget))
  | none =>
      if planned.command.isInert then .goes { machine with base := machine.base.go (.ahead 0) }
      else
        let record := failureRecord "Run cancelled"
        .ends (machine.base.recordAt machine.base.position record) .cancelled

variable {setting plan}

theorem distance_step_lt {machine next : Machine} {planned : Planned}
    (inside : machine.base.position < plan.size)
    (goes : step setting plan machine planned = .goes next) :
    next.base.distance plan.size < machine.base.distance plan.size := by
  simp only [step] at goes
  split at goes
  · next request _ =>
      cases finishes : finish machine.base planned.index (request.turn
        setting.surroundings.configuration.maxLoopIterations machine.base.budget) with
      | goes next =>
          rw [finishes] at goes
          cases goes
          exact distance_finish_lt inside finishes
      | ends last ending =>
          rw [finishes] at goes
          cases goes
  · split at goes
    · cases goes
      exact Run.Machine.distance_go_lt inside _
    · cases goes

variable (setting plan)

/-- The course of a run from a machine on. -/
def course (machine : Machine) : Course :=
  if inside : machine.base.position < plan.size then
    let planned := plan[machine.base.position]
    let pass? := passAt? setting plan machine planned.command
    match goes : step setting plan machine planned with
    | .ends last ending => ⟨[⟨machine.base, planned, pass?, last⟩], last, ending⟩
    | .goes next =>
        have := distance_step_lt inside goes
        let rest := course next
        { rest with dispatches := ⟨machine.base, planned, pass?, next.base⟩ :: rest.dispatches }
  else
    let (last, ending) := close plan machine.base
    ⟨[], last, ending⟩
  termination_by machine.base.distance plan.size

section

variable {setting plan} {machine next : Machine} {planned : Planned} {last : Run.Machine}
variable {ending : Ending}

theorem course_of_end (outside : plan.size ≤ machine.base.position) :
    course setting plan machine =
      ⟨[], (close plan machine.base).1, (close plan machine.base).2⟩ := by
  rw [course, dif_neg (Nat.not_lt.mpr outside)]

theorem course_of_goes (here : plan[machine.base.position]? = some planned)
    (goes : step setting plan machine planned = .goes next) :
    course setting plan machine =
      { course setting plan next with
        dispatches :=
          ⟨machine.base, planned, passAt? setting plan machine planned.command, next.base⟩ ::
            (course setting plan next).dispatches } := by
  obtain ⟨inside, rfl⟩ := Array.getElem?_eq_some_iff.mp here
  rw [course, dif_pos inside]
  dsimp only
  split
  · next ends =>
      rw [goes] at ends
      cases ends
  · next goesToo =>
      rw [goes] at goesToo
      cases goesToo
      rfl

theorem course_of_ends (here : plan[machine.base.position]? = some planned)
    (ends : step setting plan machine planned = .ends last ending) :
    course setting plan machine =
      ⟨[⟨machine.base, planned, passAt? setting plan machine planned.command, last⟩], last,
        ending⟩ := by
  obtain ⟨inside, rfl⟩ := Array.getElem?_eq_some_iff.mp here
  rw [course, dif_pos inside]
  dsimp only
  split
  · next endsToo =>
      rw [ends] at endsToo
      cases endsToo
      rfl
  · next goes =>
      rw [ends] at goes
      cases goes

end

/-- The course of the commands at the chosen indices. -/
def courseOf (runFile : Action) (processor : Processor) (files : FileSystem)
    (chosen : Nat → Bool) : Course :=
  let plan := Processor.plan processor.commands chosen
  course (processor.setting runFile) plan ⟨processor.machine files plan, []⟩

/-- The run of the commands at the chosen indices. -/
def runWith (runFile : Action) (processor : Processor) (files : FileSystem)
    (chosen : Nat → Bool) : Processor.Run :=
  let course := courseOf runFile processor files chosen
  let commands := Processor.withRecords processor.commands
    (Processor.plan processor.commands chosen) course.last
  { processor :=
      { processor with
        commands
        workspace := course.last.workspace
        state := if course.ending.isAborted then .aborted else .completed
        cancelled := course.last.cancelled }
    files := course.last.files
    result := .ofCommands commands course.ending }

/-- What running a command file does in this engine when runs may be nested as many levels
deeper. -/
def runFile (registry : Registry) : (levels : Nat) → Action
  | 0 => Nested.runFile registry 0
  | levels + 1 => fun surroundings parameters scene =>
      .attempt scene (ParameterSet.path parameters "CommandFile") fun path =>
        .attempt scene ((Nested.child registry surroundings scene).loadFile scene.files path)
            fun child =>
          .attempt scene (Nested.expectedStatus parameters child.commands) fun expected =>
            let run := runWith (runFile registry levels) child scene.files fun _ => true
            let scene :=
              { scene with files := run.files, cancelled := run.processor.cancelled }
            .done (Nested.judge scene path expected run.result)

end Endless

end Workflow.Run
