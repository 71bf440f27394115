import Workflow.Builtin.Control
import Workflow.Run.Machine

/-!
# What each command of a plan does

Ordinary commands are executed and the run goes ahead.  A command that opens a block enters it
or skips to the command behind its terminator; a terminator closes the innermost block, or goes
back to the start of a loop that has values left.
-/

namespace Workflow.Run

/-- The parameter that names a block, as it is written. -/
def writtenName (command : Command) : String :=
  match command.parameter? "Name" with
  | some name => Text.trimmed name
  | none => ""

/-- The name of a block in validated parameters. -/
def blockName (parameters : ParameterSet) : String :=
  (ParameterSet.text? parameters "Name").getD ""

/-- Whether a command closes a block of this kind whose written name is the given one. -/
def closes (kind : BlockKind) (name : String) (planned : Planned) : Bool :=
  planned.command.role? == some kind.terminator &&
    (planned.command.parameter? "Name").map Text.trimmed == some name

/-- The number of commands between a position and the terminator of a block opened there. -/
def bodyLength? (plan : Plan) (position : Nat) (kind : BlockKind) (name : String) : Option Nat :=
  (plan.drop (position + 1)).findIdx? (closes kind name)

/-- The fault of a block without a terminator. -/
def missingTerminator (command : Command) (kind : BlockKind) (name : String) : Fault :=
  .missingTerminator command.name kind.terminator.name name command.line

/-- The move behind a block whose body is not run. -/
def skipBody {budget : Nat} (bodyLength : Nat) : Move budget := .ahead (bodyLength + 1)

/-- The move behind a block that could not be validated. -/
def skipBlock {budget : Nat} (plan : Plan) (position : Nat) (command : Command)
    (kind : BlockKind) : Except Fault (Move budget) :=
  match bodyLength? plan position kind (writtenName command) with
  | some bodyLength => .ok (skipBody bodyLength)
  | none => .error (missingTerminator command kind (writtenName command))

/-- The length of the body of a block that is about to be opened.  No block may be opened
inside of one with its kind and name. -/
def enclosedBody (plan : Plan) (position : Nat) (frames : List Frame) (command : Command)
    (kind : BlockKind) (name : String) : Except Fault Nat :=
  if frames.any (Frame.isOf kind name) then
    .error (.duplicateName command.name name command.line)
  else
    match bodyLength? plan position kind name with
    | some bodyLength => .ok bodyLength
    | none => .error (missingTerminator command kind name)

/-- What a run knows besides its machine: the setting, the plan, and the open blocks. -/
structure Standing where
  setting : Setting
  plan : Plan
  position : Nat
  frames : List Frame
  command : Command

namespace Standing

/-- The limit on loop passes. -/
def limit (standing : Standing) : Nat :=
  standing.setting.surroundings.configuration.maxLoopIterations

/-- A turn that leaves the open blocks as they are. -/
def turn {budget : Nat} (standing : Standing) (scene : Scene) (move : Except Fault (Move budget)) :
    Turn budget := ⟨scene, standing.frames, move⟩

/-- The turn of a loop that was validated and has a body. -/
def enterLoop (standing : Standing) (budget : Nat) (scene : Scene) (parameters : ParameterSet)
    (bodyLength : Nat) : Turn budget :=
  let name := blockName parameters
  match Builtin.Loop.values parameters scene.workspace standing.limit with
  | .error error =>
      standing.turn (scene.fail error.message) (.ok (skipBody bodyLength))
  | .ok values =>
      match values[0]?, budget with
      | none, _ =>
          standing.turn (scene.inform s!"Loop `{name}` has no values; body skipped")
            (.ok (skipBody bodyLength))
      | some _, 0 => standing.turn scene (.error (.iterationLimit standing.limit))
      | some first, left + 1 =>
          let iterator := Builtin.Loop.iterator parameters name
          let scene := scene.withWorkspace (scene.workspace.setProperty iterator first)
          { scene := { scene with status := scene.status.promote .run .success }
            frames := .loop name iterator values 0 standing.position :: standing.frames
            move := .ok (.enter ⟨left, Nat.lt_succ_self left⟩) }

/-- The turn of a condition that was validated and has a body. -/
def enterConditional {budget : Nat} (standing : Standing) (scene : Scene)
    (parameters : ParameterSet) (bodyLength : Nat) : Turn budget :=
  let name := blockName parameters
  match Builtin.Conditional.holds parameters scene.workspace with
  | .error error =>
      standing.turn (scene.fail error.message) (.ok (skipBody bodyLength))
  | .ok false =>
      standing.turn (scene.inform s!"Condition of `{name}` is false; block skipped")
        (.ok (skipBody bodyLength))
  | .ok true =>
      { scene := { scene with status := scene.status.promote .run .success }
        frames := .conditional name standing.position :: standing.frames
        move := .ok (.ahead 0) }

/-- The turn of a command that opens a block. -/
def openBlock (standing : Standing) (budget : Nat) (scene : Scene) (kind : BlockKind) :
    Turn budget :=
  match prepare scene standing.command with
  | (scene, none) =>
      standing.turn scene (skipBlock standing.plan standing.position standing.command kind)
  | (scene, some parameters) =>
      match enclosedBody standing.plan standing.position standing.frames standing.command kind
          (blockName parameters) with
      | .error fault => standing.turn scene (.error fault)
      | .ok bodyLength =>
          match kind with
          | .loop => standing.enterLoop budget scene parameters bodyLength
          | .conditional => standing.enterConditional scene parameters bodyLength

/-- The turn of a terminator that closes no open block. -/
def closeNothing {budget : Nat} (standing : Standing) (scene : Scene) (kind : BlockKind)
    (name : String) : Turn budget :=
  let opener := kind.opener.name
  let problem := s!"{standing.command.name}(Name=\"{name}\") has no matching open {opener}"
  standing.turn
    (scene.report .failure problem (some s!"Add a matching {opener} or remove this line"))
    (.ok (.ahead 0))

/-- The turn of a terminator that closes the innermost block. -/
def closeInnermost (standing : Standing) (budget : Nat) (scene : Scene) (innermost : Frame)
    (outer : List Frame) : Turn budget :=
  match innermost with
  | .conditional _ _ => ⟨scene, outer, .ok (.ahead 0)⟩
  | .loop name iterator values current start =>
      match values[current + 1]?, budget with
      | none, _ => ⟨scene, outer, .ok (.ahead 0)⟩
      | some _, 0 => standing.turn scene (.error (.iterationLimit standing.limit))
      | some value, left + 1 =>
          { scene := scene.withWorkspace (scene.workspace.setProperty iterator value)
            frames := .loop name iterator values (current + 1) start :: outer
            move := .ok (.again start ⟨left, Nat.lt_succ_self left⟩) }

/-- The turn of a terminator of the block with the given name. -/
def closeNamed (standing : Standing) (budget : Nat) (scene : Scene) (kind : BlockKind)
    (name : String) : Turn budget :=
  match standing.frames with
  | [] => standing.closeNothing scene kind name
  | innermost :: outer =>
      if innermost.isOf kind name then
        standing.closeInnermost budget
          { scene with status := scene.status.promote .run .success } innermost outer
      else if outer.any (Frame.isOf kind name) then
        standing.turn scene (.error
          (.improperNesting standing.command.name name innermost.name standing.command.line))
      else standing.closeNothing scene kind name

/-- The turn of a terminator.  One that could not be validated still closes its block. -/
def closeBlock (standing : Standing) (budget : Nat) (scene : Scene) (kind : BlockKind) :
    Turn budget :=
  match prepare scene standing.command with
  | (scene, some parameters) => standing.closeNamed budget scene kind (blockName parameters)
  | (scene, none) => standing.closeNamed budget scene kind (writtenName standing.command)

/-- The turn of any command. -/
def dispatch (standing : Standing) (budget : Nat) (scene : Scene) : Turn budget :=
  match standing.command.role? with
  | some .openLoop => standing.openBlock budget scene .loop
  | some .closeLoop => standing.closeBlock budget scene .loop
  | some .openCondition => standing.openBlock budget scene .conditional
  | some .closeCondition => standing.closeBlock budget scene .conditional
  | none => standing.turn (execute standing.setting standing.command scene) (.ok (.ahead 0))

end Standing

end Workflow.Run
