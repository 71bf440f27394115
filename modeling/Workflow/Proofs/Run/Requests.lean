import Mathlib.Data.List.Forall2
import Workflow.Proofs.Run.PassLimit
import Workflow.Proofs.Run.Trace
import Workflow.Proofs.Status

/-!
# What becomes of a request

Every turn of the engine is what becomes of the request of the same command in the engine without
a cap on sequences.  The frames of the one hold the values of a loop, the blocks of the other a
supply; they need to agree on those passes only that the budget still allows to ask for.
-/

namespace Workflow.Run

/-- The pass of a loop behind its current one: its property and its value. -/
def Frame.nextPass? : Frame → Option (String × Value)
  | .loop _ iterator values current _ => values[current + 1]?.map fun next => (iterator, next)
  | .conditional _ _ => none

/-- The next pass of the innermost block, if that has the kind and name. -/
def nextPass? (kind : BlockKind) (name : String) : List Frame → Option (String × Value)
  | [] => none
  | innermost :: _ => if innermost.isOf kind name then innermost.nextPass? else none

namespace Standing

variable (standing : Standing) (scene : Scene)

/-- The first pass of the loop that a command opens: its property and its value. -/
def firstPass? : Option (String × Value) :=
  match prepare scene standing.command with
  | (_, none) => none
  | (prepared, some parameters) =>
      let name := blockName parameters
      match enclosedBody standing.plan standing.position standing.frames standing.command .loop
          name with
      | .error _ => none
      | .ok _ =>
          match Builtin.Loop.values parameters prepared.workspace standing.limit with
          | .error _ => none
          | .ok values => values[0]?.map fun first =>
              (Builtin.Loop.iterator parameters name, first)

/-- The pass that a command would start, whether or not the limit allows it. -/
def pass? : Option (String × Value) :=
  match standing.command.role? with
  | some .openLoop => standing.firstPass? scene
  | some .closeLoop => nextPass? .loop (searchedName scene standing.command) standing.frames
  | some .closeCondition =>
      nextPass? .conditional (searchedName scene standing.command) standing.frames
  | _ => none

end Standing

/-- The frame without the values that its loop has found out. -/
def Frame.bare : Frame → Frame
  | .loop name iterator _ current start => .loop name iterator #[] current start
  | .conditional name start => .conditional name start

/-- The machine without the values of open loops. -/
def Machine.bare (machine : Machine) : Machine :=
  { machine with frames := machine.frames.map Frame.bare }

/-- The pass that the command would start, if it runs at all. -/
def passAt? (setting : Setting) (plan : Plan) (machine : Machine) (command : Command) :
    Option (String × Value) :=
  if command.isInert || machine.cancelled then none
  else (standingAt setting plan machine command).pass? machine.scene

/-- The dispatch of a stride. -/
def Stride.dispatch (setting : Setting) (plan : Plan) (stride : Stride) : Dispatch where
  before := stride.before.bare
  planned := stride.planned
  pass? := passAt? setting plan stride.before stride.planned.command
  after := stride.after.bare

namespace Endless

/-! ## Blocks in place of frames -/

/-- A block that has the values of a frame, as far as a run with the budget can get. -/
inductive Matches (limit budget : Nat) : Frame → Block → Prop where
  | loop {name iterator : String} {values : Array Value} {supply : Builtin.Loop.Supply}
      {current start : Nat} (agrees : ∀ number ≤ limit, values[number]? = supply number)
      (within : current + budget < limit) :
      Matches limit budget (.loop name iterator values current start)
        (.loop name iterator supply current start)
  | conditional {name : String} {start : Nat} :
      Matches limit budget (.conditional name start) (.conditional name start)

variable {limit budget left : Nat} {frames : List Frame} {blocks : List Block}

/-- What a run can get at only becomes less. -/
theorem matches_mono (same : List.Forall₂ (Matches limit budget) frames blocks)
    (spent : left ≤ budget) : List.Forall₂ (Matches limit left) frames blocks := by
  refine same.imp fun frame block matching => ?_
  cases matching with
  | loop agrees within => exact .loop agrees (by omega)
  | conditional => exact .conditional

theorem Matches.frame_eq {frame : Frame} {block : Block} (same : Matches limit budget frame block) :
    block.frame = frame.bare := by
  cases same <;> rfl

@[simp] theorem isOf_bare (kind : BlockKind) (name : String) (frame : Frame) :
    frame.bare.isOf kind name = frame.isOf kind name := by
  cases frame <;> rfl

theorem name_bare (frame : Frame) : frame.bare.name = frame.name := by
  cases frame <;> rfl

theorem map_frame_eq (same : List.Forall₂ (Matches limit budget) frames blocks) :
    blocks.map Block.frame = frames.map Frame.bare := by
  induction same with
  | nil => rfl
  | cons head _ ih => rw [List.map_cons, List.map_cons, head.frame_eq, ih]

theorem any_isOf (same : List.Forall₂ (Matches limit budget) frames blocks) (kind : BlockKind)
    (name : String) :
    (blocks.any fun block => block.frame.isOf kind name) =
      frames.any (Frame.isOf kind name) := by
  have all := congrArg (List.any · (Frame.isOf kind name)) (map_frame_eq same)
  simpa [Function.comp_def] using all

theorem enclosedBody_bare (plan : Plan) (position : Nat) (frames : List Frame) (command : Command)
    (kind : BlockKind) (name : String) :
    enclosedBody plan position (frames.map Frame.bare) command kind name =
      enclosedBody plan position frames command kind name := by
  simp [enclosedBody, Function.comp_def]

/-- The same place to go, with a loop entered as if it were repeated. -/
def bareMove (position : Nat) : Move budget → Move budget
  | .enter left => .again position left
  | move => move

/-- The turn without the values of open loops. -/
def bareTurn (position : Nat) (turn : Turn budget) : Turn budget where
  scene := turn.scene
  frames := turn.frames.map Frame.bare
  move := turn.move.map (bareMove position)

/-- A turn is what becomes of a request. -/
structure Answers (limit position : Nat) (turn : Turn budget) (pass? : Option (String × Value))
    (request : Request) : Prop where
  becomes : request.turn limit budget = bareTurn position turn
  asks : request.pass? = pass?
  blocks : ∀ move, turn.move = .ok move →
    List.Forall₂ (Matches limit move.left) turn.frames request.granted

section

variable {standing : Standing} {scene : Scene}

/-- The standing with the frames of open blocks. -/
def standingIn (standing : Standing) (blocks : List Block) : Standing :=
  { standing with frames := blocks.map Block.frame }

/-- A turn that goes ahead and leaves the open blocks as they are. -/
theorem answers_ahead (same : List.Forall₂ (Matches limit budget) frames blocks)
    (position skipped : Nat) :
    Answers limit position (⟨scene, frames, .ok (.ahead skipped)⟩ : Turn budget) none
      ⟨scene, blocks, .ok (.ahead skipped)⟩ where
  becomes := by
    simp only [Request.turn, bareTurn, map_frame_eq same]
    rfl
  asks := rfl
  blocks move moves := by
    cases moves
    exact same

theorem answers_error (same : List.Forall₂ (Matches limit budget) frames blocks)
    (position : Nat) (fault : Fault) :
    Answers limit position (⟨scene, frames, .error fault⟩ : Turn budget) none
      ⟨scene, blocks, .error fault⟩ where
  becomes := by
    simp only [Request.turn, bareTurn, map_frame_eq same]
    rfl
  asks := rfl
  blocks move moves := nomatch moves

theorem answers_refused {iterator : String} {value : Value}
    (same : List.Forall₂ (Matches limit budget) frames blocks) (spent : budget = 0)
    (position start : Nat) (within : List Block) :
    Answers limit position
      (⟨scene, frames, .error (.iterationLimit limit)⟩ : Turn budget) (some (iterator, value))
      ⟨scene, blocks, .ok (.pass iterator value start within)⟩ where
  becomes := by
    subst spent
    simp only [Request.turn, bareTurn, map_frame_eq same]
    rfl
  asks := rfl
  blocks move moves := nomatch moves

theorem answers_granted (scene : Scene) {iterator : String} {value : Value} {position start : Nat}
    {status : StatusRecord} {move : Move (left + 1)} {within : List Block}
    (same : List.Forall₂ (Matches limit left) frames within)
    (marked : scene.status.promote .run .success = status)
    (goes : bareMove position move = .again start ⟨left, Nat.lt_succ_self left⟩) :
    Answers limit position
      ⟨{ scene.withWorkspace (scene.workspace.setProperty iterator value) with status }, frames,
        .ok move⟩
      (some (iterator, value)) ⟨scene, blocks, .ok (.pass iterator value start within)⟩ where
  becomes := by
    simp only [Request.turn, bareTurn, map_frame_eq same, Except.map, goes, ← marked]
    rfl
  asks := rfl
  blocks move moves := by
    cases moves
    cases move with
    | ahead skipped => cases goes
    | enter granted | again _ granted =>
        cases goes
        exact same

theorem answers_skipBlock (same : List.Forall₂ (Matches limit budget) standing.frames blocks)
    (position : Nat) (kind : BlockKind) :
    Answers limit position
      (standing.turn scene (Run.skipBlock standing.plan standing.position standing.command kind) :
        Turn budget) none
      (skipBlock (standingIn standing blocks) blocks scene kind) := by
  simp only [Run.skipBlock, skipBlock, standingIn]
  cases bodyLength? standing.plan standing.position kind (writtenName standing.command) with
  | none => exact answers_error same position _
  | some bodyLength => exact answers_ahead same position _

theorem answers_enterLoop
    (same : List.Forall₂ (Matches standing.limit budget) standing.frames blocks)
    (within : budget ≤ standing.limit) (parameters : ParameterSet) (bodyLength : Nat) :
    Answers standing.limit standing.position
      (standing.enterLoop budget scene parameters bodyLength)
      (match Builtin.Loop.values parameters scene.workspace standing.limit with
        | .error _ => none
        | .ok values => values[0]?.map fun first =>
            (Builtin.Loop.iterator parameters (blockName parameters), first))
      (enterLoop (standingIn standing blocks) blocks scene parameters bodyLength) := by
  simp only [Standing.enterLoop, enterLoop]
  rcases Builtin.Loop.values_agrees parameters scene.workspace standing.limit with
    ⟨error, values, supply⟩ | ⟨capped, whole, values, supply, agrees⟩
  · rw [values, supply]
    exact answers_ahead same _ _
  · rw [values, supply]
    dsimp only
    have front := agrees 0 (Nat.zero_le _)
    cases first : capped[0]? with
    | none =>
        rw [← front, first]
        exact answers_ahead same _ _
    | some value =>
        rw [← front, first]
        cases budget with
        | zero => exact answers_refused same rfl _ _ _
        | succ left =>
            exact answers_granted scene
              (.cons (.loop agrees (by omega)) (matches_mono same (Nat.le_succ left))) rfl rfl

theorem answers_enterConditional
    (same : List.Forall₂ (Matches limit budget) standing.frames blocks) (position : Nat)
    (parameters : ParameterSet) (bodyLength : Nat) :
    Answers limit position
      (standing.enterConditional scene parameters bodyLength : Turn budget) none
      (enterConditional (standingIn standing blocks) blocks scene parameters bodyLength) := by
  simp only [Standing.enterConditional, enterConditional]
  cases Builtin.Conditional.holds parameters scene.workspace with
  | error error => exact answers_ahead same position _
  | ok holds =>
      cases holds with
      | false => exact answers_ahead same position _
      | true =>
          have opened : List.Forall₂ (Matches limit budget)
              (.conditional (blockName parameters) standing.position :: standing.frames)
              (.conditional (blockName parameters) standing.position :: blocks) :=
            .cons .conditional same
          exact answers_ahead opened position 0

theorem answers_openBlock
    (same : List.Forall₂ (Matches standing.limit budget) standing.frames blocks)
    (within : budget ≤ standing.limit) (kind : BlockKind) :
    Answers standing.limit standing.position (standing.openBlock budget scene kind)
      (match kind with
        | .loop => standing.firstPass? scene
        | .conditional => none)
      (openBlock (standingIn standing blocks) blocks scene kind) := by
  simp only [Standing.openBlock, openBlock, Standing.firstPass?]
  have commands : (standingIn standing blocks).command = standing.command := rfl
  rw [commands]
  rcases prepare scene standing.command with ⟨prepared, _ | parameters⟩
  · cases kind <;> exact answers_skipBlock same _ _
  · have encloses : enclosedBody (standingIn standing blocks).plan
        (standingIn standing blocks).position (standingIn standing blocks).frames standing.command
        kind (blockName parameters) =
          enclosedBody standing.plan standing.position standing.frames standing.command kind
            (blockName parameters) := by
      simp only [standingIn, map_frame_eq same]
      exact enclosedBody_bare ..
    dsimp only
    rw [encloses]
    cases kind with
    | loop =>
        cases enclosedBody standing.plan standing.position standing.frames standing.command .loop
            (blockName parameters) with
        | error fault => exact answers_error same _ fault
        | ok bodyLength => exact answers_enterLoop same within parameters bodyLength
    | conditional =>
        cases enclosedBody standing.plan standing.position standing.frames standing.command
            .conditional (blockName parameters) with
        | error fault => exact answers_error same _ fault
        | ok bodyLength => exact answers_enterConditional same _ parameters bodyLength

theorem answers_closeNothing
    (same : List.Forall₂ (Matches limit budget) standing.frames blocks) (position : Nat)
    (kind : BlockKind) (name : String) :
    Answers limit position (standing.closeNothing scene kind name : Turn budget) none
      (closeNothing (standingIn standing blocks) blocks scene kind name) :=
  answers_ahead same position 0

theorem answers_closeInnermost {innermost : Frame} {outer : List Frame} {block : Block}
    {others : List Block} (front : standing.frames = innermost :: outer)
    (inner : Matches standing.limit budget innermost block)
    (same : List.Forall₂ (Matches standing.limit budget) outer others)
    (status : StatusRecord) (position : Nat) :
    let done := { scene with status := status.promote .run .success }
    Answers standing.limit position (standing.closeInnermost budget done innermost outer)
      innermost.nextPass? (closeInnermost (block :: others) done block others) := by
  have leaves (scene : Scene) : Answers standing.limit position
      ({ scene, frames := outer, move := .ok (.ahead 0) } : Turn budget) none
      ⟨scene, others, .ok (.ahead 0)⟩ :=
    answers_ahead same position 0
  cases inner with
  | conditional => exact leaves _
  | @loop name iterator values supply current start agrees within =>
      simp only [Standing.closeInnermost, closeInnermost, Frame.nextPass?]
      have next := agrees (current + 1) (by omega)
      cases more : values[current + 1]? with
      | none =>
          rw [← next, more]
          exact leaves _
      | some value =>
          rw [← next, more]
          cases budget with
          | zero =>
              refine answers_refused ?_ rfl _ _ _
              rw [front]
              exact .cons (.loop agrees within) same
          | succ left =>
              have again : List.Forall₂ (Matches standing.limit left)
                  (.loop name iterator values (current + 1) start :: outer)
                  (.loop name iterator supply (current + 1) start :: others) :=
                .cons (.loop agrees (by omega)) (matches_mono same (Nat.le_succ left))
              exact answers_granted { scene with status := status.promote .run .success } again
                (StatusRecord.promote_promote status .run .success) rfl

theorem answers_closeNamed
    (same : List.Forall₂ (Matches standing.limit budget) standing.frames blocks)
    (position : Nat) (kind : BlockKind) (name : String) :
    Answers standing.limit position (standing.closeNamed budget scene kind name)
      (nextPass? kind name standing.frames)
      (closeNamed (standingIn standing blocks) blocks scene kind name) := by
  simp only [Standing.closeNamed, closeNamed, nextPass?]
  generalize front : standing.frames = frames at same
  cases same with
  | nil => exact answers_closeNothing (front ▸ .nil) position kind name
  | @cons innermost block outer others inner same =>
      have whole : List.Forall₂ (Matches standing.limit budget) standing.frames (block :: others) :=
        front ▸ .cons inner same
      dsimp only
      rw [inner.frame_eq, isOf_bare, any_isOf same]
      split
      · exact answers_closeInnermost front inner same scene.status position
      · split
        · rw [name_bare]
          exact answers_error whole position _
        · exact answers_closeNothing whole position kind name

theorem closeBlock_eq (standing : Standing) (budget : Nat) (scene : Scene) (kind : BlockKind) :
    standing.closeBlock budget scene kind =
      standing.closeNamed budget (prepare scene standing.command).1 kind
        (searchedName scene standing.command) := by
  simp only [Standing.closeBlock, searchedName]
  rcases prepare scene standing.command with ⟨prepared, _ | parameters⟩ <;> rfl

/-- Every turn is what becomes of the request of its command. -/
theorem answers_dispatch
    (same : List.Forall₂ (Matches standing.limit budget) standing.frames blocks)
    (within : budget ≤ standing.limit) :
    Answers standing.limit standing.position (standing.dispatch budget scene)
      (standing.pass? scene) (request (standingIn standing blocks) blocks scene) := by
  have commands : (standingIn standing blocks).command = standing.command := rfl
  simp only [Standing.dispatch, Standing.pass?, request, commands]
  cases standing.command.role? with
  | none => exact answers_ahead same _ 0
  | some role =>
      cases role with
      | openLoop => exact answers_openBlock same within .loop
      | openCondition => exact answers_openBlock same within .conditional
      | closeLoop =>
          dsimp only
          rw [closeBlock_eq]
          exact answers_closeNamed same _ .loop _
      | closeCondition =>
          dsimp only
          rw [closeBlock_eq]
          exact answers_closeNamed same _ .conditional _

end

end Endless

end Workflow.Run
