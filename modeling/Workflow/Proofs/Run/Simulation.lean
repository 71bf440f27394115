import Workflow.Proofs.Run.BlockNames
import Workflow.Proofs.Run.Interpreter
import Workflow.Proofs.Run.Step

/-!
# The machine runs the interpretation

The machine of a walk is a position, the open blocks and a store.  From the first command of a
well-blocked program the walk comes to stand behind its last command, with the same open blocks
and the store of the interpretation, or it ends as the interpretation does.  The proof is an
induction over the tree of the program; inside a loop it is an induction over the values that are
left.
-/

namespace Workflow.Run

/-- Every command of a plan has its position as its place in the list. -/
def Plan.IsWhole (plan : Plan) : Prop :=
  ∀ (position : Nat) (planned : Planned), plan[position]? = some planned →
    planned.index = position

/-- The machine at a position of a plan, with the open blocks and the store. -/
def Store.machine (size position : Nat) (frames : List Frame) (store : Store) : Machine where
  position := position
  frames := frames
  budget := store.budget
  workspace := store.workspace
  files := store.files
  cancelled := store.cancelled
  haltOnFailure := store.haltOnFailure
  exitRequested := store.exitRequested
  executions := (Array.range size).map store.executionsAt

/-- The end of a run without the place of the machine. -/
def unplaced (done : Machine × Ending) : Machine × Ending :=
  ({ done.1 with position := 0, frames := [] }, done.2)

/-- The end of the walk from a position. -/
def Store.walkFrom (setting : Setting) (plan : Plan) (position : Nat) (frames : List Frame)
    (store : Store) : Machine × Ending :=
  unplaced (walk setting plan (store.machine plan.size position frames))

/-- The end of the walk behind a turn at a position. -/
def Store.walkAfter (setting : Setting) (plan : Plan) (position : Nat) (frames : List Frame)
    (store : Store) (turn : Turn store.budget) : Machine × Ending :=
  unplaced ((finish (store.machine plan.size position frames) position turn).follow setting plan)

/-- The end of a flow that goes on as given. -/
def Flow.outcome (size : Nat) (flow : Flow) (next : Store → Machine × Ending) :
    Machine × Ending :=
  match flow with
  | .goes store => next store
  | .ends store ending => (store.machine size 0 [], ending)

theorem Flow.outcome_andThen (size : Nat) (flow : Flow) (middle : Store → Flow)
    (next : Store → Machine × Ending) :
    (flow.andThen middle).outcome size next =
      flow.outcome size fun store => (middle store).outcome size next := by
  cases flow <;> rfl

namespace Store

variable (size position : Nat) (frames : List Frame) (store : Store)

theorem executions_note (status : StatusRecord) :
    ((Array.range size).map store.executionsAt).modify position (status :: ·) =
      (Array.range size).map (store.note position status).executionsAt := by
  apply Array.ext
  · simp
  · intro index left right
    simp only [Array.getElem_modify, Array.getElem_map, Array.getElem_range]
    by_cases same : position = index
    · simp [executionsAt, note, same]
    · simp [executionsAt, note, same]

theorem recordAt_machine (status : StatusRecord) :
    (store.machine size position frames).recordAt position status =
      (store.note position status).machine size position frames := by
  simp only [Machine.recordAt]
  simp only [machine, executions_note]
  rfl

theorem absorb_machine (scene : Scene) :
    (store.machine size position frames).absorb scene =
      (store.absorb position scene).machine size position frames := by
  simp only [Machine.absorb]
  simp only [machine, executions_note]
  rfl

end Store

/-- The position to which a move leads. -/
def Move.target {budget : Nat} (position : Nat) : Move budget → Nat
  | .ahead skipped => position + 1 + skipped
  | .enter _ => position + 1
  | .again start _ => start + 1

section

variable {setting : Setting} {plan : Plan} {position : Nat} {frames : List Frame}
variable {store : Store} {command : Command}

theorem Plan.IsWhole.getElem?_eq (whole : plan.IsWhole)
    (here : plan.commands[position]? = some command) :
    plan[position]? = some ⟨position, command⟩ := by
  rw [Plan.commands, List.getElem?_map, Array.getElem?_toList, Option.map_eq_some_iff] at here
  obtain ⟨planned, found, rfl⟩ := here
  rw [found, ← whole position planned found]

theorem walkFrom_inert (here : plan[position]? = some ⟨position, command⟩)
    (inert : command.isInert = true) :
    store.walkFrom setting plan position frames =
      store.walkFrom setting plan (position + 1) frames := by
  rw [Store.walkFrom, walk_of_getElem? (by exact here)]
  simp only [step]
  rw [if_pos inert]
  rfl

theorem walkFrom_attempt {perform : Scene → Flow} {next : Store → Machine × Ending}
    (here : plan[position]? = some ⟨position, command⟩) (active : command.isInert = false)
    (turns : store.walkAfter setting plan position frames
        ((Standing.mk setting plan position frames command).dispatch store.budget store.scene) =
      (perform store.scene).outcome plan.size next) :
    store.walkFrom setting plan position frames =
      (store.attempt position perform).outcome plan.size next := by
  rw [Store.walkFrom, walk_of_getElem? (by exact here)]
  simp only [step, Store.attempt]
  rw [if_neg (by simp [active])]
  by_cases cancelled : store.cancelled = true
  · rw [if_pos (by exact cancelled), if_pos cancelled]
    have noted := Store.recordAt_machine plan.size position frames store
      (failureRecord "Run cancelled")
    simp only [Progress.follow]
    exact congrArg (fun machine => unplaced (machine, Ending.cancelled)) noted
  · rw [if_neg (by exact cancelled), if_neg cancelled]
    exact turns

theorem settle_machine_go (plan : Plan) (position : Nat) (frames : List Frame)
    (turn : Turn store.budget) (move : Move store.budget) :
    (settle (store.machine plan.size position frames) turn turn.scene).go move =
      (Store.absorb { store with budget := move.left } position turn.scene).machine plan.size
        (move.target position) turn.frames := by
  have settled := congrArg (fun machine : Machine => { machine with frames := turn.frames })
    (Store.absorb_machine plan.size position frames store turn.scene)
  cases move with
  | ahead skipped =>
      exact congrArg (fun machine : Machine =>
        { machine with position := position + 1 + skipped }) settled
  | enter left =>
      exact congrArg (fun machine : Machine =>
        { machine with position := position + 1, budget := left }) settled
  | again start left =>
      exact congrArg (fun machine : Machine =>
        { machine with position := start + 1, budget := left }) settled

/-- A turn with a move completes its command and goes on at the target of the move. -/
theorem walkAfter_of_move {turn : Turn store.budget} (move : Move store.budget)
    (moves : turn.move = .ok move) :
    store.walkAfter setting plan position frames turn =
      (Store.complete { store with budget := move.left } position turn.scene).outcome plan.size
        fun store => store.walkFrom setting plan (move.target position) turn.frames := by
  have gone := settle_machine_go plan position frames turn move
  simp only [Store.walkAfter, finish, Store.complete]
  rw [moves]
  dsimp only
  by_cases exits : turn.scene.exitRequested = true
  · rw [if_pos exits, if_pos exits]
    exact congrArg (fun machine => unplaced (machine, Ending.exited position)) gone
  · rw [if_neg exits, if_neg exits]
    by_cases halts : (turn.scene.haltOnFailure && turn.scene.status.hasFailure) = true
    · rw [if_pos halts, if_pos halts]
      exact congrArg (fun machine => unplaced (machine, Ending.haltedOnFailure position)) gone
    · rw [if_neg halts, if_neg halts]
      exact congrArg (fun machine => unplaced (walk setting plan machine)) gone

theorem walkAfter_of_fault {turn : Turn store.budget} {fault : Fault}
    (faults : turn.move = .error fault) (next : Store → Machine × Ending) :
    store.walkAfter setting plan position frames turn =
      (store.abort position turn.scene fault).outcome plan.size next := by
  have absorbed := Store.absorb_machine plan.size position frames store
    (turn.scene.fail fault.message)
  simp only [Store.walkAfter, finish]
  rw [faults]
  exact congrArg (fun machine => unplaced (machine, Ending.faulted fault)) absorbed

theorem walkFrom_command (here : plan[position]? = some ⟨position, command⟩)
    (plain : command.role? = none) :
    store.walkFrom setting plan position frames =
      (store.runCommand setting command position).outcome plan.size fun store =>
        store.walkFrom setting plan (position + 1) frames := by
  simp only [Store.runCommand]
  by_cases inert : command.isInert = true
  · rw [if_pos inert, walkFrom_inert here inert]
    rfl
  · rw [if_neg inert]
    apply walkFrom_attempt here (by simpa using inert)
    simp only [Standing.dispatch]
    rw [plain]
    exact walkAfter_of_move (.ahead 0) rfl

end

/-! ## Terminators -/

/-- A built-in terminator with nothing but a literal name stands at a position of a plan. -/
structure Plan.ClosesAt (plan : Plan) (position : Nat) (kind : BlockKind) (name : String)
    (closer : Command) : Prop where
  here : plan[position]? = some ⟨position, closer⟩
  builtin : closer.IsBuiltin kind.terminator
  literal : closer.HasLiteralName
  alone : closer.parameters.keys = ["Name"]
  named : writtenName closer = name

section

variable {setting : Setting} {plan : Plan} {frames outer : List Frame} {store : Store}
variable {closer : Command} {kind : BlockKind} {name : String}

theorem dispatch_of_terminator {standing : Standing} {innermost : Frame}
    (builtin : standing.command.IsBuiltin kind.terminator)
    (literal : standing.command.HasLiteralName)
    (alone : standing.command.parameters.keys = ["Name"])
    (front : standing.frames = innermost :: outer)
    (own : innermost.isOf kind (writtenName standing.command) = true)
    (budget : Nat) (scene : Scene) :
    standing.dispatch budget scene =
      standing.closeInnermost budget (Store.terminated scene) innermost outer := by
  obtain ⟨parameters, prepared, named⟩ := prepare_terminator builtin literal alone scene
  have turn : standing.dispatch budget scene = standing.closeBlock budget scene kind := by
    simp only [Standing.dispatch]
    rw [builtin.role?_eq]
    cases kind <;> rfl
  rw [turn, Standing.closeBlock, prepared]
  dsimp only
  rw [named, Standing.closeNamed, front]
  dsimp only
  rw [if_pos own]
  rfl

/-- The walk at a literal terminator that finds its block in front. -/
theorem walkFrom_terminator {position : Nat} {innermost : Frame} {perform : Scene → Flow}
    {next : Store → Machine × Ending} (closes : plan.ClosesAt position kind name closer)
    (own : innermost.isOf kind name = true)
    (turns : store.walkAfter setting plan position (innermost :: outer)
        ((Standing.mk setting plan position (innermost :: outer) closer).closeInnermost
          store.budget (Store.terminated store.scene) innermost outer) =
      (perform store.scene).outcome plan.size next) :
    store.walkFrom setting plan position (innermost :: outer) =
      (store.attempt position perform).outcome plan.size next := by
  apply walkFrom_attempt closes.here (isInert_of_role closes.builtin.role?_eq)
  rw [← closes.named] at own
  rw [dispatch_of_terminator closes.builtin closes.literal closes.alone rfl own]
  exact turns

theorem walkFrom_endCondition {position start : Nat}
    (closes : plan.ClosesAt position .conditional name closer) :
    store.walkFrom setting plan position (.conditional name start :: outer) =
      (store.attempt position fun scene =>
        store.complete position (Store.terminated scene)).outcome plan.size fun store =>
          store.walkFrom setting plan (position + 1) outer := by
  apply walkFrom_terminator closes
  · simp [Frame.isOf, Frame.kind, Frame.name]
  · exact walkAfter_of_move (.ahead 0) rfl

section Loops

variable {iterator : String} {values : Array Value} {current start position : Nat}

theorem walkFrom_endLoop (closes : plan.ClosesAt position .loop name closer)
    (last : values[current + 1]? = none) :
    store.walkFrom setting plan position (.loop name iterator values current start :: outer) =
      (store.attempt position fun scene =>
        store.complete position (Store.terminated scene)).outcome plan.size fun store =>
          store.walkFrom setting plan (position + 1) outer := by
  apply walkFrom_terminator closes
  · simp [Frame.isOf, Frame.kind, Frame.name]
  · rw [Standing.closeInnermost, last]
    exact walkAfter_of_move (.ahead 0) rfl

/-- The terminator of a loop with another value starts a pass. -/
theorem walkFrom_nextPass {value : Value} (closes : plan.ClosesAt position .loop name closer)
    (more : values[current + 1]? = some value) :
    store.walkFrom setting plan position (.loop name iterator values current start :: outer) =
      (store.attempt position fun scene =>
        store.startPass setting.surroundings.configuration.maxLoopIterations position iterator
          value (Store.terminated scene)).outcome plan.size fun store =>
            store.walkFrom setting plan (start + 1)
              (.loop name iterator values (current + 1) start :: outer) := by
  apply walkFrom_terminator closes
  · simp [Frame.isOf, Frame.kind, Frame.name]
  · obtain ⟨budget, workspace, files, cancelled, haltOnFailure, exitRequested, journal⟩ := store
    rw [Standing.closeInnermost, more]
    cases budget with
    | zero => exact walkAfter_of_fault rfl _
    | succ left => exact walkAfter_of_move (.again start ⟨left, Nat.lt_succ_self left⟩) rfl

/-- The passes of a loop behind the current one, up to where it is left. -/
theorem walkFrom_laterPasses {body : Store → Flow}
    (closes : plan.ClosesAt position .loop name closer)
    (runs : ∀ (current : Nat) (store : Store),
      store.walkFrom setting plan (start + 1)
          (.loop name iterator values current start :: outer) =
        (body store).outcome plan.size fun store =>
          store.walkFrom setting plan position
            (.loop name iterator values current start :: outer))
    {later : List Value} (remaining : values.toList.drop (current + 1) = later) :
    store.walkFrom setting plan position (.loop name iterator values current start :: outer) =
      (store.laterPasses setting.surroundings.configuration.maxLoopIterations position iterator
        body later).outcome plan.size fun store =>
          store.walkFrom setting plan (position + 1) outer := by
  induction later generalizing current store with
  | nil =>
      have last : values[current + 1]? = none := by
        rw [← Array.getElem?_toList, ← List.head?_drop, remaining]
        rfl
      exact walkFrom_endLoop closes last
  | cons value later ih =>
      have more : values[current + 1]? = some value := by
        rw [← Array.getElem?_toList, ← List.head?_drop, remaining]
        rfl
      have rest : values.toList.drop (current + 1 + 1) = later := by
        rw [← List.drop_drop, remaining]
        rfl
      rw [walkFrom_nextPass closes more, Store.laterPasses,
        Flow.outcome_andThen]
      congr 1
      funext store
      rw [runs, Flow.outcome_andThen]
      congr 1
      funext store
      exact ih rest

end Loops

end

/-! ## Blocks -/

/-- That a pass or a branch was started does not show once it has failed. -/
theorem fail_performed (scene : Scene) (problem : String) :
    (Store.performed scene).fail problem = scene.fail problem := by
  have absorbed (status : Status) :
      Status.worst (Status.worst status .success) .failure = Status.worst status .failure := by
    cases status <;> rfl
  simp [Store.performed, Scene.fail, Scene.report, StatusRecord.add, StatusRecord.promote,
    absorbed]

section

variable {setting : Setting} {plan : Plan} {position closing : Nat} {frames : List Frame}
variable {store : Store} {kind : BlockKind} {opener closer : Command} {body : Store → Flow}
variable {bodyLength : Nat}

/-- A loop with values starts with a pass for the first of them. -/
theorem walkAfter_firstPass {scene : Scene} {parameters : ParameterSet}
    {values : Array Value} {first : Value}
    (given : Builtin.Loop.values parameters scene.workspace
      setting.surroundings.configuration.maxLoopIterations = .ok values)
    (found : values[0]? = some first) :
    store.walkAfter setting plan position frames
        ((Standing.mk setting plan position frames opener).enterLoop store.budget scene parameters
          bodyLength) =
      (store.startPass setting.surroundings.configuration.maxLoopIterations position
        (Builtin.Loop.iterator parameters (blockName parameters)) first
        (Store.performed scene)).outcome plan.size fun store =>
          store.walkFrom setting plan (position + 1)
            (.loop (blockName parameters)
              (Builtin.Loop.iterator parameters (blockName parameters)) values 0 position ::
                frames) := by
  obtain ⟨budget, workspace, files, cancelled, haltOnFailure, exitRequested, journal⟩ := store
  simp only [Standing.enterLoop]
  dsimp only [Standing.limit]
  rw [given]
  dsimp only
  rw [found]
  cases budget with
  | zero =>
      rw [Store.startPass, Store.abort, fail_performed]
      exact walkAfter_of_fault rfl _
  | succ left => exact walkAfter_of_move (.enter ⟨left, Nat.lt_succ_self left⟩) rfl

theorem walkAfter_enterLoop {scene : Scene} {parameters : ParameterSet}
    (closes : plan.ClosesAt closing .loop (blockName parameters) closer)
    (behind : position + 1 + bodyLength = closing)
    (runs : ∀ (frame : Frame) (store : Store),
      frame.isOf .loop (blockName parameters) = true →
      store.walkFrom setting plan (position + 1) (frame :: frames) =
        (body store).outcome plan.size fun store =>
          store.walkFrom setting plan closing (frame :: frames)) :
    store.walkAfter setting plan position frames
        ((Standing.mk setting plan position frames opener).enterLoop store.budget scene parameters
          bodyLength) =
      (store.runPasses setting (blockName parameters) parameters position closing body
        scene).outcome plan.size fun store =>
          store.walkFrom setting plan (closing + 1) frames := by
  subst behind
  cases given : Builtin.Loop.values parameters scene.workspace
      setting.surroundings.configuration.maxLoopIterations with
  | error error =>
      simp only [Standing.enterLoop, Store.runPasses]
      dsimp only [Standing.limit]
      rw [given]
      exact walkAfter_of_move (skipBody bodyLength) rfl
  | ok values =>
      cases listed : values.toList with
      | nil =>
          have none : values[0]? = none := by
            rw [← Array.getElem?_toList, listed]
            rfl
          simp only [Standing.enterLoop, Store.runPasses]
          dsimp only [Standing.limit]
          rw [given]
          dsimp only
          rw [none, listed]
          exact walkAfter_of_move (skipBody bodyLength) rfl
      | cons first later =>
          have found : values[0]? = some first := by
            rw [← Array.getElem?_toList, listed]
            rfl
          have remaining : values.toList.drop (0 + 1) = later := by
            rw [listed]
            rfl
          rw [walkAfter_firstPass given found, Store.runPasses]
          dsimp only
          rw [given]
          dsimp only
          rw [listed]
          dsimp only
          rw [Flow.outcome_andThen]
          congr 1
          funext store
          have own (current : Nat) : (Frame.loop (blockName parameters)
              (Builtin.Loop.iterator parameters (blockName parameters)) values current
              position).isOf .loop (blockName parameters) = true := by
            simp [Frame.isOf, Frame.kind, Frame.name]
          rw [runs _ store (own 0), Flow.outcome_andThen]
          congr 1
          funext store
          exact walkFrom_laterPasses closes (fun current store => runs _ store (own current))
            remaining

theorem walkAfter_enterConditional {scene : Scene} {parameters : ParameterSet}
    (closes : plan.ClosesAt closing .conditional (blockName parameters) closer)
    (behind : position + 1 + bodyLength = closing)
    (runs : ∀ (frame : Frame) (store : Store),
      frame.isOf .conditional (blockName parameters) = true →
      store.walkFrom setting plan (position + 1) (frame :: frames) =
        (body store).outcome plan.size fun store =>
          store.walkFrom setting plan closing (frame :: frames)) :
    store.walkAfter setting plan position frames
        ((Standing.mk setting plan position frames opener).enterConditional scene parameters
          bodyLength) =
      (store.runBranch (blockName parameters) parameters position closing body
        scene).outcome plan.size fun store =>
          store.walkFrom setting plan (closing + 1) frames := by
  subst behind
  simp only [Standing.enterConditional, Store.runBranch]
  cases Builtin.Conditional.holds parameters scene.workspace with
  | error error => exact walkAfter_of_move (skipBody bodyLength) rfl
  | ok holds =>
      cases holds with
      | false => exact walkAfter_of_move (skipBody bodyLength) rfl
      | true =>
          have own : (Frame.conditional (blockName parameters) position).isOf .conditional
              (blockName parameters) = true := by
            simp [Frame.isOf, Frame.kind, Frame.name]
          dsimp only
          rw [Flow.outcome_andThen]
          refine (walkAfter_of_move (.ahead 0) rfl).trans ?_
          congr 1
          funext store
          rw [Flow.outcome_andThen]
          refine (runs _ store own).trans ?_
          congr 1
          funext store
          exact walkFrom_endCondition closes

/-- The walk through a block whose body is run as given. -/
theorem walkFrom_block {content rest : Program} (whole : plan.IsWhole)
    (placed : plan.HasAt position (.block kind opener content closer rest))
    (blocked : (Program.block kind opener content closer rest).WellBlocked)
    (builtin : (Program.block kind opener content closer rest).Builtin)
    (apart : frames.any (Frame.isOf kind (writtenName opener)) = false)
    (runs : ∀ (frame : Frame) (store : Store), frame.isOf kind (writtenName opener) = true →
      store.walkFrom setting plan (position + 1) (frame :: frames) =
        (body store).outcome plan.size fun store =>
          store.walkFrom setting plan (position + 1 + content.size) (frame :: frames)) :
    store.walkFrom setting plan position frames =
      (store.runBlock setting kind opener position (position + 1 + content.size) body).outcome
        plan.size fun store =>
          store.walkFrom setting plan (position + 1 + content.size + 1) frames := by
  obtain ⟨nested, ⟨alone, -⟩, ⟨openerLiteral, closerLiteral, nothingElse, -⟩⟩ := blocked
  obtain ⟨openerBuiltin, closerBuiltin, -⟩ := builtin
  have opens := nested.1
  have sameName : writtenName closer = writtenName opener := nested.2.2.2.2.1
  have here := whole.getElem?_eq placed.block_opener
  have there := whole.getElem?_eq placed.block_closer
  have found := (placed.bodyLength?_eq_size_iff nested (writtenName opener)).mpr ⟨rfl, alone⟩
  apply walkFrom_attempt here (isInert_of_role opens)
  rw [Standing.dispatch_of_opener opens, Standing.openBlock]
  cases prepared : prepare store.scene opener with
  | mk scene given =>
      cases given with
      | none =>
          have skips : (skipBlock plan position opener kind : Except Fault (Move store.budget)) =
              .ok (skipBody content.size) := by
            rw [skipBlock, found]
          dsimp only
          rw [skips]
          exact walkAfter_of_move (skipBody content.size) rfl
      | some parameters =>
          have named := blockName_of_prepare openerBuiltin openerLiteral prepared
          have encloses : enclosedBody plan position frames opener kind (blockName parameters) =
              .ok content.size := by
            rw [enclosedBody, named, apart, found]
            rfl
          have closes : plan.ClosesAt (position + 1 + content.size) kind (blockName parameters)
              closer :=
            ⟨there, closerBuiltin, closerLiteral, nothingElse, sameName.trans named.symm⟩
          dsimp only
          rw [encloses, ← named]
          rw [← named] at runs
          cases kind with
          | loop => exact walkAfter_enterLoop closes rfl runs
          | conditional => exact walkAfter_enterConditional closes rfl runs

/-- No block that is open has the kind and the name of a block of the program. -/
def Program.IsApart (program : Program) (frames : List Frame) : Prop :=
  ∀ kind name, program.Holds kind name → frames.any (Frame.isOf kind name) = false

/-- The walk through a well-blocked program is its interpretation. -/
theorem walkFrom_program (whole : plan.IsWhole) {program : Program}
    (placed : plan.HasAt position program) (blocked : program.WellBlocked)
    (builtin : program.Builtin) (apart : program.IsApart frames) :
    store.walkFrom setting plan position frames =
      (interpret setting program position store).outcome plan.size fun store =>
        store.walkFrom setting plan (position + program.size) frames := by
  induction program generalizing position frames store with
  | done => rfl
  | single command rest ih =>
      have here := whole.getElem?_eq placed.single_command
      rw [walkFrom_command here blocked.nested.1, interpret, Flow.outcome_andThen]
      congr 1
      funext store
      rw [ih placed.single_rest blocked.single_rest builtin apart, Program.size_single,
        Nat.add_assoc, Nat.add_comm 1]
  | block kind opener body closer rest bodyIH restIH =>
      have openApart : frames.any (Frame.isOf kind (writtenName opener)) = false :=
        apart kind _ (.inl ⟨rfl, rfl⟩)
      have bodyApart (frame : Frame) (own : frame.isOf kind (writtenName opener) = true) :
          body.IsApart (frame :: frames) := by
        intro other name holds
        rw [List.any_cons, apart other name (.inr (.inl holds)), Bool.or_false]
        by_contra matched
        simp only [Frame.isOf, Bool.not_eq_false, Bool.and_eq_true, beq_iff_eq] at own matched
        obtain ⟨sameKind, sameName⟩ := matched
        rw [← sameKind, ← sameName, own.1, own.2] at holds
        exact blocked.unrepeated.1 holds
      rw [walkFrom_block whole placed blocked builtin openApart fun frame store own =>
        bodyIH placed.block_body blocked.block_body builtin.2.2.1 (bodyApart frame own),
        interpret, Flow.outcome_andThen]
      congr 1
      funext store
      rw [restIH placed.block_rest blocked.block_rest builtin.2.2.2
        fun other name holds => apart other name (.inr (.inr holds)), Program.size_block]
      have last : position + 1 + body.size + 1 + rest.size =
          position + (body.size + 1 + rest.size + 1) := by omega
      rw [last]

end

/-! ## Whole runs -/

theorem isWhole_plan (commands : List Command) :
    Plan.IsWhole (Processor.plan commands fun _ => true) := by
  intro position planned found
  simp only [Processor.plan] at found
  rw [List.filter_eq_self.mpr (fun _ _ => rfl), List.getElem?_toArray, List.getElem?_mapIdx,
    Option.map_eq_some_iff] at found
  obtain ⟨command, -, rfl⟩ := found
  rfl

theorem findIdx?_plan {commands : List Command} {index : Nat} (inside : index < commands.length) :
    (Processor.plan commands fun _ => true).findIdx? (fun planned => planned.index == index) =
      some index := by
  simp only [Processor.plan]
  rw [List.filter_eq_self.mpr (fun _ _ => rfl), List.findIdx?_toArray,
    List.findIdx?_eq_some_iff_getElem]
  refine ⟨by simpa using inside, by simp, ?_⟩
  intro earlier before
  simp only [List.getElem_mapIdx, beq_iff_eq]
  omega

theorem unplaced_walk_of_wellBlocked {processor : Processor} {program : Program}
    (setting : Setting) (files : FileSystem) (listed : processor.commands = program.commands)
    (blocked : program.WellBlocked) (builtin : program.Builtin) :
    let plan := Processor.plan processor.commands fun _ => true
    let done := (interpret setting program 0 (processor.store files)).result
    unplaced (walk setting plan (processor.machine files plan)) =
      (done.1.machine plan.size 0 [], done.2) := by
  intro plan done
  have start : processor.machine files plan = (processor.store files).machine plan.size 0 [] := by
    simp only [Processor.machine, Store.machine]
    congr 1
    apply Array.ext
    · simp
    · intro index left right
      simp [Store.executionsAt, Processor.store]
  have placed : plan.HasAt 0 program :=
    ⟨[], by rw [List.drop_zero, List.append_nil, ← listed]; exact commands_plan _⟩
  have size : plan.size = program.size := by
    rw [Program.size, ← listed, ← commands_plan processor.commands, Plan.commands,
      List.length_map, Array.length_toList]
  have ends (store : Store) :
      store.walkFrom setting plan (0 + program.size) [] =
        (store.machine plan.size 0 [], .finished) := by
    rw [Store.walkFrom, walk_of_end (by rw [size, Nat.zero_add]; exact Nat.le_refl _)]
    rfl
  have run : (processor.store files).walkFrom setting plan 0 [] = _ :=
    walkFrom_program (isWhole_plan processor.commands) placed blocked builtin
      (fun _ _ _ => List.any_nil)
  rw [Store.walkFrom] at run
  rw [start, run]
  simp only [done]
  cases interpret setting program 0 (processor.store files) with
  | goes store => exact ends store
  | ends store ending => rfl

end Workflow.Run

namespace Workflow.Processor

open CommandFile (builtinLine)

theorem withRecords_eq {commands : List Command} {machine : Run.Machine} {store : Run.Store}
    (executions : machine.executions = (Array.range commands.length).map store.executionsAt) :
    withRecords commands (plan commands fun _ => true) machine =
      commands.mapIdx fun index command =>
        { command with status := .combine (store.executionsAt index).reverse } := by
  apply List.ext_getElem
  · simp [withRecords]
  · intro index left right
    have inside : index < commands.length := by simpa using right
    simp only [withRecords, List.getElem_mapIdx, Run.findIdx?_plan inside, recordAt, executions]
    rw [Array.getD_eq_getD_getElem?, Array.getElem?_eq_getElem (by simpa using inside)]
    simp

/-- The run of a well-blocked list is the interpretation of its tree.  Every list that was loaded
and edited is recognized, by `recognizedBy_of_editAll`. -/
theorem runAll_eq_interpret {processor : Processor} {program : Run.Program} (files : FileSystem)
    (blocks : processor.registry.HasBuiltinBlocks)
    (recognized : ∀ command ∈ processor.commands, command.RecognizedBy processor.registry)
    (listed : processor.commands = program.commands) (blocked : program.WellBlocked) :
    processor.runAll files = processor.interpret files program := by
  have builtin := Run.Program.builtin_of_recognized blocked.nested blocks (listed ▸ recognized)
  have walks := Run.unplaced_walk_of_wellBlocked (processor.setting processor.runFile) files
    listed blocked builtin
  have size : (plan processor.commands fun _ => true).size = processor.commands.length := by
    rw [← Array.length_toList, ← List.length_map (·.command)]
    exact congrArg List.length (Run.commands_plan processor.commands)
  simp only [runAll, runWith, interpret]
  dsimp only at walks ⊢
  rw [size] at walks
  rw [← listed]
  cases walked : Run.walk (processor.setting processor.runFile)
      (plan processor.commands fun _ => true)
      (processor.machine files (plan processor.commands fun _ => true)) with
  | mk machine ending =>
      rw [walked] at walks
      obtain ⟨machines, endings⟩ := Prod.mk.inj walks
      have executions := congrArg Run.Machine.executions machines
      have workspace := congrArg Run.Machine.workspace machines
      have filesLeft := congrArg Run.Machine.files machines
      have cancelled := congrArg Run.Machine.cancelled machines
      dsimp only at executions workspace filesLeft cancelled endings ⊢
      rw [withRecords_eq executions, workspace, filesLeft, cancelled, endings]
      rfl

/-- A loop around a condition. -/
def guardedLoop : Run.Program :=
  .block .loop (builtinLine 1 "For(Name=item,ListProperty=Items)")
    (.block .conditional (builtinLine 2 "If(Name=seen,Condition=\"${item} == b\")")
      (.single (builtinLine 3 "Exit()") .done) (builtinLine 4 "EndIf(Name=seen)")
      (.single (builtinLine 5 "# next") .done))
    (builtinLine 6 "EndFor(Name=item)") .done

/-- The loop ends the run in its second pass. -/
theorem runAll_eq_interpret_guardedLoop :
    let files := FileSystem.empty [] "/"
    let processor := { create Builtin.registry {} files 0 with commands := guardedLoop.commands }
    let run := (processor.setProperty "Items" (.text "a,b,c")).runAll files
    guardedLoop.WellBlocked ∧
      run = (processor.setProperty "Items" (.text "a,b,c")).interpret files guardedLoop ∧
      run.result.ending = .exited 2 := by
  intro files processor run
  have blocked : guardedLoop.WellBlocked := by
    constructor
    · refine ⟨?_, ?_, ?_, ?_, ?_, ⟨?_, ?_, ?_, ?_, ?_, ⟨?_, trivial⟩, ⟨?_, trivial⟩⟩, trivial⟩ <;>
        decide +kernel
    · simp [guardedLoop, Run.Program.Unrepeated, Run.Program.Holds]
    · refine ⟨⟨"item", ?_, ?_, ?_⟩, ⟨"item", ?_, ?_, ?_⟩, ?_,
        ⟨⟨"seen", ?_, ?_, ?_⟩, ⟨"seen", ?_, ?_, ?_⟩, ?_, trivial, trivial⟩, trivial⟩ <;>
        decide +kernel
  refine ⟨blocked, runAll_eq_interpret files Builtin.hasBuiltinBlocks_registry ?_ rfl blocked,
    by decide +kernel⟩
  intro command member
  simp only [guardedLoop, processor, setProperty, Run.Program.commands, List.mem_cons,
    List.mem_append, List.not_mem_nil, or_false] at member
  rcases member with rfl | (rfl | rfl | rfl | rfl) | rfl <;>
    exact CommandFile.recognizedBy_readLenient _ _

end Workflow.Processor
