import Workflow.Proofs.Run.Requests

/-!
# Capping a sequence cannot be observed

The values that a loop leaves out of a sequence belong to passes that could never start.  So every
run is the one of the engine whose loops take whole sequences, command by command, and the limit
ends both at the same pass.
-/

namespace Workflow.Run.Endless

variable {blocks : List Block}

/-! ## Steps -/

section

variable {machine : Run.Machine}

theorem go_bare (machine : Run.Machine) {budget : Nat} (turn : Turn budget) (scene : Scene)
    (move : Move machine.budget) :
    (settle machine.bare (bareTurn machine.position turn) scene).go
        (bareMove machine.position move) =
      ((settle machine turn scene).go move).bare := by
  cases move <;> rfl

/-- What a turn leads to does not depend on the values of open loops. -/
theorem finish_bare (index : Nat) (turn : Turn machine.budget) :
    finish machine.bare index (bareTurn machine.position turn) =
      match finish machine index turn with
      | .goes next => .goes next.bare
      | .ends last ending => .ends last.bare ending := by
  cases moves : turn.move with
  | error fault =>
      have bareMoves : (bareTurn machine.position turn).move = .error fault :=
        congrArg (Except.map _) moves
      rw [finish_of_error moves]
      exact finish_of_error bareMoves
  | ok move =>
      have bareMoves : (bareTurn machine.position turn).move =
          .ok (bareMove machine.position move) :=
        congrArg (Except.map _) moves
      have goes := go_bare machine turn turn.scene move
      rw [finish_of_ok moves]
      refine (@finish_of_ok machine.bare index _ _ bareMoves).trans ?_
      rw [show endingAfter? index (bareTurn machine.position turn).scene =
        endingAfter? index turn.scene from rfl]
      cases endingAfter? index turn.scene with
      | none => exact congrArg Run.Progress.goes goes
      | some ending => exact congrArg (Run.Progress.ends · ending) goes

/-- The progress of the uncapped engine is the one of the engine. -/
def Simulates (limit : Nat) : Run.Progress → Progress → Prop
  | .ends last ending, progress => progress = .ends last.bare ending
  | .goes next, progress => ∃ blocks, progress = .goes ⟨next.bare, blocks⟩ ∧
      List.Forall₂ (Matches limit next.budget) next.frames blocks ∧ next.budget ≤ limit

theorem left_le {budget : Nat} (move : Move budget) : move.left ≤ budget := by
  cases move with
  | ahead skipped => exact Nat.le_refl budget
  | enter left | again _ left => exact Nat.le_of_lt left.isLt

theorem simulates_finish {limit : Nat} {turn : Turn machine.budget}
    {pass? : Option (String × Value)} {request : Request}
    (answers : Answers limit machine.position turn pass? request) (within : machine.budget ≤ limit)
    (index : Nat) :
    Simulates limit (finish machine index turn)
      (.within request.granted
        (finish machine.bare index (request.turn limit machine.budget))) := by
  have becomes : finish machine.bare index (request.turn limit machine.budget) =
      finish machine.bare index (bareTurn machine.position turn) :=
    congrArg (finish machine.bare index) answers.becomes
  rw [becomes, finish_bare]
  cases moves : turn.move with
  | error fault =>
      rw [finish_of_error moves]
      rfl
  | ok move =>
      rw [finish_of_ok moves]
      cases endingAfter? index turn.scene with
      | some ending => rfl
      | none =>
          refine ⟨request.granted, rfl, ?_, ?_⟩
          · rw [frames_settle_go, budget_settle_go]
            exact answers.blocks move moves
          · rw [budget_settle_go]
            exact Nat.le_trans (left_le move) within

/-- Both engines come to the same pass and go on in the same way. -/
theorem simulates_step {setting : Setting} (plan : Plan)
    (same : List.Forall₂ (Matches setting.surroundings.configuration.maxLoopIterations
      machine.budget) machine.frames blocks)
    (within : machine.budget ≤ setting.surroundings.configuration.maxLoopIterations)
    (planned : Planned) :
    Run.passAt? setting plan machine planned.command =
        passAt? setting plan ⟨machine.bare, blocks⟩ planned.command ∧
      Simulates setting.surroundings.configuration.maxLoopIterations
        (Run.step setting plan machine planned)
        (step setting plan ⟨machine.bare, blocks⟩ planned) := by
  simp only [Run.passAt?, passAt?, Run.step, step, requestAt?]
  have running : machine.bare.cancelled = machine.cancelled := rfl
  rw [running]
  cases planned.command.isInert with
  | true => exact ⟨rfl, blocks, rfl, same, within⟩
  | false =>
      cases machine.cancelled with
      | true => exact ⟨rfl, rfl⟩
      | false =>
          have answers := @answers_dispatch machine.budget blocks
            (standingAt setting plan machine planned.command) machine.scene same within
          refine ⟨answers.asks.symm, ?_⟩
          exact simulates_finish answers within planned.index

end

theorem close_bare (plan : Plan) (machine : Run.Machine) :
    close plan machine.bare = ((close plan machine).1.bare, (close plan machine).2) := by
  obtain ⟨position, frames, budget⟩ := machine
  cases frames with
  | nil => rfl
  | cons innermost outer =>
      have opened : innermost.bare.start = innermost.start := by cases innermost <;> rfl
      have kind : innermost.bare.kind = innermost.kind := by cases innermost <;> rfl
      simp only [close, Run.Machine.bare, List.map_cons, opened, kind, name_bare]
      cases plan[innermost.start]? <;> rfl

variable {setting : Setting} {plan : Plan}

/-- The course of the uncapped engine is what the engine comes to, leaves behind, and ends with. -/
theorem course_eq (machine : Run.Machine)
    (same : List.Forall₂ (Matches setting.surroundings.configuration.maxLoopIterations
      machine.budget) machine.frames blocks)
    (within : machine.budget ≤ setting.surroundings.configuration.maxLoopIterations) :
    course setting plan ⟨machine.bare, blocks⟩ =
      ⟨(trace setting plan machine).map (Stride.dispatch setting plan),
        (walk setting plan machine).1.bare, (walk setting plan machine).2⟩ := by
  induction machine using walk_induction setting plan generalizing blocks with
  | outside machine outside =>
      rw [trace_of_end outside, walk_of_end outside, course_of_end outside, close_bare]
      rfl
  | ends machine planned last ending here ends =>
      obtain ⟨asks, steps⟩ := simulates_step plan same within planned
      rw [ends] at steps
      rw [trace_of_ends here ends, walk_of_ends here ends, course_of_ends here steps, ← asks]
      rfl
  | goes machine planned next here goes ih =>
      obtain ⟨asks, steps⟩ := simulates_step plan same within planned
      rw [goes] at steps
      obtain ⟨later, steps, sameToo, withinToo⟩ := steps
      rw [trace_of_goes here goes, walk_of_goes here goes, course_of_goes here steps, ← asks,
        ih sameToo withinToo]
      rfl

end Workflow.Run.Endless

namespace Workflow.Processor

/-- The dispatches of a run of the commands at the chosen indices. -/
def dispatches (processor : Processor) (files : FileSystem) (chosen : Nat → Bool) :
    List Run.Dispatch :=
  (processor.trace processor.runFile files chosen).map
    (Run.Stride.dispatch (processor.setting processor.runFile) (plan processor.commands chosen))

theorem courseOf_eq (runFile : Action) (processor : Processor) (files : FileSystem)
    (chosen : Nat → Bool) :
    Run.Endless.courseOf runFile processor files chosen =
      let plan := plan processor.commands chosen
      let (last, ending) :=
        Run.walk (processor.setting runFile) plan (processor.machine files plan)
      ⟨(processor.trace runFile files chosen).map
          (Run.Stride.dispatch (processor.setting runFile) plan), last.bare, ending⟩ :=
  Run.Endless.course_eq (processor.machine files _) .nil (Nat.le_refl _)

theorem endless_runWith_eq (runFile : Action) (processor : Processor) (files : FileSystem)
    (chosen : Nat → Bool) :
    Run.Endless.runWith runFile processor files chosen =
      runWith runFile processor files chosen := by
  simp only [Run.Endless.runWith, courseOf_eq]
  rfl

theorem endless_runFile_eq (registry : Registry) (levels : Nat) :
    Run.Endless.runFile registry levels = Nested.runFile registry levels := by
  induction levels with
  | zero => rfl
  | succ levels ih =>
      funext surroundings parameters scene
      simp only [Run.Endless.runFile, Nested.runFile, endless_runWith_eq, ih]

/-- What running another command file does in the uncapped engine. -/
def endlessRunFile (processor : Processor) : Action :=
  Run.Endless.runFile processor.registry (Builtin.RunCommands.maxDepth - processor.depth)

/-- Capping the sequences of loops cannot be observed.  An engine whose loops take whole sequences
comes to the same commands and starts the same passes, and leaves the same behind; and in both a
run is aborted exactly at the first pass behind the limit, before its property is set. -/
theorem run_eq_endless (processor : Processor) (files : FileSystem) (chosen : Nat → Bool) :
    let run := runWith processor.runFile processor files chosen
    let course := Run.Endless.courseOf processor.endlessRunFile processor files chosen
    Run.Endless.runWith processor.endlessRunFile processor files chosen = run ∧
      course.dispatches = processor.dispatches files chosen ∧
      course.ending = run.result.ending ∧
      Run.LimitsPasses processor.configuration.maxLoopIterations (processor.dispatches files chosen)
        run.result.ending := by
  intro run course
  have inner : processor.endlessRunFile = processor.runFile := endless_runFile_eq ..
  have same : course = Run.Endless.courseOf processor.runFile processor files chosen := by
    rw [← inner]
  have listed : course.dispatches = processor.dispatches files chosen := by
    rw [same, courseOf_eq]
    rfl
  have ended : course.ending = run.result.ending := by
    rw [same, courseOf_eq]
    rfl
  refine ⟨?_, listed, ended, ?_⟩
  · rw [inner]
    exact endless_runWith_eq ..
  · have metered := Run.Endless.metered_course (processor.setting processor.endlessRunFile)
      (plan processor.commands chosen)
      ⟨processor.machine files (plan processor.commands chosen), []⟩
    rw [← listed, ← ended]
    exact Run.Metered.limitsPasses metered

end Workflow.Processor
