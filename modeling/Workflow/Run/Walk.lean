import Workflow.Run.Turn

/-!
# Running a plan to its end

The machine takes one step for every command it comes to.  Blank lines and comments are passed
over.  A run ends at the end of its plan, when it was cancelled, at a fault of the block
structure, when a command asked for it, or after a failure if the policy says so.  A block that
is still open at the end of the plan is a fault of its own.
-/

namespace Workflow.Run

/-- What one step leads to. -/
inductive Progress where
  | goes (machine : Machine)
  | ends (machine : Machine) (ending : Ending)

/-- A record of one failure of a run. -/
def failureRecord (problem : String) : StatusRecord :=
  StatusRecord.fresh.add ⟨.run, .failure, problem, none⟩

/-- The machine after a turn, without the move. -/
def settle (machine : Machine) {budget : Nat} (turn : Turn budget) (scene : Scene) : Machine :=
  { machine.absorb scene with frames := turn.frames }

/-- What a turn leads to. -/
def finish (machine : Machine) (index : Nat) (turn : Turn machine.budget) : Progress :=
  match turn.move with
  | .error fault =>
      .ends (settle machine turn (turn.scene.fail fault.message)) (.faulted fault)
  | .ok move =>
      let settled := settle machine turn turn.scene
      if turn.scene.exitRequested then .ends (settled.go move) (.exited index)
      else if turn.scene.haltOnFailure && turn.scene.status.hasFailure then
        .ends (settled.go move) (.haltedOnFailure index)
      else .goes (settled.go move)

/-- One step of a machine at a command of the plan. -/
def step (setting : Setting) (plan : Plan) (machine : Machine) (planned : Planned) : Progress :=
  if planned.command.isInert then .goes (machine.go (.ahead 0))
  else if machine.cancelled then
    .ends (machine.recordAt machine.position (failureRecord "Run cancelled")) .cancelled
  else
    let standing : Standing :=
      ⟨setting, plan, machine.position, machine.frames, planned.command⟩
    finish machine planned.index (standing.dispatch machine.budget machine.scene)

theorem distance_step_lt {setting : Setting} {plan : Plan} {machine next : Machine}
    {planned : Planned} (inside : machine.position < plan.size)
    (goes : step setting plan machine planned = .goes next) :
    next.distance plan.size < machine.distance plan.size := by
  unfold step at goes
  split at goes
  · cases goes
    exact Machine.distance_go_lt inside _
  · split at goes
    · cases goes
    · unfold finish at goes
      dsimp only at goes
      split at goes
      · cases goes
      · next move _ =>
        split at goes
        · cases goes
        · split at goes
          · cases goes
          · cases goes
            exact @Machine.distance_go_lt _ (settle machine _ _) inside move

/-- The end of a run that has come to the end of its plan. -/
def close (plan : Plan) (machine : Machine) : Machine × Ending :=
  match machine.frames with
  | [] => (machine, .finished)
  | innermost :: _ =>
      match plan[innermost.start]? with
      | none => (machine, .finished)
      | some planned =>
          let fault := missingTerminator planned.command innermost.kind innermost.name
          (machine.recordAt innermost.start (failureRecord fault.message), .faulted fault)

/-- The machine at the end of a run, and how the run ended. -/
def walk (setting : Setting) (plan : Plan) (machine : Machine) : Machine × Ending :=
  if inside : machine.position < plan.size then
    match goes : step setting plan machine plan[machine.position] with
    | .ends machine ending => (machine, ending)
    | .goes next =>
        have := distance_step_lt inside goes
        walk setting plan next
  else close plan machine
  termination_by machine.distance plan.size

end Workflow.Run
