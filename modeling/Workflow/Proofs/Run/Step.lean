import Workflow.Run.Walk

/-!
# What a step does

A step that goes on has either passed over a line that never runs, or has dispatched a command
that neither asked for the end of the run nor failed under a policy that halts.  A walk inside its
plan is one step and the walk from there.
-/

namespace Workflow.Run

variable {setting : Setting} {plan : Plan} {machine next : Machine} {planned : Planned}

/-- What a command sees of the run when the machine comes to it. -/
def standingAt (setting : Setting) (plan : Plan) (machine : Machine) (command : Command) :
    Standing := ⟨setting, plan, machine.position, machine.frames, command⟩

/-- The turn of the command that the machine has come to. -/
def turnAt (setting : Setting) (plan : Plan) (machine : Machine) (command : Command) :
    Turn machine.budget :=
  (standingAt setting plan machine command).dispatch machine.budget machine.scene

theorem drop_of_getElem? {α : Type} {values : Array α} {index : Nat} {value : α}
    (here : values[index]? = some value) :
    values.toList.drop index = value :: values.toList.drop (index + 1) := by
  rw [List.drop_eq_getElem?_toList_append, Array.getElem?_toList, here]
  rfl

theorem Standing.dispatch_of_opener {standing : Standing} {kind : BlockKind}
    (opens : standing.command.role? = some kind.opener) (budget : Nat) (scene : Scene) :
    standing.dispatch budget scene = standing.openBlock budget scene kind := by
  cases kind <;> (unfold dispatch; rw [opens]; rfl)

/-- A command that neither opens nor closes a block is executed. -/
theorem Standing.dispatch_of_ordinary {standing : Standing}
    (ordinary : standing.command.role? = none) (budget : Nat) (scene : Scene) :
    standing.dispatch budget scene =
      standing.turn (execute standing.setting standing.command scene) (.ok (.ahead 0)) := by
  rw [dispatch, ordinary]

theorem isInert_of_role {command : Command} {role : BlockRole}
    (plays : command.role? = some role) : command.isInert = false := by
  simp only [Command.role?, Command.definition?] at plays
  simp only [Command.isInert]
  split <;> simp_all

theorem step_of_inert (inert : planned.command.isInert = true) :
    step setting plan machine planned = .goes (machine.go (.ahead 0)) := by
  simp [step, inert]

theorem step_of_cancelled (active : planned.command.isInert = false)
    (cancelled : machine.cancelled = true) :
    step setting plan machine planned =
      .ends (machine.recordAt machine.position (failureRecord "Run cancelled")) .cancelled := by
  simp [step, active, cancelled]

theorem step_of_running (active : planned.command.isInert = false)
    (running : machine.cancelled = false) :
    step setting plan machine planned =
      finish machine planned.index (turnAt setting plan machine planned.command) := by
  simp [step, active, running, turnAt, standingAt]

/-- The budget that a move leaves. -/
def Move.left {budget : Nat} : Move budget → Nat
  | .ahead _ => budget
  | .enter left => left
  | .again _ left => left

/-- The two ways in which a step goes on. -/
theorem step_eq_goes (goes : step setting plan machine planned = .goes next) :
    (planned.command.isInert = true ∧ next = machine.go (.ahead 0)) ∨
    (planned.command.isInert = false ∧ machine.cancelled = false ∧
      ∃ move, (turnAt setting plan machine planned.command).move = .ok move ∧
        next = (settle machine (turnAt setting plan machine planned.command)
          (turnAt setting plan machine planned.command).scene).go move) := by
  simp only [step] at goes
  split at goes
  · next inert =>
      cases goes
      exact .inl ⟨inert, rfl⟩
  · next active =>
      split at goes
      · cases goes
      · next running =>
          right
          refine ⟨by simpa using active, by simpa using running, ?_⟩
          simp only [finish] at goes
          split at goes
          · cases goes
          · next move moves =>
              refine ⟨move, moves, ?_⟩
              split at goes
              · cases goes
              · split at goes
                · cases goes
                · cases goes
                  rfl

/-- The three ways in which a step ends a run: the run was cancelled, the command made the rest of
the run meaningless, or it asked for the end or failed under a policy that halts. -/
theorem step_eq_ends {last : Machine} {ending : Ending}
    (ends : step setting plan machine planned = .ends last ending) :
    (ending = .cancelled ∧
      last = machine.recordAt machine.position (failureRecord "Run cancelled")) ∨
    (∃ fault, (turnAt setting plan machine planned.command).move = .error fault ∧
      ending = .faulted fault ∧
      last = settle machine (turnAt setting plan machine planned.command)
        ((turnAt setting plan machine planned.command).scene.fail fault.message)) ∨
    (∃ move, (turnAt setting plan machine planned.command).move = .ok move ∧
      (ending = .exited planned.index ∨ ending = .haltedOnFailure planned.index) ∧
      last = (settle machine (turnAt setting plan machine planned.command)
        (turnAt setting plan machine planned.command).scene).go move) := by
  simp only [step] at ends
  split at ends
  · cases ends
  · split at ends
    · cases ends
      exact .inl ⟨rfl, rfl⟩
    · right
      simp only [finish] at ends
      split at ends
      · next fault faults =>
          cases ends
          exact .inl ⟨fault, faults, rfl, rfl⟩
      · next move moves =>
          right
          refine ⟨move, moves, ?_⟩
          split at ends
          · cases ends
            exact ⟨.inl rfl, rfl⟩
          · split at ends
            · cases ends
              exact ⟨.inr rfl, rfl⟩
            · cases ends

/-- A step does not end a run that could go on. -/
theorem ending_ne_finished {last : Machine} {ending : Ending}
    (ends : step setting plan machine planned = .ends last ending) : ending ≠ .finished := by
  obtain ⟨rfl, -⟩ | ⟨fault, -, rfl, -⟩ | ⟨move, -, rfl | rfl, -⟩ := step_eq_ends ends <;>
    exact fun same => nomatch same

/-- Whether a step goes on. -/
def Progress.goesOn : Progress → Bool
  | .goes _ => true
  | .ends _ _ => false

theorem Progress.exists_eq_goes {progress : Progress} (running : progress.goesOn = true) :
    ∃ next, progress = .goes next := by
  cases progress with
  | goes next => exact ⟨next, rfl⟩
  | ends last ending => cases running

/-- The end of a run that a step leads to. -/
def Progress.follow (setting : Setting) (plan : Plan) : Progress → Machine × Ending
  | .goes next => walk setting plan next
  | .ends last ending => (last, ending)

/-- A walk inside its plan is a step and the walk from there. -/
theorem walk_of_getElem? (here : plan[machine.position]? = some planned) :
    walk setting plan machine = (step setting plan machine planned).follow setting plan := by
  obtain ⟨inside, rfl⟩ := Array.getElem?_eq_some_iff.mp here
  rw [walk, dif_pos inside]
  split
  · next ends => rw [ends, Progress.follow]
  · next goes => simp only [goes, Progress.follow]

theorem walk_of_goes (here : plan[machine.position]? = some planned)
    (goes : step setting plan machine planned = .goes next) :
    walk setting plan machine = walk setting plan next := by
  rw [walk_of_getElem? here, goes, Progress.follow]

theorem walk_of_ends {last : Machine} {ending : Ending}
    (here : plan[machine.position]? = some planned)
    (ends : step setting plan machine planned = .ends last ending) :
    walk setting plan machine = (last, ending) := by
  rw [walk_of_getElem? here, ends, Progress.follow]

theorem walk_of_end (outside : plan.size ≤ machine.position) :
    walk setting plan machine = close plan machine := by
  rw [walk, dif_neg (Nat.not_lt.mpr outside)]

end Workflow.Run
