import Workflow.Proofs.Run.Frames
import Workflow.Proofs.Run.Outcomes
import Workflow.Proofs.Run.Records
import Workflow.Proofs.Run.Trace

/-!
# The account of a run

The account of a run lists what the run adds to the records of its commands, in the order of its
trace: the entries of every dispatch, the cancellation or the fault that ends the run, and the
fault of a block that is still open at the end of the plan.  What a command has been given at the
end of a walk is what the account has for it.
-/

namespace Workflow.Run

/-- What a run adds to the record of the command at an index in one go. -/
structure Entry where
  index : Nat
  added : List Record

/-- The record of the execution of the command that the machine has come to.  A line that never
runs is not executed. -/
def execution? (setting : Setting) (plan : Plan) (machine : Machine) (command : Command) :
    Option StatusRecord :=
  if command.isInert then none
  else if machine.cancelled then some (failureRecord "Run cancelled")
  else some (turnAt setting plan machine command).status

/-- What a stride adds to the record of its command. -/
def Stride.addition? (setting : Setting) (plan : Plan) (stride : Stride) : Option Entry :=
  (execution? setting plan stride.before stride.planned.command).map fun status =>
    ⟨stride.planned.index, status.records⟩

/-- What is added to the record of the command that opened the innermost block, if a block is still
open at the end of the plan. -/
def leftOpen? (plan : Plan) (machine : Machine) : Option Entry := do
  let innermost ← machine.frames.head?
  let planned ← plan[innermost.start]?
  let fault := missingTerminator planned.command innermost.kind innermost.name
  some ⟨planned.index, (failureRecord fault.message).records⟩

/-- The machine with which a walk comes to the end of its plan, if no step ends it before. -/
def arrival? (setting : Setting) (plan : Plan) (machine : Machine) : Option Machine :=
  if inside : machine.position < plan.size then
    match goes : step setting plan machine plan[machine.position] with
    | .ends _ _ => none
    | .goes next =>
        have := distance_step_lt inside goes
        arrival? setting plan next
  else some machine
  termination_by machine.distance plan.size

/-- What a walk adds to the records of its commands, in order. -/
def account (setting : Setting) (plan : Plan) (machine : Machine) : List Entry :=
  (trace setting plan machine).filterMap (Stride.addition? setting plan) ++
    ((arrival? setting plan machine).bind (leftOpen? plan)).toList

/-- What an account has for the command at an index, in order. -/
def addedAt (account : List Entry) (index : Nat) : List (List Record) :=
  (account.filter fun entry => entry.index == index).map (·.added)

variable {setting : Setting} {plan : Plan} {machine next last : Machine} {planned : Planned}
variable {ending : Ending}

theorem execution?_of_inert (inert : planned.command.isInert = true) :
    execution? setting plan machine planned.command = none := by
  simp [execution?, inert]

theorem execution?_of_running (active : planned.command.isInert = false)
    (running : machine.cancelled = false) :
    execution? setting plan machine planned.command =
      some (turnAt setting plan machine planned.command).status := by
  simp [execution?, active, running]

theorem arrival?_of_end (outside : plan.size ≤ machine.position) :
    arrival? setting plan machine = some machine := by
  rw [arrival?, dif_neg (Nat.not_lt.mpr outside)]

theorem arrival?_of_goes (here : plan[machine.position]? = some planned)
    (goes : step setting plan machine planned = .goes next) :
    arrival? setting plan machine = arrival? setting plan next := by
  obtain ⟨inside, rfl⟩ := Array.getElem?_eq_some_iff.mp here
  rw [arrival?, dif_pos inside]
  split
  · next ends =>
      rw [goes] at ends
      cases ends
  · next goesToo =>
      rw [goes] at goesToo
      cases goesToo
      rfl

theorem arrival?_of_ends (here : plan[machine.position]? = some planned)
    (ends : step setting plan machine planned = .ends last ending) :
    arrival? setting plan machine = none := by
  obtain ⟨inside, rfl⟩ := Array.getElem?_eq_some_iff.mp here
  rw [arrival?, dif_pos inside]
  split
  · rfl
  · next goes =>
      rw [ends] at goes
      cases goes

/-- At the end of its plan a walk only adds the fault of an open block. -/
theorem account_of_end (outside : plan.size ≤ machine.position) :
    account setting plan machine = (leftOpen? plan machine).toList := by
  rw [account, trace_of_end outside, arrival?_of_end outside]
  rfl

theorem account_of_goes (here : plan[machine.position]? = some planned)
    (goes : step setting plan machine planned = .goes next) :
    account setting plan machine =
      (Stride.addition? setting plan ⟨machine, planned, next⟩).toList ++
        account setting plan next := by
  rw [account, trace_of_goes here goes, arrival?_of_goes here goes, account, List.filterMap_cons]
  cases Stride.addition? setting plan ⟨machine, planned, next⟩ <;> rfl

theorem account_of_ends (here : plan[machine.position]? = some planned)
    (ends : step setting plan machine planned = .ends last ending) :
    account setting plan machine =
      (Stride.addition? setting plan ⟨machine, planned, last⟩).toList := by
  rw [account, trace_of_ends here ends, arrival?_of_ends here ends, List.filterMap_cons]
  cases Stride.addition? setting plan ⟨machine, planned, last⟩ <;> rfl

/-! ## Executions -/

/-- Whatever a turn leads to, its execution is noted. -/
theorem executions_finish (machine : Machine) (index : Nat) (turn : Turn machine.budget) :
    (finish machine index turn).machine.executions =
      machine.executions.modify machine.position (turn.status :: ·) := by
  obtain ⟨scene, frames, move⟩ := turn
  cases move with
  | error fault => rfl
  | ok move =>
      simp only [finish]
      split
      · exact executions_settle_go ..
      · split
        · exact executions_settle_go ..
        · exact executions_settle_go ..

theorem scene_finish (machine : Machine) (index : Nat) (turn : Turn machine.budget) :
    (finish machine index turn).machine.scene = { turn.scene with status := .fresh } := by
  obtain ⟨scene, frames, move⟩ := turn
  cases move with
  | error fault => rfl
  | ok move =>
      have moves : ((settle machine ⟨scene, frames, .ok move⟩ scene).go move).scene =
          { scene with status := .fresh } := by
        cases move <;> rfl
      simp only [finish]
      split
      · exact moves
      · split
        · exact moves
        · exact moves

/-- A step notes the execution of its command and no other. -/
theorem executions_step (setting : Setting) (plan : Plan) (machine : Machine)
    (planned : Planned) :
    (step setting plan machine planned).machine.executions =
      match execution? setting plan machine planned.command with
      | none => machine.executions
      | some status => machine.executions.modify machine.position (status :: ·) := by
  simp only [step, execution?]
  split
  · rfl
  · split
    · rfl
    · exact executions_finish ..

/-- The records of the executions at a position, in order. -/
def Machine.executionsAt (machine : Machine) (position : Nat) : List StatusRecord :=
  (machine.executions.getD position []).reverse

theorem executionsAt_of_modify {position : Nat} {status : StatusRecord}
    (notes : next.executions = machine.executions.modify position (status :: ·))
    (inside : position < machine.executions.size) (other : Nat) :
    next.executionsAt other =
      machine.executionsAt other ++ if position = other then [status] else [] := by
  simp only [Machine.executionsAt, notes, Array.getD_eq_getD_getElem?, Array.getElem?_modify]
  split
  · next same =>
      subst same
      simp [inside]
  · simp

/-- A command that is dispatched has one more execution, and no other command has. -/
theorem executionsAt_step_of_running (setting : Setting)
    (active : planned.command.isInert = false) (running : machine.cancelled = false)
    (here : plan[machine.position]? = some planned)
    (sized : machine.executions.size = plan.size) (position : Nat) :
    (step setting plan machine planned).machine.executionsAt position =
      machine.executionsAt position ++
        if machine.position = position then
          [(turnAt setting plan machine planned.command).status]
        else [] := by
  obtain ⟨inside, -⟩ := Array.getElem?_eq_some_iff.mp here
  have notes := executions_step setting plan machine planned
  rw [execution?_of_running active running] at notes
  exact executionsAt_of_modify notes (sized ▸ inside) position

theorem size_executions_step (setting : Setting) (plan : Plan) (machine : Machine)
    (planned : Planned) :
    (step setting plan machine planned).machine.executions.size = machine.executions.size := by
  rw [executions_step]
  split
  · rfl
  · exact Array.size_modify ..

section

variable {position : Nat} {own : Planned} {status : StatusRecord}

theorem addedAt_append (front back : List Entry) (index : Nat) :
    addedAt (front ++ back) index = addedAt front index ++ addedAt back index := by
  simp [addedAt]

theorem index_eq_iff (distinct : (plan.toList.map (·.index)).Nodup) {other : Nat}
    (here : plan[position]? = some planned) (stands : plan[other]? = some own) :
    planned.index = own.index ↔ position = other := by
  have found := Processor.findIdx?_of_getElem? distinct here
  have foundOther := Processor.findIdx?_of_getElem? distinct stands
  constructor
  · intro same
    rw [same, foundOther] at found
    exact (Option.some.inj found).symm
  · rintro rfl
    rw [here] at stands
    rw [Option.some.inj stands]

/-- An execution that is noted is added to the command that stands at its position, and to no
other. -/
theorem added_of_modify (distinct : (plan.toList.map (·.index)).Nodup) {other : Nat}
    (sized : machine.executions.size = plan.size)
    (notes : next.executions = machine.executions.modify position (status :: ·))
    (here : plan[position]? = some planned) (stands : plan[other]? = some own) :
    (next.executionsAt other).map (·.records) =
      (machine.executionsAt other).map (·.records) ++
        addedAt [⟨planned.index, status.records⟩] own.index := by
  obtain ⟨inside, -⟩ := Array.getElem?_eq_some_iff.mp here
  rw [executionsAt_of_modify notes (sized ▸ inside), List.map_append]
  congr 1
  by_cases same : position = other
  · have index := (index_eq_iff distinct here stands).mpr same
    simp [addedAt, same, index]
  · have index := (index_eq_iff distinct here stands).not.mpr same
    simp [addedAt, same, index]

/-- A step adds its entry. -/
theorem added_step (distinct : (plan.toList.map (·.index)).Nodup)
    (sized : machine.executions.size = plan.size)
    (here : plan[machine.position]? = some planned)
    (steps : (step setting plan machine planned).machine = next)
    (stands : plan[position]? = some own) :
    (next.executionsAt position).map (·.records) =
      (machine.executionsAt position).map (·.records) ++
        addedAt (Stride.addition? setting plan ⟨machine, planned, next⟩).toList own.index := by
  have notes := executions_step setting plan machine planned
  rw [steps] at notes
  simp only [Stride.addition?]
  cases executes : execution? setting plan machine planned.command with
  | none =>
      rw [executes] at notes
      simp [Machine.executionsAt, notes, addedAt]
  | some status =>
      rw [executes] at notes
      exact added_of_modify distinct sized notes here stands

theorem added_close (distinct : (plan.toList.map (·.index)).Nodup)
    (sized : machine.executions.size = plan.size) (stands : plan[position]? = some own) :
    ((close plan machine).1.executionsAt position).map (·.records) =
      (machine.executionsAt position).map (·.records) ++
        addedAt (leftOpen? plan machine).toList own.index := by
  simp only [close, leftOpen?]
  split
  · next closed => simp [closed, addedAt]
  · next innermost outer front =>
      rw [front]
      split
      · next absent => simp [absent, addedAt]
      · next opener here =>
          simp only [List.head?_cons, Option.bind_eq_bind, Option.bind_some, here]
          exact added_of_modify distinct sized rfl here stands

/-- A walk adds to the records of every command what its account has for it. -/
theorem added_walk (distinct : (plan.toList.map (·.index)).Nodup)
    (sized : machine.executions.size = plan.size) (stands : plan[position]? = some own) :
    ((walk setting plan machine).1.executionsAt position).map (·.records) =
      (machine.executionsAt position).map (·.records) ++
        addedAt (account setting plan machine) own.index := by
  induction machine using walk_induction setting plan with
  | outside machine outside =>
      rw [walk_of_end outside, account_of_end outside]
      exact added_close distinct sized stands
  | ends machine planned last ending here ends =>
      rw [walk_of_ends here ends, account_of_ends here ends]
      exact added_step distinct sized here (by rw [ends]; rfl) stands
  | goes machine planned next here goes ih =>
      have steps : (step setting plan machine planned).machine = next := by
        rw [goes]
        rfl
      have sizedToo : next.executions.size = plan.size := by
        rw [← steps, size_executions_step, sized]
      rw [walk_of_goes here goes, account_of_goes here goes, ih sizedToo,
        added_step distinct sized here steps stands, addedAt_append, List.append_assoc]

end

end Workflow.Run
