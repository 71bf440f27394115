import Workflow.Processor
import Workflow.Proofs.Run.Step

/-!
# Traces

The trace of a walk lists the commands that the walk comes to, in the order in which it comes to
them, with the machine in front of each and behind it.  A command in the body of a loop is listed
once for every pass.  Whatever holds at the end of a walk and is passed back over a step holds of
every walk.
-/

namespace Workflow.Run

/-- A command that a walk has come to, with the machine before and after its step. -/
structure Stride where
  before : Machine
  planned : Planned
  after : Machine

/-- A command that is dispatched: it is no line that never runs, and the run is not cancelled. -/
def Stride.Dispatches (stride : Stride) : Prop :=
  stride.planned.command.isInert = false ∧ stride.before.cancelled = false

/-- The machine to which a step leads. -/
def Progress.machine : Progress → Machine
  | .goes next => next
  | .ends last _ => last

/-- The strides of a walk in order. -/
def trace (setting : Setting) (plan : Plan) (machine : Machine) : List Stride :=
  if inside : machine.position < plan.size then
    let planned := plan[machine.position]
    match goes : step setting plan machine planned with
    | .ends last _ => [⟨machine, planned, last⟩]
    | .goes next =>
        have := distance_step_lt inside goes
        ⟨machine, planned, next⟩ :: trace setting plan next
  else []
  termination_by machine.distance plan.size

variable {setting : Setting} {plan : Plan} {machine next last : Machine} {planned : Planned}
variable {ending : Ending}

theorem trace_of_end (outside : plan.size ≤ machine.position) :
    trace setting plan machine = [] := by
  rw [trace, dif_neg (Nat.not_lt.mpr outside)]

theorem trace_of_goes (here : plan[machine.position]? = some planned)
    (goes : step setting plan machine planned = .goes next) :
    trace setting plan machine = ⟨machine, planned, next⟩ :: trace setting plan next := by
  obtain ⟨inside, rfl⟩ := Array.getElem?_eq_some_iff.mp here
  rw [trace, dif_pos inside]
  dsimp only
  split
  · next ends =>
      rw [goes] at ends
      cases ends
  · next goesToo =>
      rw [goes] at goesToo
      cases goesToo
      rfl

theorem trace_of_ends (here : plan[machine.position]? = some planned)
    (ends : step setting plan machine planned = .ends last ending) :
    trace setting plan machine = [⟨machine, planned, last⟩] := by
  obtain ⟨inside, rfl⟩ := Array.getElem?_eq_some_iff.mp here
  rw [trace, dif_pos inside]
  dsimp only
  split
  · next endsToo =>
      rw [ends] at endsToo
      cases endsToo
      rfl
  · next goes =>
      rw [ends] at goes
      cases goes

/-- A walk takes its steps one after the other: it is at the end of its plan, or its step ends it,
or its step goes on to a walk that is nearer to the end. -/
theorem walk_induction (setting : Setting) (plan : Plan) {motive : Machine → Prop}
    (outside : ∀ machine, plan.size ≤ machine.position → motive machine)
    (ends : ∀ machine planned last ending, plan[machine.position]? = some planned →
      step setting plan machine planned = .ends last ending → motive machine)
    (goes : ∀ machine planned next, plan[machine.position]? = some planned →
      step setting plan machine planned = .goes next → motive next → motive machine)
    (machine : Machine) : motive machine := by
  induction size : machine.distance plan.size using Nat.strongRecOn generalizing machine with
  | ind size ih =>
      subst size
      by_cases inside : machine.position < plan.size
      · have here : plan[machine.position]? = some plan[machine.position] :=
          Array.getElem?_eq_getElem inside
        cases progress : step setting plan machine plan[machine.position] with
        | ends last ending => exact ends machine _ last ending here progress
        | goes next =>
            exact goes machine _ next here progress
              (ih _ (distance_step_lt inside progress) next rfl)
      · exact outside machine (Nat.le_of_not_lt inside)

/-- Behind a stride a walk goes on from where the step leads, or the step has ended it. -/
theorem trace_split {stride : Stride} {earlier later : List Stride}
    (splits : trace setting plan machine = earlier ++ stride :: later) :
    (step setting plan stride.before stride.planned = .goes stride.after ∧
      later = trace setting plan stride.after ∧
      walk setting plan machine = walk setting plan stride.after) ∨
    (∃ ending, step setting plan stride.before stride.planned = .ends stride.after ending ∧
      later = [] ∧ walk setting plan machine = (stride.after, ending)) := by
  induction machine using walk_induction setting plan generalizing earlier with
  | outside machine outside => simp [trace_of_end outside] at splits
  | ends machine planned last ending here ends =>
      rw [trace_of_ends here ends, eq_comm, List.append_eq_singleton_iff] at splits
      rcases splits with ⟨-, only⟩ | ⟨-, none⟩
      · cases only
        exact .inr ⟨ending, ends, rfl, walk_of_ends here ends⟩
      · cases none
  | goes machine planned next here goes ih =>
      rw [trace_of_goes here goes] at splits
      rw [walk_of_goes here goes]
      cases earlier with
      | nil =>
          cases splits
          exact .inl ⟨goes, rfl, rfl⟩
      | cons first rest => exact ih (List.cons.inj splits).2

/-- What holds in front of a walk and is kept by all strides up to one holds behind that one.  Only
the last of them may end the walk. -/
theorem holds_of_split {motive : Machine → Prop} {stride : Stride} {earlier later : List Stride}
    (splits : trace setting plan machine = earlier ++ stride :: later) (start : motive machine)
    (keeps : ∀ other ∈ earlier ++ [stride], plan[other.before.position]? = some other.planned →
      (step setting plan other.before other.planned).machine = other.after →
      step setting plan other.before other.planned = .goes other.after ∨ other = stride →
      motive other.before → motive other.after) : motive stride.after := by
  induction machine using walk_induction setting plan generalizing earlier with
  | outside machine outside => simp [trace_of_end outside] at splits
  | ends machine planned last ending here ends =>
      rw [trace_of_ends here ends, eq_comm, List.append_eq_singleton_iff] at splits
      rcases splits with ⟨rfl, only⟩ | ⟨-, none⟩
      · cases only
        exact keeps _ List.mem_cons_self here (by rw [ends]; rfl) (.inr rfl) start
      · cases none
  | goes machine planned next here goes ih =>
      rw [trace_of_goes here goes] at splits
      have steps : (step setting plan machine planned).machine = next := by
        rw [goes]
        rfl
      cases earlier with
      | nil =>
          cases splits
          exact keeps _ List.mem_cons_self here steps (.inl goes) start
      | cons first rest =>
          obtain ⟨same, behind⟩ := List.cons.inj splits
          subst same
          rw [List.cons_append, List.forall_mem_cons] at keeps
          exact ih behind (keeps.1 here steps (.inl goes) start) keeps.2

theorem step_of_mem_trace {stride : Stride} (member : stride ∈ trace setting plan machine) :
    plan[stride.before.position]? = some stride.planned ∧
      (step setting plan stride.before stride.planned).machine = stride.after := by
  revert member
  induction machine using walk_induction setting plan with
  | outside machine outside =>
      rw [trace_of_end outside]
      intro member
      cases member
  | ends machine planned last ending here ends =>
      rw [trace_of_ends here ends]
      intro member
      rw [List.mem_singleton.mp member]
      exact ⟨here, by rw [ends]; rfl⟩
  | goes machine planned next here goes ih =>
      rw [trace_of_goes here goes]
      intro member
      rcases List.mem_cons.mp member with rfl | later
      · exact ⟨here, by rw [goes]; rfl⟩
      · exact ih later

end Workflow.Run

namespace Workflow.Processor

/-- The strides of a run of the commands at the chosen indices. -/
def trace (processor : Processor) (runFile : Action) (files : FileSystem)
    (chosen : Nat → Bool) : List Run.Stride :=
  let plan := plan processor.commands chosen
  Run.trace (processor.setting runFile) plan (processor.machine files plan)

end Workflow.Processor
