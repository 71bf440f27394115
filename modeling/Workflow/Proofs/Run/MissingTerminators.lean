import Workflow.Proofs.Run.Frames
import Workflow.Proofs.Run.Trace

/-!
# Reports of missing terminators

A run is aborted because of a missing terminator in two places.  At the command that opens a block,
no terminator behind it has the name that is searched for.  At the end of the plan, a block that is
still open is reported in the same words, although its terminator was found when it was opened.
-/

namespace Workflow.Run

variable {setting : Setting} {plan : Plan} {machine last : Machine} {planned : Planned}
variable {fault : Fault} {kind : BlockKind} {name : String}

/-- The place of the command that is blamed for a missing terminator: where the run was aborted or,
at the end of the plan, where the innermost open block starts. -/
def blamed (plan : Plan) (last : Machine) : Nat :=
  if last.position < plan.size then last.position
  else
    match last.frames with
    | [] => last.position
    | innermost :: _ => innermost.start

theorem blamed_of_lt (inside : last.position < plan.size) : blamed plan last = last.position :=
  if_pos inside

theorem blamed_of_le {innermost : Frame} {outer : List Frame}
    (outside : plan.size ≤ last.position) (front : last.frames = innermost :: outer) :
    blamed plan last = innermost.start := by
  rw [blamed, if_neg (Nat.not_lt.mpr outside), front]

/-- A block is blamed for a missing terminator, under the name that was searched for.  The
terminator is there if the run has come to the end of the plan, and is not there otherwise. -/
structure Blames (plan : Plan) (last : Machine) (planned : Planned) (kind : BlockKind)
    (name : String) : Prop where
  here : plan[blamed plan last]? = some planned
  opens : planned.command.role? = some kind.opener
  searched : last.position < plan.size → name = searchedName last.scene planned.command
  terminates_iff : plan.TerminatesBehind (blamed plan last) kind name ↔ plan.size ≤ last.position

/-- What is reported at the end of a plan is the innermost open block. -/
theorem close_eq_faulted (aborts : close plan machine = (last, .faulted fault)) :
    ∃ innermost outer planned, last.frames = innermost :: outer ∧
      last.position = machine.position ∧ innermost ∈ machine.frames ∧
      plan[innermost.start]? = some planned ∧
      fault = missingTerminator planned.command innermost.kind innermost.name := by
  simp only [close] at aborts
  split at aborts
  · cases aborts
  · next innermost outer front =>
      split at aborts
      · cases aborts
      · next planned here =>
          cases aborts
          exact ⟨innermost, outer, planned, front, rfl, by simp [front], here, rfl⟩

theorem blames_of_close (outside : plan.size ≤ machine.position)
    (placed : ∀ frame ∈ machine.frames, frame.IsPlaced plan)
    (aborts : close plan machine = (last, .faulted fault)) :
    ∃ planned kind name, fault = missingTerminator planned.command kind name ∧
      Blames plan last planned kind name := by
  obtain ⟨innermost, outer, planned, front, same, member, here, reported⟩ :=
    close_eq_faulted aborts
  obtain ⟨⟨opener, there, opens⟩, terminates⟩ := placed innermost member
  rw [here] at there
  cases there
  rw [← same] at outside
  have start := blamed_of_le outside front
  exact ⟨planned, innermost.kind, innermost.name, reported, start ▸ here, opens,
    fun inside => absurd outside (Nat.not_le.mpr inside), iff_of_true (start ▸ terminates) outside⟩

theorem blames_of_ends (here : plan[machine.position]? = some planned)
    (missing : fault.isMissingTerminator = true)
    (aborts : step setting plan machine planned = .ends last (.faulted fault)) :
    ∃ kind name, fault = missingTerminator planned.command kind name ∧
      Blames plan last planned kind name := by
  obtain ⟨ended, -⟩ | ⟨other, faults, ended, settles⟩ | ⟨move, -, ended | ended, -⟩ :=
    step_eq_ends aborts <;> cases ended
  obtain ⟨inside, -⟩ := Array.getElem?_eq_some_iff.mp here
  have same : last.position = machine.position := by rw [settles]; rfl
  have start : blamed plan last = machine.position := by
    rw [blamed_of_lt (same ▸ inside), same]
  have comes := comes_turnAt setting plan machine planned.command
  generalize turnAt setting plan machine planned.command = turn at comes faults settles
  cases comes with
  | executed | skipped | entersCondition | entersLoop | unmatched | leaves | repeats => cases faults
  | forbidden other =>
      cases faults
      rw [other] at missing
      cases missing
  | @unterminated kind status opens absent =>
      cases faults
      refine ⟨kind, _, rfl, start ▸ here, opens, fun _ => by rw [settles]; rfl, ?_⟩
      rw [start, same]
      exact iff_of_false (bodyLength?_eq_none_iff.mp absent) (Nat.not_le.mpr inside)

/-- A walk that is aborted because of a missing terminator blames a block. -/
theorem blames_of_walk (placed : ∀ frame ∈ machine.frames, frame.IsPlaced plan)
    (missing : fault.isMissingTerminator = true)
    (aborts : walk setting plan machine = (last, .faulted fault)) :
    ∃ planned kind name, fault = missingTerminator planned.command kind name ∧
      Blames plan last planned kind name := by
  induction machine using walk_induction setting plan with
  | outside machine outside =>
      rw [walk_of_end outside] at aborts
      exact blames_of_close outside placed aborts
  | ends machine planned last ending here ends =>
      rw [walk_of_ends here ends] at aborts
      cases aborts
      exact ⟨planned, blames_of_ends here missing ends⟩
  | goes machine planned next here goes ih =>
      rw [walk_of_goes here goes] at aborts
      exact ih (isPlaced_of_goes here goes placed) aborts

end Workflow.Run

namespace Workflow.Processor

open CommandFile (builtinLine)

/-- The machine at the end of a run of the commands at the chosen indices. -/
def lastMachine (processor : Processor) (runFile : Action) (files : FileSystem)
    (chosen : Nat → Bool) : Run.Machine :=
  let plan := plan processor.commands chosen
  (Run.walk (processor.setting runFile) plan (processor.machine files plan)).1

/-- A run that is aborted because of a missing terminator blames the opener of a block.  No
terminator of its kind with the reported name stands behind it, except when the run has come to the
end of the plan: then there is one, which was passed over or was not taken for it. -/
theorem blames_of_missingTerminator (runFile : Action) (processor : Processor)
    (files : FileSystem) (chosen : Nat → Bool) {fault : Run.Fault}
    (missing : fault.isMissingTerminator = true)
    (aborts : (runWith runFile processor files chosen).result.ending = .faulted fault) :
    ∃ planned kind name, fault = Run.missingTerminator planned.command kind name ∧
      Run.Blames (plan processor.commands chosen)
        (processor.lastMachine runFile files chosen) planned kind name :=
  Run.blames_of_walk (isPlaced_machine processor files _) missing (Prod.ext rfl aborts)

/-- Two conditions of which the inner one does not hold and is closed behind the outer one. -/
def crossingConditions : List Command :=
  [builtinLine 1 "If(Name=x,Condition=true)",
   builtinLine 2 "If(Name=y,Condition=false)",
   builtinLine 3 "EndIf(Name=x)",
   builtinLine 4 "EndIf(Name=y)"]

/-- A processor with these commands. -/
def crossing : Processor :=
  { create Builtin.registry {} (.empty [] "/") 0 with commands := crossingConditions }

/-- The skip of the inner condition passes over the terminator of the outer one. -/
theorem blames_of_missingTerminator_crossing :
    ∃ planned kind name,
      (crossing.runAll (.empty [] "/")).result.ending =
          .faulted (Run.missingTerminator planned.command kind name) ∧
        Run.Blames (plan crossing.commands fun _ => true)
          (crossing.lastMachine crossing.runFile (.empty [] "/") fun _ => true)
          planned kind name := by
  have aborts : (crossing.runAll (.empty [] "/")).result.ending =
      .faulted (.missingTerminator "If" "EndIf" "x" 1) := by
    decide +kernel
  obtain ⟨planned, kind, name, same, blames⟩ :=
    blames_of_missingTerminator crossing.runFile crossing (.empty [] "/") (fun _ => true) rfl aborts
  rw [same] at aborts
  exact ⟨planned, kind, name, aborts, blames⟩

/-- A condition whose name is a reference to a property, and its terminator. -/
def referenceCondition : List Command :=
  [builtinLine 1 "If(Name=\"${x}\",Condition=true)",
   builtinLine 2 "EndIf(Name=\"${x}\")"]

/-- A processor with these commands and the property. -/
def referring : Processor :=
  { create Builtin.registry {} (.empty [] "/") 0 with
    commands := referenceCondition
    workspace := { properties := .ofList [("x", .text "abc")] } }

/-- The condition is reported although the next command is its terminator, with the same text for
its name: the name is looked up in the property, and then searched for in the texts. -/
theorem missing_terminator_of_reference :
    ∃ opener closer : Run.Planned,
      (plan referring.commands fun _ => true)[0]? = some opener ∧
        (plan referring.commands fun _ => true)[1]? = some closer ∧
        (referring.runAll (.empty [] "/")).result.ending =
          .faulted (Run.missingTerminator opener.command .conditional "abc") ∧
        Run.closes .conditional (Run.writtenName opener.command) closer = true := by
  refine ⟨_, _, rfl, rfl, ?_, ?_⟩ <;> decide +kernel

end Workflow.Processor
