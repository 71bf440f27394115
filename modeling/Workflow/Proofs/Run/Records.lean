import Workflow.Proofs.Builtin.Reporting
import Workflow.Proofs.Run.Dispatch
import Workflow.Proofs.Status
import Workflow.Proofs.Validation

/-!
# What a dispatch adds to the record of its command

Validation either succeeds or leaves at least one failure, and from there on the record of an
execution only grows.  So the status of an execution is always the worst one of success and of the
severities of its entries: no status is set without an entry and no entry is added without its
status.
-/

namespace Workflow

namespace StatusRecord

/-- The status is the worst one of success and of the severities of the entries. -/
def IsExplained (status : StatusRecord) : Prop :=
  status.overall = Status.worstOf (.success :: status.records.map (·.severity))

variable {status later : StatusRecord}

theorem IsExplained.promote (explained : status.IsExplained) (phase : Phase) :
    (status.promote phase .success).IsExplained := by
  rw [IsExplained, overall_promote, records_promote, explained, Status.worstOf_cons]
  exact max_eq_left (le_max_left _ _)

theorem IsExplained.add (explained : status.IsExplained) (record : Record) :
    (status.add record).IsExplained := by
  rw [IsExplained, overall_add, records_add, explained, List.map_append, ← List.cons_append,
    Status.worstOf_append, List.map_singleton, Status.worstOf_cons record.severity]
  rw [show Status.worstOf [] = .unknown from rfl, max_eq_left (Status.unknown_le _)]

theorem IsExplained.of_grows (explained : status.IsExplained) (grows : status.Grows later) :
    later.IsExplained := by
  induction grows with
  | same => exact explained
  | succeeds phase _ ih => exact ih.promote phase
  | adds record _ ih => exact ih.add record

theorem isExplained_promote_fresh (phase : Phase) :
    (fresh.promote phase .success).IsExplained := by
  cases phase <;> rfl

/-- A failure explains its status even if nothing has succeeded before. -/
theorem isExplained_add_fresh {record : Record} (failure : record.severity = .failure) :
    (fresh.add record).IsExplained := by
  obtain ⟨phase, severity, problem, recommendation⟩ := record
  subst failure
  cases phase <;> rfl

/-- An explained status is the least one that exceeds neither success nor an entry. -/
theorem isExplained_iff : status.IsExplained ↔ ∀ bound,
    status.overall ≤ bound ↔
      .success ≤ bound ∧ ∀ record ∈ status.records, record.severity ≤ bound := by
  have least (bound : Status) :
      Status.worstOf (.success :: status.records.map (·.severity)) ≤ bound ↔
        .success ≤ bound ∧ ∀ record ∈ status.records, record.severity ≤ bound := by
    rw [Status.worstOf_le_iff, List.forall_mem_cons, List.forall_mem_map]
  constructor
  · intro explained bound
    rw [explained, least]
  · intro bounded
    exact eq_of_forall_ge_iff fun bound => (bounded bound).trans (least bound).symm

/-- The status of one or more executions together is explained by all of their entries. -/
theorem isExplained_combine {executions : List StatusRecord} (some : executions ≠ [])
    (each : ∀ status ∈ executions, status.IsExplained) : (combine executions).IsExplained := by
  rw [isExplained_iff]
  intro bound
  rw [overall_combine, Status.worstOf_le_iff, List.forall_mem_map]
  constructor
  · intro bounded
    obtain ⟨first, rest, rfl⟩ := List.exists_cons_of_ne_nil some
    refine ⟨?_, fun record among => ?_⟩
    · have below := bounded first List.mem_cons_self
      exact ((isExplained_iff.mp (each first List.mem_cons_self) bound).mp below).1
    · obtain ⟨status, member, within⟩ := List.mem_flatMap.mp among
      have below := bounded status member
      exact ((isExplained_iff.mp (each status member) bound).mp below).2 record within
  · rintro ⟨success, bounded⟩ status member
    refine (isExplained_iff.mp (each status member) bound).mpr ⟨success, fun record within => ?_⟩
    exact bounded record (List.mem_flatMap_of_mem member within)

end StatusRecord

namespace Run

variable {setting : Setting} {command : Command} {scene : Scene}

theorem grows_refuseAll (scene : Scene) (problems : List Problem) :
    scene.status.Grows (refuseAll scene problems).status := by
  induction problems generalizing scene with
  | nil => exact .same
  | cons problem rest ih =>
      exact StatusRecord.Grows.trans (.adds _ .same)
        (ih (refuse scene problem.problem (some problem.recommendation)))

theorem ne_nil_of_checked {definition : Definition} {behavior : Behavior}
    {problems : List Problem}
    (refused : checked scene command definition behavior = .error problems) : problems ≠ [] := by
  simp only [checked] at refused
  split at refused
  · next invalid =>
      cases refused
      exact Validation.ne_nil_of_validate invalid
  · split at refused
    · cases refused
    · next found =>
        cases refused
        exact found

theorem isExplained_prepare (new : scene.status = .fresh) (active : command.isInert = false) :
    (prepare scene command).1.status.IsExplained := by
  simp only [Command.isInert] at active
  simp only [prepare]
  split
  · next blank => simp [blank] at active
  · next comment => simp [comment] at active
  · simp only [refuse, new]
    exact StatusRecord.isExplained_add_fresh rfl
  · simp only [refuse, new]
    exact StatusRecord.isExplained_add_fresh rfl
  · split
    · next problems refused =>
        obtain ⟨first, rest, rfl⟩ := List.exists_cons_of_ne_nil (ne_nil_of_checked refused)
        refine StatusRecord.IsExplained.of_grows ?_ (grows_refuseAll _ rest)
        simp only [refuse, new]
        exact StatusRecord.isExplained_add_fresh rfl
    · simp only [new]
      exact StatusRecord.isExplained_promote_fresh _

theorem reports_act (reports : command.Reports) (nested : setting.runFile.Reports) :
    (act setting command).Reports := by
  simp only [act]
  split
  · next known => exact reports _ _ known
  · exact nested
  · exact fun _ _ _ => .same

theorem proceeds_act (proceeds : command.Proceeds) (nested : setting.runFile.Proceeds) :
    (act setting command).Proceeds := by
  simp only [act]
  split
  · next known => exact proceeds _ _ known
  · exact nested
  · exact fun _ _ _ => .same

theorem proceeds_conclude (performance : Performance) :
    performance.1.status.Proceeds (conclude performance).status := by
  obtain ⟨after, error⟩ := performance
  cases error with
  | none => exact .succeeds .same
  | some error => exact .adds _ rfl .same

theorem grows_execute (scene : Scene) (reports : command.Reports)
    (nested : setting.runFile.Reports) :
    (prepare scene command).1.status.Grows (execute setting command scene).status := by
  simp only [execute]
  split
  · next refused =>
      rw [refused]
      exact .same
  · next accepted =>
      rw [accepted]
      exact (reports_act reports nested _ _ _).trans (proceeds_conclude _).grows

theorem proceeds_execute (scene : Scene) (proceeds : command.Proceeds)
    (nested : setting.runFile.Proceeds) :
    (prepare scene command).1.status.Proceeds (execute setting command scene).status := by
  simp only [execute]
  split
  · next refused =>
      rw [refused]
      exact .same
  · next accepted =>
      rw [accepted]
      exact (proceeds_act proceeds nested _ _ _).trans (proceeds_conclude _)

namespace Standing

variable (standing : Standing) (budget : Nat)

theorem proceeds_enterLoop (scene : Scene) (parameters : ParameterSet) (bodyLength : Nat) :
    scene.status.Proceeds (standing.enterLoop budget scene parameters bodyLength).scene.status := by
  simp only [enterLoop]
  split
  · exact scene.proceeds_report _ _ _
  · next values _ =>
      cases values[0]? with
      | none => exact scene.proceeds_report _ _ _
      | some first =>
          cases budget with
          | zero => exact .same
          | succ left => exact .succeeds .same

theorem proceeds_enterConditional (scene : Scene) (parameters : ParameterSet) (bodyLength : Nat) :
    scene.status.Proceeds
      (standing.enterConditional scene parameters bodyLength : Turn budget).scene.status := by
  simp only [enterConditional]
  split
  · exact scene.proceeds_report _ _ _
  · exact scene.proceeds_report _ _ _
  · exact .succeeds .same

theorem proceeds_openBlock (scene : Scene) (kind : BlockKind) :
    (prepare scene standing.command).1.status.Proceeds
      (standing.openBlock budget scene kind).scene.status := by
  simp only [openBlock]
  split
  · next refused =>
      rw [refused]
      exact .same
  · next accepted =>
      rw [accepted]
      split
      · exact .same
      · cases kind with
        | loop => exact standing.proceeds_enterLoop budget _ _ _
        | conditional => exact standing.proceeds_enterConditional budget _ _ _

theorem proceeds_closeInnermost (scene : Scene) (innermost : Frame) (outer : List Frame) :
    scene.status.Proceeds
      (standing.closeInnermost budget scene innermost outer).scene.status := by
  cases innermost with
  | conditional name start => exact .same
  | loop name iterator values current start =>
      simp only [closeInnermost]
      cases values[current + 1]? with
      | none => exact .same
      | some value => cases budget <;> exact .same

theorem proceeds_closeNamed (scene : Scene) (kind : BlockKind) (name : String) :
    scene.status.Proceeds (standing.closeNamed budget scene kind name).scene.status := by
  simp only [closeNamed]
  split
  · exact scene.proceeds_report _ _ _
  · split
    · exact StatusRecord.Proceeds.trans (.succeeds .same)
        (standing.proceeds_closeInnermost budget
          { scene with status := scene.status.promote .run .success } _ _)
    · split
      · exact .same
      · exact scene.proceeds_report _ _ _

theorem proceeds_closeBlock (scene : Scene) (kind : BlockKind) :
    (prepare scene standing.command).1.status.Proceeds
      (standing.closeBlock budget scene kind).scene.status := by
  simp only [closeBlock]
  split
  · next accepted =>
      rw [accepted]
      exact standing.proceeds_closeNamed budget _ _ _
  · next refused =>
      rw [refused]
      exact standing.proceeds_closeNamed budget _ _ _

/-- A command of the block structure adds to its run, whatever validation has made of it. -/
theorem proceeds_dispatch_of_role (scene : Scene) {role : BlockRole}
    (plays : standing.command.role? = some role) :
    (prepare scene standing.command).1.status.Proceeds
      (standing.dispatch budget scene).scene.status := by
  simp only [dispatch, plays]
  cases role with
  | openLoop => exact standing.proceeds_openBlock budget _ _
  | closeLoop => exact standing.proceeds_closeBlock budget _ _
  | openCondition => exact standing.proceeds_openBlock budget _ _
  | closeCondition => exact standing.proceeds_closeBlock budget _ _

/-- From validation on, a dispatch only adds to the record of its command. -/
theorem grows_dispatch (scene : Scene) (reports : standing.command.Reports)
    (nested : standing.setting.runFile.Reports) :
    (prepare scene standing.command).1.status.Grows
      (standing.dispatch budget scene).scene.status := by
  cases plays : standing.command.role? with
  | none =>
      rw [dispatch_of_ordinary plays]
      exact grows_execute _ reports nested
  | some role => exact (standing.proceeds_dispatch_of_role budget scene plays).grows

/-- From validation on, a dispatch of a command that leaves validation alone only adds to its
run. -/
theorem proceeds_dispatch (scene : Scene) (proceeds : standing.command.Proceeds)
    (nested : standing.setting.runFile.Proceeds) :
    (prepare scene standing.command).1.status.Proceeds
      (standing.dispatch budget scene).scene.status := by
  cases plays : standing.command.role? with
  | none =>
      rw [dispatch_of_ordinary plays]
      exact proceeds_execute _ proceeds nested
  | some role => exact standing.proceeds_dispatch_of_role budget scene plays

end Standing

/-- The record of the execution that a turn ends, with the fault if there was one. -/
def Turn.status {budget : Nat} (turn : Turn budget) : StatusRecord :=
  match turn.move with
  | .error fault => (turn.scene.fail fault.message).status
  | .ok _ => turn.scene.status

theorem Turn.proceeds_status {budget : Nat} (turn : Turn budget) :
    turn.scene.status.Proceeds turn.status := by
  simp only [Turn.status]
  split
  · exact turn.scene.proceeds_report _ _ _
  · exact .same

/-- The status of every execution is explained by its entries. -/
theorem isExplained_turn {plan : Plan} {machine : Machine} (active : command.isInert = false)
    (reports : command.Reports) (nested : setting.runFile.Reports) :
    (turnAt setting plan machine command).status.IsExplained := by
  have prepared : (prepare machine.scene command).1.status.IsExplained :=
    isExplained_prepare rfl active
  have dispatched := prepared.of_grows
    ((standingAt setting plan machine command).grows_dispatch machine.budget machine.scene
      reports nested)
  exact dispatched.of_grows (Turn.proceeds_status _).grows

theorem proceeds_turn {plan : Plan} {machine : Machine} (proceeds : command.Proceeds)
    (nested : setting.runFile.Proceeds) :
    (prepare machine.scene command).1.status.Proceeds
      (turnAt setting plan machine command).status :=
  ((standingAt setting plan machine command).proceeds_dispatch machine.budget machine.scene
    proceeds nested).trans (Turn.proceeds_status _)

end Run

end Workflow
