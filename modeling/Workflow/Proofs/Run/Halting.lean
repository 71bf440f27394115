import Workflow.Proofs.Run.Accounting
import Workflow.Proofs.Run.Failures

/-!
# Halting after a failure

Whether a failure ends a run is decided at the end of the step that adds it: by what this very
execution has added and by the policy that it leaves behind.  Under a policy that halts and is
never changed, every step that goes on is therefore free of failures, and whatever ends the run
adds failures to one command at the most.
-/

namespace Workflow.Run

variable {setting : Setting} {plan : Plan} {machine next last : Machine} {planned : Planned}
variable {stride : Stride} {status : StatusRecord} {index : Nat}

theorem haltOnFailure_settle_go (machine : Machine) {budget : Nat} (turn : Turn budget)
    (scene : Scene) (move : Move machine.budget) :
    ((settle machine turn scene).go move).haltOnFailure = scene.haltOnFailure := by
  cases move <;> rfl

theorem hasFailure_of_finish {turn : Turn machine.budget}
    (goes : finish machine index turn = .goes next) (halts : next.haltOnFailure = true) :
    turn.status.hasFailure = false := by
  simp only [finish] at goes
  split at goes
  · cases goes
  · next move moves =>
      split at goes
      · cases goes
      · split at goes
        · cases goes
        · next quiet =>
            cases goes
            rw [haltOnFailure_settle_go] at halts
            simpa [Turn.status, moves, halts] using quiet

theorem halts_of_finish {turn : Turn machine.budget} {other : Nat}
    (ends : finish machine index turn = .ends last (.haltedOnFailure other)) :
    index = other ∧ last.haltOnFailure = true ∧ turn.status.hasFailure = true := by
  simp only [finish] at ends
  split at ends
  · cases ends
  · next move moves =>
      split at ends
      · cases ends
      · split at ends
        · next failed =>
            cases ends
            rw [Bool.and_eq_true] at failed
            refine ⟨rfl, ?_, ?_⟩
            · rw [haltOnFailure_settle_go]
              exact failed.1
            · simp only [Turn.status, moves]
              exact failed.2
        · cases ends

/-- A step that goes on and leaves a policy that halts has not failed. -/
theorem hasFailure_of_goes (goes : step setting plan machine planned = .goes next)
    (halts : next.haltOnFailure = true)
    (executes : execution? setting plan machine planned.command = some status) :
    status.hasFailure = false := by
  obtain ⟨inert, -⟩ | ⟨active, running, -⟩ := step_eq_goes goes
  · simp [execution?, inert] at executes
  · rw [step_of_running active running] at goes
    rw [execution?_of_running active running] at executes
    cases executes
    exact hasFailure_of_finish goes halts

/-- A run only halts on a failure of the command that it has come to, and under a policy that still
asks for it. -/
theorem halts_of_ends
    (ends : step setting plan machine planned = .ends last (.haltedOnFailure index)) :
    planned.index = index ∧ last.haltOnFailure = true ∧
      ∃ status, execution? setting plan machine planned.command = some status ∧
        status.hasFailure = true := by
  cases active : planned.command.isInert with
  | true => simp [step, active] at ends
  | false =>
      cases running : machine.cancelled with
      | true => simp [step, active, running] at ends
      | false =>
          rw [step_of_running active running] at ends
          obtain ⟨same, halts, failed⟩ := halts_of_finish ends
          exact ⟨same, halts, _, execution?_of_running active running, failed⟩

theorem failureCount_recordAt {position : Nat}
    (notes : next.executions = machine.executions.modify position (status :: ·))
    (inside : position < machine.executions.size) :
    (Processor.recordAt next position).failureCount =
      (Processor.recordAt machine position).failureCount + status.failureCount := by
  have added := executionsAt_of_modify notes inside position
  rw [if_pos rfl] at added
  change (StatusRecord.combine (next.executionsAt position)).failureCount = _
  rw [added]
  exact StatusRecord.failureCount_combine_concat _ _

/-- A step that fails has executed its command with a failure. -/
theorem failed_of_fails (steps : (step setting plan machine planned).machine = next)
    (fails : (Stride.mk machine planned next).Fails) :
    ∃ status, execution? setting plan machine planned.command = some status ∧
      status.hasFailure = true := by
  have notes := executions_step setting plan machine planned
  rw [steps] at notes
  simp only [Stride.Fails] at fails
  cases executes : execution? setting plan machine planned.command with
  | none =>
      rw [executes] at notes
      simp [Processor.recordAt, notes] at fails
  | some status =>
      rw [executes] at notes
      refine ⟨status, rfl, StatusRecord.hasFailure_iff.mpr ?_⟩
      have bound := failureCount_recordAt_le notes
      omega

/-- An execution with a failure makes its step fail, whatever the command has failed before. -/
theorem fails_of_failed (sized : machine.executions.size = plan.size)
    (here : plan[machine.position]? = some planned)
    (steps : (step setting plan machine planned).machine = next)
    (executes : execution? setting plan machine planned.command = some status)
    (failed : status.hasFailure = true) : (Stride.mk machine planned next).Fails := by
  obtain ⟨inside, -⟩ := Array.getElem?_eq_some_iff.mp here
  have notes := executions_step setting plan machine planned
  rw [steps, executes] at notes
  have some := StatusRecord.hasFailure_iff.mp failed
  have counted := failureCount_recordAt notes (sized ▸ inside)
  simp only [Stride.Fails]
  omega

/-! ## Walks -/

theorem exists_last_of_halts (sized : machine.executions.size = plan.size)
    (halts : (walk setting plan machine).2 = .haltedOnFailure index) :
    ∃ earlier stride, trace setting plan machine = earlier ++ [stride] ∧
      stride.planned.index = index ∧ stride.Fails ∧ stride.after.haltOnFailure = true := by
  induction machine using walk_induction setting plan with
  | outside machine outside =>
      rw [walk_of_end outside] at halts
      simp only [close] at halts
      split at halts
      · cases halts
      · split at halts <;> cases halts
  | ends machine planned last ending here ends =>
      rw [walk_of_ends here ends] at halts
      cases halts
      obtain ⟨same, asked, status, executes, failed⟩ := halts_of_ends ends
      refine ⟨[], ⟨machine, planned, last⟩, trace_of_ends here ends, same, ?_, asked⟩
      exact fails_of_failed sized here (by rw [ends]; rfl) executes failed
  | goes machine planned next here goes ih =>
      rw [walk_of_goes here goes] at halts
      have sizedToo := size_executions_step setting plan machine planned
      rw [goes] at sizedToo
      obtain ⟨earlier, stride, splits, rest⟩ := ih (sizedToo.trans sized) halts
      exact ⟨⟨machine, planned, next⟩ :: earlier, stride,
        by rw [trace_of_goes here goes, splits]; rfl, rest⟩

theorem exists_index_of_mem_toList (addition? : Option Entry) :
    ∃ index, ∀ entry ∈ addition?.toList, entry.index = index := by
  cases addition? with
  | none => exact ⟨0, fun _ member => nomatch member⟩
  | some only => exact ⟨only.index, fun entry member => by rw [List.mem_singleton.mp member]⟩

/-- A walk under a policy that halts, and that no step changes, adds failures to one command at the
most. -/
theorem exists_index_of_halting (halts : machine.haltOnFailure = true)
    (keeps : ∀ stride ∈ trace setting plan machine,
      stride.before.haltOnFailure = true → stride.after.haltOnFailure = true) :
    ∃ index, ∀ entry ∈ account setting plan machine,
      (∃ record ∈ entry.added, record.severity = .failure) → entry.index = index := by
  -- no step that goes on fails, so all failures are among what the end of the walk adds
  induction machine using walk_induction setting plan with
  | outside machine outside =>
      rw [account_of_end outside]
      obtain ⟨index, only⟩ := exists_index_of_mem_toList (leftOpen? plan machine)
      exact ⟨index, fun entry member _ => only entry member⟩
  | ends machine planned last ending here ends =>
      rw [account_of_ends here ends]
      obtain ⟨index, only⟩ :=
        exists_index_of_mem_toList (Stride.addition? setting plan ⟨machine, planned, last⟩)
      exact ⟨index, fun entry member _ => only entry member⟩
  | goes machine planned next here goes ih =>
      rw [trace_of_goes here goes, List.forall_mem_cons] at keeps
      obtain ⟨index, later⟩ := ih (keeps.1 halts) keeps.2
      refine ⟨index, fun entry member failed => ?_⟩
      rw [account_of_goes here goes, List.mem_append] at member
      rcases member with now | afterwards
      · obtain ⟨status, executes, rfl⟩ := Option.map_eq_some_iff.mp (Option.mem_toList.mp now)
        have quiet := hasFailure_of_goes goes (keeps.1 halts) executes
        simp only [StatusRecord.hasFailure, List.any_eq_false, decide_eq_true_eq] at quiet
        obtain ⟨record, among, failure⟩ := failed
        exact absurd failure (quiet record among)
      · exact later entry afterwards failed

end Workflow.Run

namespace Workflow.Processor

variable (processor : Processor) (files : FileSystem) (chosen : Nat → Bool)

theorem length_failures_le_one (reporting : ∀ command ∈ processor.commands, command.Reports)
    {index : Nat}
    (only : ∀ entry ∈ processor.account files chosen,
      (∃ record ∈ entry.added, record.severity = .failure) → entry.index = index) :
    (runWith processor.runFile processor files chosen).result.failures.length ≤ 1 := by
  let result := (runWith processor.runFile processor files chosen).result
  have same : ∀ other ∈ result.failures.map (·.index), other = index := by
    refine List.forall_mem_map.mpr fun outcome member => ?_
    obtain ⟨listed, failed⟩ := List.mem_filter.mp member
    have accounts := accounts_of_mem_outcomes processor files chosen reporting listed
    obtain ⟨entry, among, charged, failure⟩ :=
      accounts.isFailure_iff.mp (of_decide_eq_true failed)
    exact charged.symm.trans (only entry among failure)
  have distinct : (result.failures.map (·.index)).Nodup := by
    have all : (result.outcomes.map (·.index)).Nodup := by
      rw [indices_outcomes]
      exact List.nodup_range
    exact all.sublist (List.filter_sublist.map _)
  rw [List.eq_replicate_of_mem same, List.nodup_replicate, List.length_map] at distinct
  exact distinct

/-- A step that adds a failure while the policy that it leaves behind halts is the last one; a run
only halts on a failure that its last step has added; and under a policy that halts and that no
step changes, at most one command fails. -/
theorem halts_on_failure :
    (∀ earlier stride later,
      processor.trace processor.runFile files chosen = earlier ++ stride :: later →
      stride.Fails → stride.after.haltOnFailure = true → later = []) ∧
    (∀ index,
      (runWith processor.runFile processor files chosen).result.ending = .haltedOnFailure index →
      ∃ earlier stride,
        processor.trace processor.runFile files chosen = earlier ++ [stride] ∧
        stride.planned.index = index ∧ stride.Fails ∧ stride.after.haltOnFailure = true) ∧
    ((∀ command ∈ processor.commands, command.Reports) →
      processor.configuration.haltOnFailure = true →
      (∀ stride ∈ processor.trace processor.runFile files chosen,
        stride.before.haltOnFailure = true → stride.after.haltOnFailure = true) →
      (runWith processor.runFile processor files chosen).result.failures.length ≤ 1) := by
  have sized := size_executions_machine processor files (plan processor.commands chosen)
  refine ⟨?_, ?_, ?_⟩
  · intro earlier stride later splits fails halts
    obtain ⟨goes, -⟩ | ⟨ending, -, last, -⟩ := Run.trace_split splits
    · obtain ⟨status, executes, failed⟩ := Run.failed_of_fails (by rw [goes]; rfl) fails
      rw [Run.hasFailure_of_goes goes halts executes] at failed
      cases failed
    · exact last
  · intro index halts
    exact Run.exists_last_of_halts sized halts
  · intro reporting asks keeps
    obtain ⟨index, only⟩ := Run.exists_index_of_halting asks keeps
    exact length_failures_le_one processor files chosen reporting only

/-- The same commands under a policy that halts, with a failure at the second level. -/
def strict : Processor :=
  { leveled with
    configuration := { haltOnFailure := true }
    workspace :=
      { properties :=
          .ofList [("Levels", .list [.text "Warning", .text "Failure", .text "Success"])] } }

/-- The second pass fails, and there is no third one. -/
theorem halts_on_failure_strict :
    (∀ command ∈ strict.commands, command.Reports) ∧
      strict.configuration.haltOnFailure = true ∧
      (∀ stride ∈ strict.trace strict.runFile (.empty [] "/") fun _ => true,
        stride.before.haltOnFailure = true → stride.after.haltOnFailure = true) ∧
      (let result := (runWith strict.runFile strict (.empty [] "/") fun _ => true).result
       result.ending = .haltedOnFailure 2 ∧ result.failures.length ≤ 1 ∧
        result.outcomes[2]?.map (·.messages) =
          some ["WARNING: At Warning", "FAILURE: At Failure"]) := by
  have keeps : ∀ stride ∈ strict.trace strict.runFile (.empty [] "/") fun _ => true,
      stride.before.haltOnFailure = true → stride.after.haltOnFailure = true := by
    have all : (strict.trace strict.runFile (.empty [] "/") fun _ => true).all
        (fun stride => stride.after.haltOnFailure) = true := by
      decide +kernel
    exact fun stride member _ => List.all_eq_true.mp all stride member
  obtain ⟨-, -, once⟩ := halts_on_failure strict (.empty [] "/") fun _ => true
  exact ⟨reports_of_mem_leveled, rfl, keeps, by decide +kernel,
    once reports_of_mem_leveled rfl keeps, by decide +kernel⟩

end Workflow.Processor
