import Workflow.Nested
import Workflow.Proofs.CommandFile.Recognition
import Workflow.Proofs.Run.Program
import Workflow.Proofs.Run.Step

/-!
# Where a skipped block ends

A block that is not entered is skipped to the first terminator of its kind with the name that is
searched for: the validated name, or the written one if validation failed.  The search does not
count the blocks on its way.  So the run goes on right behind the terminator of the block itself
exactly when that name is the written one and no block of the same kind in the body has it.
-/

namespace Workflow.Run

open CommandFile (builtinLine)

/-- The name under which the terminator of a block is searched for. -/
def searchedName (scene : Scene) (opener : Command) : String :=
  match prepare scene opener with
  | (_, some parameters) => blockName parameters
  | (_, none) => writtenName opener

/-- The block of an opener is not entered: validation fails, or the values or the condition
cannot be found out, or there are no values, or the condition does not hold. -/
def NotEntered (setting : Setting) (scene : Scene) (kind : BlockKind) (opener : Command) : Prop :=
  match prepare scene opener with
  | (_, none) => True
  | (prepared, some parameters) =>
      match kind with
      | .loop =>
          match Builtin.Loop.values parameters prepared.workspace
              setting.surroundings.configuration.maxLoopIterations with
          | .error _ => True
          | .ok values => values = #[]
      | .conditional => Builtin.Conditional.holds parameters prepared.workspace ≠ .ok true

theorem notEntered_of_refused {setting : Setting} {scene : Scene} {kind : BlockKind}
    {opener : Command} (refused : (prepare scene opener).2 = none) :
    NotEntered setting scene kind opener := by
  simp only [NotEntered]
  split
  · trivial
  · next accepted =>
      rw [accepted] at refused
      cases refused

theorem bodyLength?_of_skipBlock {plan : Plan} {position budget : Nat} {command : Command}
    {kind : BlockKind} {move : Move budget}
    (skips : skipBlock plan position command kind = .ok move) :
    ∃ bodyLength, bodyLength? plan position kind (writtenName command) = some bodyLength ∧
      move = skipBody bodyLength := by
  simp only [skipBlock] at skips
  split at skips
  · next bodyLength found =>
      cases skips
      exact ⟨bodyLength, found, rfl⟩
  · cases skips

theorem bodyLength?_of_enclosedBody {plan : Plan} {position bodyLength : Nat}
    {frames : List Frame} {command : Command} {kind : BlockKind} {name : String}
    (encloses : enclosedBody plan position frames command kind name = .ok bodyLength) :
    bodyLength? plan position kind name = some bodyLength := by
  simp only [enclosedBody] at encloses
  split at encloses
  · cases encloses
  · split at encloses
    · next found =>
        cases encloses
        exact found
    · cases encloses

theorem Standing.enterLoop_of_notEntered {standing : Standing} {budget bodyLength : Nat}
    {scene : Scene} {parameters : ParameterSet}
    (declined : ∀ values, Builtin.Loop.values parameters scene.workspace standing.limit =
      .ok values → values = #[]) :
    (standing.enterLoop budget scene parameters bodyLength).move = .ok (skipBody bodyLength) := by
  simp only [enterLoop]
  split
  · rfl
  · next values found =>
      rw [declined values found]
      rfl

theorem Standing.enterConditional_of_notEntered {standing : Standing} {budget bodyLength : Nat}
    {scene : Scene} {parameters : ParameterSet}
    (declined : Builtin.Conditional.holds parameters scene.workspace ≠ .ok true) :
    (standing.enterConditional scene parameters bodyLength : Turn budget).move =
      .ok (skipBody bodyLength) := by
  simp only [enterConditional]
  split
  · rfl
  · rfl
  · next holds => exact absurd holds declined

/-- A block that is not entered is skipped up to the terminator that the search finds. -/
theorem Standing.openBlock_of_notEntered {standing : Standing} {budget : Nat} {scene : Scene}
    {kind : BlockKind} {move : Move budget}
    (declined : NotEntered standing.setting scene kind standing.command)
    (moves : (standing.openBlock budget scene kind).move = .ok move) :
    ∃ bodyLength,
      bodyLength? standing.plan standing.position kind (searchedName scene standing.command) =
        some bodyLength ∧ move = skipBody bodyLength := by
  simp only [openBlock] at moves
  simp only [NotEntered] at declined
  simp only [searchedName]
  split at moves
  · next prepared refused =>
      rw [refused]
      exact bodyLength?_of_skipBlock moves
  · next prepared parameters accepted =>
      rw [accepted] at declined ⊢
      split at moves
      · cases moves
      · next bodyLength encloses =>
          refine ⟨bodyLength, bodyLength?_of_enclosedBody encloses, ?_⟩
          cases kind with
          | loop =>
              dsimp only at moves declined
              rw [enterLoop_of_notEntered] at moves
              · exact (Except.ok.inj moves).symm
              · intro values found
                rw [show standing.setting.surroundings.configuration.maxLoopIterations =
                  standing.limit from rfl, found] at declined
                exact declined
          | conditional =>
              dsimp only at moves declined
              rw [enterConditional_of_notEntered declined] at moves
              exact (Except.ok.inj moves).symm

/-- The step of a block that is not entered skips up to the terminator that the search finds. -/
theorem step_of_notEntered {setting : Setting} {plan : Plan} {machine next : Machine}
    {planned : Planned} {kind : BlockKind} (opens : planned.command.role? = some kind.opener)
    (declined : NotEntered setting machine.scene kind planned.command)
    (goes : step setting plan machine planned = .goes next) :
    ∃ bodyLength,
      bodyLength? plan machine.position kind (searchedName machine.scene planned.command) =
        some bodyLength ∧ next.position = machine.position + 1 + (bodyLength + 1) := by
  obtain ⟨inert, -⟩ | ⟨-, -, move, moves, rfl⟩ := step_eq_goes goes
  · rw [isInert_of_role opens] at inert
    cases inert
  · rw [turnAt, Standing.dispatch_of_opener opens] at moves
    obtain ⟨bodyLength, found, rfl⟩ := Standing.openBlock_of_notEntered declined moves
    exact ⟨bodyLength, found, rfl⟩

variable {setting : Setting} {plan : Plan} {machine next : Machine} {planned : Planned}
variable {kind : BlockKind} {opener closer : Command} {body rest : Program}

/-- A run that skips a block goes on right behind the terminator of the block exactly when the
block is searched for under its written name and holds no block of its kind with that name. -/
theorem step_behind_terminator_iff
    (placed : plan.HasAt machine.position (.block kind opener body closer rest))
    (nested : (Program.block kind opener body closer rest).Nested)
    (here : plan[machine.position]? = some planned)
    (declined : NotEntered setting machine.scene kind opener)
    (goes : step setting plan machine planned = .goes next) :
    next.position = machine.position + 1 + body.size + 1 ↔
      writtenName opener = searchedName machine.scene opener ∧
        ¬ body.Holds kind (searchedName machine.scene opener) := by
  have same : planned.command = opener := by
    have standing := placed.block_opener
    rw [Plan.commands, List.getElem?_map, Array.getElem?_toList, here] at standing
    exact Option.some.inj standing
  subst same
  obtain ⟨bodyLength, found, lands⟩ := step_of_notEntered nested.1 declined goes
  rw [← placed.bodyLength?_eq_size_iff nested, found, lands, Option.some.injEq]
  omega

/-! ## A block skipped halfway -/

/-- A condition with the name `x`, and a command that ends the run. -/
def twinBody : Program :=
  .block .conditional (builtinLine 2 "If(Name=x)") .done (builtinLine 3 "EndIf(Name=x)")
    (.single (builtinLine 4 "Exit()") .done)

/-- A condition with the name `x` around them.  It is refused because it has no condition. -/
def twinConditions : Program :=
  .block .conditional (builtinLine 1 "If(Name=x)") twinBody (builtinLine 5 "EndIf(Name=x)") .done

/-- A processor with these commands. -/
def twinProcessor : Processor :=
  { Processor.create Builtin.registry {} (.empty [] "/") 0 with
    commands := twinConditions.commands }

/-- The plan of the processor. -/
def twinPlan : Plan := Processor.plan twinProcessor.commands fun _ => true

/-- The machine in front of the outer condition. -/
def twinMachine : Machine := twinProcessor.machine (.empty [] "/") twinPlan

theorem nested_twinConditions : twinConditions.Nested := by
  refine ⟨?_, ?_, ?_, ?_, ?_, ⟨?_, ?_, ?_, ?_, ?_, trivial, ?_, trivial⟩, trivial⟩ <;>
    decide +kernel

/-- The skip of the outer condition ends at the terminator of the inner one. -/
theorem step_behind_terminator_iff_twin :
    ∃ planned next, twinPlan[twinMachine.position]? = some planned ∧
      NotEntered (twinProcessor.setting twinProcessor.runFile) twinMachine.scene .conditional
        planned.command ∧
      step (twinProcessor.setting twinProcessor.runFile) twinPlan twinMachine planned =
        .goes next ∧
      next.position ≠ twinMachine.position + 1 + twinBody.size + 1 := by
  have placed : twinPlan.HasAt twinMachine.position twinConditions :=
    ⟨[], by rw [List.append_nil]; exact commands_plan _⟩
  have here : twinPlan[twinMachine.position]? = some ⟨0, builtinLine 1 "If(Name=x)"⟩ := rfl
  have declined : NotEntered (twinProcessor.setting twinProcessor.runFile) twinMachine.scene
      .conditional (builtinLine 1 "If(Name=x)") := by
    apply notEntered_of_refused
    rw [← Option.isNone_iff_eq_none]
    decide +kernel
  obtain ⟨next, goes⟩ := Progress.exists_eq_goes
    (show (step (twinProcessor.setting twinProcessor.runFile) twinPlan twinMachine
      ⟨0, builtinLine 1 "If(Name=x)"⟩).goesOn = true by decide +kernel)
  refine ⟨_, next, here, declined, goes, ?_⟩
  intro behind
  obtain ⟨-, alone⟩ :=
    (step_behind_terminator_iff placed nested_twinConditions here declined goes).mp behind
  apply alone
  left
  constructor
  · rfl
  · decide +kernel

/-- The command that ends the run stands in the refused condition, and yet it runs. -/
theorem exit_in_skipped_condition_runs :
    twinConditions.Nested ∧
      ((twinProcessor.runAll (.empty [] "/")).result.outcomes.map (·.status),
        (twinProcessor.runAll (.empty [] "/")).result.ending) =
        ([.failure, .unknown, .unknown, .success, .unknown], .exited 3) := by
  constructor
  · exact nested_twinConditions
  · decide +kernel

end Workflow.Run
