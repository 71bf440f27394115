import Mathlib.Data.Prod.Lex
import Workflow.Nested
import Workflow.Proofs.Run.Trace

/-!
# Every run ends

Each step of a walk goes ahead in the plan or spends a loop pass, and each run of a command file
from a command file is one level deeper, up to a limit.  So no run needs infinitely many steps and
nested runs, and the number of commands that one walk comes to is bounded by the size of its plan
and the limit on loop passes.
-/

namespace Workflow

namespace Run

/-- A bound on the number of commands that a walk still comes to. -/
def Machine.reach (size : Nat) (machine : Machine) : Nat :=
  (size - machine.position) + machine.budget * size

theorem reach_go_lt {size : Nat} {machine : Machine} (inside : machine.position < size)
    (move : Move machine.budget) : (machine.go move).reach size < machine.reach size := by
  have spend (left : Fin machine.budget) : left.val * size + size ≤ machine.budget * size := by
    have passes := Nat.mul_le_mul_right size left.isLt
    rwa [Nat.succ_mul] at passes
  cases move with
  | ahead skipped =>
      simp only [Machine.go, Machine.reach]
      omega
  | enter left =>
      have spent := spend left
      simp only [Machine.go, Machine.reach]
      omega
  | again start left =>
      have spent := spend left
      simp only [Machine.go, Machine.reach]
      omega

variable {setting : Setting} {plan : Plan} {machine next : Machine} {planned : Planned}

theorem reach_lt_of_goes (inside : machine.position < plan.size)
    (goes : step setting plan machine planned = .goes next) :
    next.reach plan.size < machine.reach plan.size := by
  obtain ⟨-, rfl⟩ | ⟨-, -, move, -, rfl⟩ := step_eq_goes goes
  · exact reach_go_lt inside _
  · exact @reach_go_lt _ (settle machine _ _) inside move

/-- A walk comes to no more commands than its machine can reach. -/
theorem length_trace_le (setting : Setting) (plan : Plan) (machine : Machine) :
    (trace setting plan machine).length ≤ machine.reach plan.size := by
  induction machine using walk_induction setting plan with
  | outside machine outside =>
      rw [trace_of_end outside]
      exact Nat.zero_le _
  | ends machine planned last ending here ends =>
      obtain ⟨inside, -⟩ := Array.getElem?_eq_some_iff.mp here
      rw [trace_of_ends here ends]
      simp only [Machine.reach, List.length_singleton]
      omega
  | goes machine planned next here goes ih =>
      obtain ⟨inside, -⟩ := Array.getElem?_eq_some_iff.mp here
      rw [trace_of_goes here goes]
      exact Nat.succ_le_of_lt (Nat.lt_of_le_of_lt ih (reach_lt_of_goes inside goes))

end Run

/-! ## Runs of command files -/

theorem exists_of_bind_eq_ok {ε α β : Type} {first : Except ε α} {rest : α → Except ε β}
    {result : β} (done : first >>= rest = .ok result) :
    ∃ value, first = .ok value ∧ rest value = .ok result := by
  cases first with
  | error error => cases done
  | ok value => exact ⟨value, rfl, done⟩

theorem Performance.attempt_bind {α β : Type} (scene : Scene) (first : Except Error α)
    (rest : α → Except Error β) (finish : β → Performance) :
    attempt scene (first >>= rest) finish =
      attempt scene first fun value => attempt scene (rest value) finish := by
  cases first <;> rfl

theorem Processor.loadFile_eq_ok {processor loaded : Processor} {files : FileSystem}
    {path : FilePath} (loads : processor.loadFile files path = .ok loaded) :
    loaded.registry = processor.registry ∧ loaded.depth = processor.depth := by
  obtain ⟨text, -, loads⟩ := exists_of_bind_eq_ok loads
  cases loads
  exact ⟨rfl, rfl⟩

namespace Nested

open Builtin.RunCommands (maxDepth)

/-- A run of a command file that a command asks for. -/
structure Errand where
  path : FilePath
  processor : Processor
  expected : Status

/-- The run that a command asks for, unless runs are nested too deep already, the file cannot be
loaded, or it is not known how it is expected to end. -/
def errand (registry : Registry) (surroundings : Surroundings) (parameters : ParameterSet)
    (scene : Scene) : Except Error Errand := do
  let path ← ParameterSet.path parameters "CommandFile"
  if maxDepth ≤ surroundings.depth then
    .error (.obstacle (.nestedTooDeep maxDepth))
  else
    let processor ← (child registry surroundings scene).loadFile scene.files path
    let expected ← expectedStatus parameters processor.commands
    .ok ⟨path, processor, expected⟩

/-- A run that is asked for is one level deeper, and within the limit. -/
theorem errand_eq_ok {registry : Registry} {surroundings : Surroundings}
    {parameters : ParameterSet} {scene : Scene} {asked : Errand}
    (asks : errand registry surroundings parameters scene = .ok asked) :
    asked.processor.depth = surroundings.depth + 1 ∧ asked.processor.depth ≤ maxDepth := by
  obtain ⟨path, -, asks⟩ := exists_of_bind_eq_ok asks
  split at asks
  · cases asks
  · next shallow =>
      obtain ⟨processor, loads, asks⟩ := exists_of_bind_eq_ok asks
      obtain ⟨expected, -, asks⟩ := exists_of_bind_eq_ok asks
      cases asks
      obtain ⟨-, deep⟩ := Processor.loadFile_eq_ok loads
      refine ⟨deep, ?_⟩
      rw [deep]
      exact Nat.not_le.mp shallow

/-- A command file that is run by a command runs its own command files one level deeper. -/
theorem runFile_of_loadFile {registry : Registry} {surroundings : Surroundings} {scene : Scene}
    {path : FilePath} {loaded : Processor}
    (loads : (child registry surroundings scene).loadFile scene.files path = .ok loaded) :
    loaded.runFile = runFile registry (maxDepth - (surroundings.depth + 1)) := by
  obtain ⟨known, deep⟩ := Processor.loadFile_eq_ok loads
  rw [Processor.runFile, known, deep]
  rfl

/-- Running a command file is running all commands of the processor that is asked for, and judging
the run.  There is no count of levels in it. -/
def perform (registry : Registry) : Action := fun surroundings parameters scene =>
  .attempt scene (errand registry surroundings parameters scene) fun asked =>
    let run := asked.processor.runAll scene.files
    .done (judge { scene with files := run.files, cancelled := run.processor.cancelled }
      asked.path asked.expected run.result)

/-- The levels that are left are enough for every run that is asked for. -/
theorem runFile_eq_perform {processor : Processor} {surroundings : Surroundings}
    (deep : surroundings.depth = processor.depth) (parameters : ParameterSet) (scene : Scene) :
    processor.runFile surroundings parameters scene =
      perform processor.registry surroundings parameters scene := by
  rw [Processor.runFile, perform, errand, ← deep]
  cases left : maxDepth - surroundings.depth with
  | zero =>
      have limit : maxDepth ≤ surroundings.depth := Nat.le_of_sub_eq_zero left
      simp only [Nested.runFile, if_pos limit, Performance.attempt_bind]
      simp only [Performance.attempt]
  | succ levels =>
      have shallow : ¬ maxDepth ≤ surroundings.depth := by omega
      have deeper : maxDepth - (surroundings.depth + 1) = levels := by omega
      simp only [Nested.runFile, if_neg shallow, Performance.attempt_bind]
      cases ParameterSet.path parameters "CommandFile" with
      -- `rfl` would compare what the two sides do with a path by unfolding both walks
      | error error => simp only [Performance.attempt]
      | ok path =>
          simp only [Performance.attempt]
          cases loads : (child processor.registry surroundings scene).loadFile scene.files path with
          | error error => simp only
          | ok loaded =>
              have inner := runFile_of_loadFile loads
              rw [deeper] at inner
              simp only [Processor.runAll, inner]

end Nested

/-- The run of a processor, at some point of its plan. -/
structure Activity where
  processor : Processor
  plan : Run.Plan
  machine : Run.Machine

/-- The run of the commands at the chosen indices, at its start. -/
def Processor.activity (processor : Processor) (files : FileSystem) (chosen : Nat → Bool) :
    Activity :=
  let plan := plan processor.commands chosen
  ⟨processor, plan, processor.machine files plan⟩

namespace Activity

open Builtin.RunCommands (maxDepth)

variable {activity later : Activity}

/-- What has to come to its end before a run can: the rest of the run behind a step, and the run
of a command file that the command at hand asks for. -/
inductive Needs : Activity → Activity → Prop where
  | goes {processor : Processor} {plan : Run.Plan} {machine next : Run.Machine}
      {planned : Run.Planned} (here : plan[machine.position]? = some planned)
      (goes : Run.step (processor.setting processor.runFile) plan machine planned = .goes next) :
      Needs ⟨processor, plan, machine⟩ ⟨processor, plan, next⟩
  | runs {processor : Processor} {plan : Run.Plan} {machine : Run.Machine}
      {planned : Run.Planned} {definition : Definition} {prepared : Scene}
      {parameters : ParameterSet} {asked : Nested.Errand}
      (here : plan[machine.position]? = some planned)
      (runs : planned.command.kind = .known definition .runFile)
      (accepted : Run.prepare machine.scene planned.command = (prepared, some parameters))
      (asks : Nested.errand processor.registry (processor.setting processor.runFile).surroundings
        parameters prepared = .ok asked) :
      Needs ⟨processor, plan, machine⟩
        (asked.processor.activity prepared.files fun _ => true)

/-- How many levels deeper runs may be nested, and then how far a walk is from its end. -/
def rank (activity : Activity) : Nat ×ₗ Nat :=
  toLex (maxDepth - activity.processor.depth, activity.machine.distance activity.plan.size)

/-- A step keeps the level and comes nearer to the end of the walk; a nested run starts a walk of
any length one level deeper. -/
theorem rank_lt_of_needs (needs : activity.Needs later) : later.rank < activity.rank := by
  rw [rank, rank, Prod.Lex.toLex_lt_toLex]
  cases needs with
  -- the level is that of the processor, which a step does not change
  | goes here goes =>
      right
      obtain ⟨inside, -⟩ := Array.getElem?_eq_some_iff.mp here
      exact ⟨rfl, Run.distance_step_lt inside goes⟩
  | @runs processor plan machine planned definition prepared parameters asked here runs accepted
      asks =>
      left
      obtain ⟨deeper, within⟩ := Nested.errand_eq_ok asks
      have around : (processor.setting processor.runFile).surroundings.depth = processor.depth :=
        rfl
      change maxDepth - asked.processor.depth < maxDepth - processor.depth
      omega

/-- No run needs infinitely many steps and nested runs. -/
theorem acc_needs (activity : Activity) :
    Acc (fun later activity => activity.Needs later) activity :=
  (Subrelation.wf rank_lt_of_needs (InvImage.wf rank wellFounded_lt)).apply activity

theorem depth_le_of_needs (needs : Relation.ReflTransGen Needs activity later) :
    later.processor = activity.processor ∨ later.processor.depth ≤ maxDepth := by
  induction needs with
  | refl => exact .inl rfl
  | tail _ needs ih =>
      cases needs with
      | goes => exact ih
      | runs here runs accepted asks =>
          obtain ⟨-, within⟩ := Nested.errand_eq_ok asks
          exact .inr within

end Activity

/-- Every run comes to its end: it needs no infinite sequence of steps and nested runs, its own
walk comes to at most one command for every place of the plan and every pass that may start, and
the runs in it are nested within the limit.  A command that runs a command file does what the run
does that it asks for. -/
theorem Processor.run_terminates (processor : Processor) (files : FileSystem)
    (chosen : Nat → Bool) :
    Acc (fun later activity => activity.Needs later) (processor.activity files chosen) ∧
      (processor.trace processor.runFile files chosen).length ≤
        (plan processor.commands chosen).size *
          (processor.configuration.maxLoopIterations + 1) ∧
      (∀ activity, Relation.ReflTransGen Activity.Needs (processor.activity files chosen) activity →
        activity.processor = processor ∨
          activity.processor.depth ≤ Builtin.RunCommands.maxDepth) ∧
      processor.runFile (processor.setting processor.runFile).surroundings =
        Nested.perform processor.registry (processor.setting processor.runFile).surroundings := by
  refine ⟨Activity.acc_needs _, ?_, fun _ => Activity.depth_le_of_needs, ?_⟩
  · apply Nat.le_trans (Run.length_trace_le _ _ _)
    simp only [Run.Machine.reach, machine, Nat.sub_zero]
    rw [Nat.mul_succ, Nat.mul_comm, Nat.add_comm]
  · funext parameters scene
    exact Nested.runFile_eq_perform rfl parameters scene

end Workflow
