import Workflow.Proofs.Run.Frames
import Workflow.Proofs.Run.Trace

/-!
# Blocks are run to their ends

In the trace of a run that comes to the end of its plan, the commands that open and close blocks
are properly bracketed, and a loop has a pass for each of the values that it took when it was
opened.  The trace is read from its end: behind any stride it goes on with what is left of the
innermost block, then with what is left of the block around it, and so on.
-/

namespace Workflow.Run

namespace Stride

/-- The name of the block that the command of a stride opens or closes. -/
def name (stride : Stride) : String := searchedName stride.before.scene stride.planned.command

/-- The command opens a block, which is then the innermost one. -/
structure Opens (stride : Stride) (kind : BlockKind) (name : String) : Prop where
  role : stride.planned.command.role? = some kind.opener
  named : stride.name = name
  innermost : ∃ frame, frame.isOf kind name = true ∧
    stride.after.frames = frame :: stride.before.frames

/-- The command closes the innermost block, which is one of its kind and name. -/
structure Closes (stride : Stride) (kind : BlockKind) (name : String) : Prop where
  role : stride.planned.command.role? = some kind.terminator
  named : stride.name = name
  innermost : ∃ frame, frame.isOf kind name = true ∧
    stride.before.frames = frame :: stride.after.frames

/-- The command is the terminator of the innermost block, a loop that stays open. -/
structure Repeats (stride : Stride) (name : String) : Prop where
  role : stride.planned.command.role? = some .closeLoop
  named : stride.name = name
  innermost : ∃ before after outer, before.isOf .loop name = true ∧
    after.isOf .loop name = true ∧ stride.before.frames = before :: outer ∧
    stride.after.frames = after :: outer

/-- The command opens a loop that takes these values and sets a property to each of them. -/
def Takes (stride : Stride) (limit : Nat) (iterator : String) (values : List Value) : Prop :=
  ∃ prepared parameters found,
    prepare stride.before.scene stride.planned.command = (prepared, some parameters) ∧
      Builtin.Loop.values parameters stride.before.workspace limit = .ok found ∧
      found.toList = values ∧ iterator = Builtin.Loop.iterator parameters stride.name

/-- The run goes on right behind the command at `start`, with a property set to a value. -/
structure StartsPass (stride : Stride) (start : Nat) (iterator : String) (value : Value) :
    Prop where
  position : stride.after.position = start + 1
  bound : stride.after.workspace.property? iterator = some value

end Stride

mutual

/-- Strides in which every block that is opened is run to its end. -/
inductive Bracketed (limit : Nat) : List Stride → Prop where
  | done : Bracketed limit []
  /-- A command that leaves the open blocks as they are. -/
  | plain {stride : Stride} {rest : List Stride}
      (keeps : stride.after.frames = stride.before.frames) (later : Bracketed limit rest) :
      Bracketed limit (stride :: rest)
  /-- A condition with its body and its terminator. -/
  | conditional {name : String} {opener closer : Stride} {body rest : List Stride}
      (opens : opener.Opens .conditional name) (inside : Bracketed limit body)
      (closes : closer.Closes .conditional name) (later : Bracketed limit rest) :
      Bracketed limit (opener :: (body ++ [closer] ++ rest))
  /-- A loop with a pass for each of its values; its command starts the first one. -/
  | loop {name iterator : String} {opener : Stride} {first : Value} {values : List Value}
      {passes rest : List Stride}
      (opens : opener.Opens .loop name) (takes : opener.Takes limit iterator (first :: values))
      (starts : opener.StartsPass opener.before.position iterator first)
      (runs : Passes limit name iterator opener.before.position values passes)
      (later : Bracketed limit rest) : Bracketed limit (opener :: (passes ++ rest))

/-- A pass of a loop, then the passes for the values that are left, up to the terminator that
closes the loop. -/
inductive Passes (limit : Nat) : (name iterator : String) → (start : Nat) → List Value →
    List Stride → Prop where
  /-- The body for the last value. -/
  | last {name iterator : String} {start : Nat} {body : List Stride} {closer : Stride}
      (inside : Bracketed limit body) (closes : closer.Closes .loop name) :
      Passes limit name iterator start [] (body ++ [closer])
  /-- The body for another value, whose terminator starts the pass for the next one. -/
  | next {name iterator : String} {start : Nat} {value : Value} {values : List Value}
      {body passes : List Stride} {closer : Stride}
      (inside : Bracketed limit body) (repeats : closer.Repeats name)
      (starts : closer.StartsPass start iterator value)
      (runs : Passes limit name iterator start values passes) :
      Passes limit name iterator start (value :: values) (body ++ closer :: passes)

end

/-! ## What is left of the open blocks -/

/-- Strides that run an open block to its end. -/
def Frame.Finishes (limit : Nat) : Frame → List Stride → Prop
  | .conditional name _, strides => ∃ body closer, strides = body ++ [closer] ∧
      Bracketed limit body ∧ closer.Closes .conditional name
  | .loop name iterator values current start, strides =>
      Passes limit name iterator start (values.toList.drop (current + 1)) strides

/-- Strides that run all open blocks to their ends, the innermost first. -/
def Unwinds (limit : Nat) : List Frame → List Stride → Prop
  | [], strides => Bracketed limit strides
  | innermost :: outer, strides => ∃ inside rest, strides = inside ++ rest ∧
      innermost.Finishes limit inside ∧ Unwinds limit outer rest

section

variable {limit : Nat} {frames : List Frame} {strides : List Stride}

/-- What may stand in front of bracketed strides may stand in front of the rest of a pass. -/
theorem Passes.append {name iterator : String} {start : Nat} {values : List Value}
    (front : List Stride) (leads : ∀ rest, Bracketed limit rest → Bracketed limit (front ++ rest))
    (runs : Passes limit name iterator start values strides) :
    Passes limit name iterator start values (front ++ strides) := by
  cases runs with
  | last inside closes =>
      rw [← List.append_assoc]
      exact .last (leads _ inside) closes
  | next inside repeats starts runs =>
      rw [← List.append_assoc]
      exact .next (leads _ inside) repeats starts runs

theorem Frame.Finishes.append {frame : Frame} (front : List Stride)
    (leads : ∀ rest, Bracketed limit rest → Bracketed limit (front ++ rest))
    (finishes : frame.Finishes limit strides) : frame.Finishes limit (front ++ strides) := by
  cases frame with
  | conditional name start =>
      obtain ⟨body, closer, rfl, inside, closes⟩ := finishes
      exact ⟨front ++ body, closer, (List.append_assoc ..).symm, leads body inside, closes⟩
  | loop name iterator values current start => exact Passes.append front leads finishes

theorem Unwinds.append (front : List Stride)
    (leads : ∀ rest, Bracketed limit rest → Bracketed limit (front ++ rest))
    (unwinds : Unwinds limit frames strides) : Unwinds limit frames (front ++ strides) := by
  cases frames with
  | nil => exact leads strides unwinds
  | cons innermost outer =>
      obtain ⟨inside, rest, rfl, finishes, unwinds⟩ := unwinds
      exact ⟨front ++ inside, rest, (List.append_assoc ..).symm,
        finishes.append front leads, unwinds⟩

end

/-- What a stride that goes on does to the open blocks. -/
inductive Stride.Shifts (limit : Nat) (stride : Stride) : Prop where
  | keeps (same : stride.after.frames = stride.before.frames)
  | opensCondition {name : String} {start : Nat} (opens : stride.Opens .conditional name)
      (after : stride.after.frames = .conditional name start :: stride.before.frames)
  | opensLoop {name iterator : String} {values : Array Value} {first : Value}
      (opens : stride.Opens .loop name) (takes : stride.Takes limit iterator values.toList)
      (front : values[0]? = some first)
      (starts : stride.StartsPass stride.before.position iterator first)
      (after : stride.after.frames =
        .loop name iterator values 0 stride.before.position :: stride.before.frames)
  | closes {innermost : Frame} (closes : stride.Closes innermost.kind innermost.name)
      (before : stride.before.frames = innermost :: stride.after.frames)
      (done : innermost.later = [])
  | repeats {name iterator : String} {values : Array Value} {current start : Nat} {value : Value}
      {outer : List Frame} (repeats : stride.Repeats name)
      (before : stride.before.frames = .loop name iterator values current start :: outer)
      (after : stride.after.frames = .loop name iterator values (current + 1) start :: outer)
      (more : values[current + 1]? = some value)
      (starts : stride.StartsPass start iterator value)

/-- What a stride does to the open blocks is undone by the strides behind it. -/
theorem Unwinds.cons {limit : Nat} {stride : Stride} {strides : List Stride}
    (shifts : stride.Shifts limit) (behind : Unwinds limit stride.after.frames strides) :
    Unwinds limit stride.before.frames (stride :: strides) := by
  cases shifts with
  | keeps same =>
      rw [← same]
      exact Unwinds.append [stride] (fun _ later => .plain same later) behind
  | opensCondition opens after =>
      rw [after] at behind
      obtain ⟨inside, rest, rfl, ⟨body, closer, rfl, bracketed, closes⟩, behind⟩ := behind
      exact Unwinds.append (stride :: (body ++ [closer]))
        (fun _ later => .conditional opens bracketed closes later) behind
  | opensLoop opens takes front starts after =>
      rw [after] at behind
      obtain ⟨passes, rest, rfl, runs, behind⟩ := behind
      rw [← List.drop_zero (l := Array.toList _), drop_of_getElem? front] at takes
      exact Unwinds.append (stride :: passes)
        (fun _ later => .loop opens takes starts runs later) behind
  | @closes innermost closes before done =>
      rw [before]
      refine ⟨[stride], strides, rfl, ?_, behind⟩
      cases innermost with
      | conditional name start => exact ⟨[], stride, rfl, .done, closes⟩
      | loop name iterator values current start =>
          simp only [Frame.later] at done
          simp only [Frame.Finishes]
          rw [done]
          rw [← List.nil_append [stride]]
          exact .last .done closes
  | repeats repeats before after more starts =>
      rw [after] at behind
      obtain ⟨passes, rest, rfl, runs, behind⟩ := behind
      rw [before]
      refine ⟨stride :: passes, rest, rfl, ?_, behind⟩
      simp only [Frame.Finishes]
      rw [drop_of_getElem? more]
      rw [← List.nil_append (stride :: passes)]
      exact .next .done repeats starts runs

/-! ## From the end of a run to its start -/

variable {setting : Setting} {plan : Plan} {machine next : Machine} {planned : Planned}

theorem property?_setProperty (workspace : Workspace) (name : String) (value : Value) :
    (workspace.setProperty name value).property? name = some value := by
  rw [Workspace.property?, Workspace.setProperty, OrderedMap.get?_insert, if_pos rfl]

theorem Frame.isOf_self (frame : Frame) : frame.isOf frame.kind frame.name = true := by
  simp [isOf]

/-- The ways in which the open blocks change in a step that goes on. -/
theorem shifts_of_goes (goes : step setting plan machine planned = .goes next) :
    (Stride.mk machine planned next).Shifts
      setting.surroundings.configuration.maxLoopIterations := by
  obtain ⟨-, rfl⟩ | ⟨-, -, move, moves, rfl⟩ := step_eq_goes goes
  · exact .keeps rfl
  · have comes := comes_turnAt setting plan machine planned.command
    have framed (turn : Turn machine.budget) :=
      frames_settle_go machine turn turn.scene move
    generalize turnAt setting plan machine planned.command = turn at comes moves
    cases comes with
    | executed | skipped | unterminated | forbidden | unmatched => exact .keeps (framed _)
    | entersCondition opens _ found =>
        exact .opensCondition ⟨opens, rfl, _, Frame.isOf_self (.conditional ..), framed _⟩
          (framed _)
    | entersLoop opens _ found accepted given front =>
        cases moves
        exact .opensLoop ⟨opens, rfl, _, Frame.isOf_self (.loop ..), rfl⟩
          ⟨_, _, _, accepted, given, rfl, rfl⟩ front ⟨rfl, property?_setProperty ..⟩ rfl
    | leaves closes front own done =>
        cases moves
        have same := own
        simp only [Frame.isOf, Bool.and_eq_true, beq_iff_eq] at same
        obtain ⟨rfl, named⟩ := same
        exact .closes ⟨closes, named.symm, _, Frame.isOf_self _, front⟩ front done
    | repeats closes front more =>
        cases moves
        exact .repeats ⟨closes, rfl, _, _, _, Frame.isOf_self (.loop ..),
          Frame.isOf_self (.loop ..), front, rfl⟩ front rfl more ⟨rfl, property?_setProperty ..⟩

/-- The walk of a run that comes to the end of its plan runs all open blocks to their ends. -/
theorem unwinds_trace (setting : Setting) (plan : Plan) (machine : Machine)
    (placed : ∀ frame ∈ machine.frames, frame.IsPlaced plan)
    (finished : (walk setting plan machine).2 = .finished) :
    Unwinds setting.surroundings.configuration.maxLoopIterations machine.frames
      (trace setting plan machine) := by
  induction machine using walk_induction setting plan with
  -- behind the end of the plan a block that is still open would be reported: its opener is there
  | outside machine outside =>
      rw [walk_of_end outside, close] at finished
      rw [trace_of_end outside]
      split at finished
      · next closed =>
          rw [closed]
          exact .done
      · next innermost outer front =>
          rw [front] at placed
          obtain ⟨planned, here, -⟩ := (List.forall_mem_cons.mp placed).1.opener
          rw [here] at finished
          cases finished
  | ends machine planned last ending here ends =>
      rw [walk_of_ends here ends] at finished
      exact absurd finished (ending_ne_finished ends)
  | goes machine planned next here goes ih =>
      rw [walk_of_goes here goes] at finished
      rw [trace_of_goes here goes]
      exact Unwinds.cons (shifts_of_goes goes) (ih (isPlaced_of_goes here goes placed) finished)

end Workflow.Run

namespace Workflow.Processor

open CommandFile (builtinLine)

/-- A run that ends without a stop and without being aborted closes every block that it opens, and
every loop that it opens has a pass for each of its values. -/
theorem bracketed_of_finished (runFile : Action) (processor : Processor) (files : FileSystem)
    (chosen : Nat → Bool)
    (finished : (runWith runFile processor files chosen).result.ending = .finished) :
    Run.Bracketed processor.configuration.maxLoopIterations
      (processor.trace runFile files chosen) :=
  Run.unwinds_trace _ _ _ (isPlaced_machine processor files _) finished

/-- A loop that overwrites the list that it takes its values from, with a condition in it. -/
def overwritingLoop : List Command :=
  [builtinLine 1 "For(Name=Items,ListProperty=Items)",
   builtinLine 2 "If(Name=always,Condition=true)",
   builtinLine 3 "EndIf(Name=always)",
   builtinLine 4 "EndFor(Name=Items)"]

/-- A processor with the loop and a list of two values for it. -/
def overwriting : Processor :=
  { create Builtin.registry {} (.empty [] "/") 0 with
    commands := overwritingLoop
    workspace := { properties := .ofList [("Items", .list [.text "a", .text "b"])] } }

/-- The loop comes to its end. -/
theorem bracketed_of_finished_overwriting :
    (runWith overwriting.runFile overwriting (.empty [] "/") fun _ => true).result.ending =
        .finished ∧
      Run.Bracketed overwriting.configuration.maxLoopIterations
        (overwriting.trace overwriting.runFile (.empty [] "/") fun _ => true) := by
  have finished :
      (runWith overwriting.runFile overwriting (.empty [] "/") fun _ => true).result.ending =
        .finished := by
    decide +kernel
  exact ⟨finished, bracketed_of_finished _ _ _ _ finished⟩

end Workflow.Processor
