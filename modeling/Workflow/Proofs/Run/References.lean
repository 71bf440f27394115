import Workflow.Proofs.Builtin.Properties
import Workflow.Proofs.Run.Frames

/-!
# References in a run

A command that sets a property and the start of a pass of a loop store a value under a name.  In the
next command the reference to the name expands to the text of the value, unless the name holds a
closing brace: names may hold one, but a reference ends there.
-/

namespace Workflow.Run

variable {setting : Setting} {plan : Plan} {machine next : Machine} {planned : Planned}
  {command : Command} {name key : String} {value : Value}

/-- A command is accepted with the name for a property: one that it sets, or the one that takes the
values of a loop. -/
inductive IsPropertyName (name : String) : Prop where
  | set {scene : Scene} {command : Command} {type : String} {value : Value}
      (sets : Builtin.SetProperty.Sets scene command type name value)
  | iterator {scene prepared : Scene} {command : Command} {parameters : ParameterSet}
      (kind : command.kind =
        .known Builtin.Loop.definition (Builtin.structural Builtin.Loop.problems))
      (accepted : prepare scene command = (prepared, some parameters))
      (named : Builtin.Loop.iterator parameters (blockName parameters) = name)

/-- The parameter of a loop that names its property. -/
def iteratorParameter : Parameter where
  name := "IteratorProperty"
  type := .identifier
  description := some "Property set to the current value (default: Name)"

theorem IsPropertyName.noColon (isName : IsPropertyName name) : ':' ∉ name.toList := by
  have colonless {name : String} (valid : Identifier.isValid name = true) : ':' ∉ name.toList :=
    (Identifier.fault?_eq_none_iff.mp (Option.isNone_iff_eq_none.mp valid)).2.2.1
  cases isName with
  | set sets => exact colonless sets.isValid
  | @iterator scene prepared command parameters kind accepted named =>
      obtain ⟨validated, -⟩ := validated_of_accepted kind accepted
      have distinct : Builtin.Loop.definition.parameterNames.Nodup := by decide
      have admits := Validation.admits_of_validate distinct validated
      have blockAsked : Builtin.blockName ∈ Builtin.Loop.definition.parameters := by decide
      have iteratorAsked : iteratorParameter ∈ Builtin.Loop.definition.parameters := by decide
      subst named
      rw [Builtin.Loop.iterator, blockName]
      cases given : ParameterSet.text? parameters "IteratorProperty" with
      | some own => exact colonless (admits _ iteratorAsked rfl own given)
      | none =>
          cases block : ParameterSet.text? parameters "Name" with
          | some own => exact colonless (admits _ blockAsked rfl own block)
          | none => decide

/-- The command that a machine has come to stores a value under a name: it sets a property, or it
starts a pass of a loop with the value. -/
inductive Binds (setting : Setting) (plan : Plan) (machine : Machine) (planned : Planned)
    (name : String) (value : Value) : Prop where
  | set {type : String}
      (sets : Builtin.SetProperty.Sets machine.scene planned.command type name value)
  | pass {block : String} {values : Array Value} {current start : Nat} {outer : List Frame}
      {move : Move machine.budget}
      (inside : (turnAt setting plan machine planned.command).frames =
        .loop block name values current start :: outer)
      (here : values[current]? = some value)
      (moves : (turnAt setting plan machine planned.command).move = .ok move)
      (starts : move.left < machine.budget)

/-- A command that stores a value runs, and its turn leaves the value under the name. -/
theorem Binds.turns (binds : Binds setting plan machine planned name value) :
    planned.command.isInert = false ∧
      (turnAt setting plan machine planned.command).scene.workspace =
        machine.workspace.setProperty name value := by
  cases binds with
  | set sets =>
      have ordinary : planned.command.role? = none := by
        rw [Command.role?, Command.definition?, sets.kind]
        rfl
      rw [turnAt, Standing.dispatch_of_ordinary ordinary]
      refine ⟨?_, congrArg Scene.workspace (sets.execute_eq setting)⟩
      rw [Command.isInert, sets.kind]
  | pass inside here moves starts =>
      have comes := comes_turnAt setting plan machine planned.command
      generalize turnAt setting plan machine planned.command = turn at comes inside moves ⊢
      cases comes with
      | executed | skipped | entersCondition | unmatched | leaves =>
          cases moves
          exact absurd starts (Nat.lt_irrefl _)
      | unterminated | forbidden => cases moves
      | entersLoop opens _ _ _ _ front =>
          cases inside
          rw [front] at here
          cases here
          exact ⟨isInert_of_role opens, rfl⟩
      | repeats closes _ more =>
          cases inside
          rw [more] at here
          cases here
          exact ⟨isInert_of_role closes, rfl⟩

/-- Behind a step at which a value was stored under a name, the reference to the name expands to
the text of the value.  Only if the name holds a closing brace, it expands to what it expanded to
before, whatever the value is. -/
theorem expanded_reference_eq (isName : IsPropertyName name)
    (binds : Binds setting plan machine planned name value)
    (goes : step setting plan machine planned = .goes next)
    (written : command.parameters.get? key = some (reference name)) :
    (expanded next.workspace command).get? key =
      if '}' ∈ name.toList then (expanded machine.workspace command).get? key
      else some value.display := by
  obtain ⟨active, stores⟩ := binds.turns
  have workspace : next.workspace = machine.workspace.setProperty name value := by
    obtain ⟨inert, -⟩ | ⟨-, -, move, -, rfl⟩ := step_eq_goes goes
    · rw [inert] at active
      cases active
    · rw [workspace_settle_go, stores]
  have found (asked : String) : next.workspace.propertyText? asked =
      if asked = name then some value.display else machine.workspace.propertyText? asked := by
    rw [workspace, Workspace.propertyText?, Workspace.property?, Workspace.setProperty,
      OrderedMap.get?_insert]
    split <;> rfl
  rw [expanded, expanded, OrderedMap.get?_mapValues, OrderedMap.get?_mapValues, written,
    Option.map_some, Option.map_some]
  split
  · next brace =>
      -- no name that is looked up is this one
      have same : ∀ asked : String, '}' ∉ asked.toList →
          next.workspace.propertyText? asked = machine.workspace.propertyText? asked := by
        intro asked noBrace
        rw [found, if_neg]
        rintro rfl
        exact noBrace brace
      rw [Expansion.expand, Expansion.expand, Expansion.expandList_congr same]
  · next noBrace =>
      rw [Expansion.expand_reference noBrace isName.noColon ((found name).trans (if_pos rfl))]

/-- A machine in front of a line that sets an integer. -/
def integerMachine : Machine where
  position := 0
  frames := []
  budget := 0
  workspace := {}
  files := .empty [] "/"
  cancelled := false
  haltOnFailure := false
  exitRequested := false
  executions := #[[]]

open Builtin.SetProperty in
theorem expanded_reference_eq_integer :
    ∃ next, step Builtin.alone #[⟨0, integerLine "A" "+042 "⟩] integerMachine
        ⟨0, integerLine "A" "+042 "⟩ = .goes next ∧
      (integerLine "B" "${A}").parameters.get? "PropertyValue" = some (reference "A") ∧
      (expanded next.workspace (integerLine "B" "${A}")).get? "PropertyValue" = some "42" := by
  obtain ⟨next, goes⟩ := Progress.exists_eq_goes
    (show (step Builtin.alone #[⟨0, integerLine "A" "+042 "⟩] integerMachine
      ⟨0, integerLine "A" "+042 "⟩).goesOn = true by decide +kernel)
  have written : (integerLine "B" "${A}").parameters.get? "PropertyValue" =
      some (reference "A") := by decide
  have binds : Binds Builtin.alone #[⟨0, integerLine "A" "+042 "⟩] integerMachine
      ⟨0, integerLine "A" "+042 "⟩ "A" (.integer 42) := .set sets_integerLine
  refine ⟨next, goes, written, ?_⟩
  rw [expanded_reference_eq (.set sets_integerLine) binds goes written]
  decide +kernel

/-- Two lines that set a property with a closing brace in its name and refer to it. -/
def bracedName : Processor.Run :=
  ((Processor.create Builtin.registry {} (.empty [] "/") 0).loadText
    "SetProperty(PropertyName=\"a\x7db\",PropertyValue=x)
Message(Message=\"$\x7ba\x7db\x7d\")").runAll (.empty [] "/")

/-- The property is set, and the reference to it is left as it is written. -/
theorem reference_ends_at_brace :
    bracedName.processor.workspace.propertyText? "a\x7db" = some "x" ∧
      reference "a\x7db" = "$\x7ba\x7db\x7d" ∧
      bracedName.result.outcomes.map (·.messages) = [[], ["SUCCESS: $\x7ba\x7db\x7d"]] := by
  decide +kernel

end Workflow.Run
