import Workflow.Builtin
import Workflow.Proofs.CommandFile.Recognition
import Workflow.Proofs.Run.Program
import Workflow.Proofs.Validation

/-!
# The names of blocks

A block is named literally if the name needs no expansion and is an identifier.  A built-in
command with a literal name has that name in every scene in which it is validated, and a built-in
terminator with nothing but a literal name is always validated.
-/

namespace Workflow

/-- The built-in command that plays a part in the block structure. -/
def Builtin.blockCommand : BlockRole → Registration
  | .openLoop => ⟨Loop.definition, structural Loop.problems⟩
  | .closeLoop => ⟨closer "EndFor" "End of a For loop" .closeLoop, structural unchecked⟩
  | .openCondition => ⟨Conditional.definition, structural Conditional.problems⟩
  | .closeCondition => ⟨closer "EndIf" "End of an If block" .closeCondition, structural unchecked⟩

/-- The only commands of a registry that play a part in the block structure are built-in. -/
def Registry.HasBuiltinBlocks (registry : Registry) : Prop :=
  ∀ registration ∈ registry.values, ∀ role, registration.definition.role = some role →
    registration = Builtin.blockCommand role

/-- A command is the built-in one that plays a part in the block structure. -/
def Command.IsBuiltin (command : Command) (role : BlockRole) : Prop :=
  command.kind =
    .known (Builtin.blockCommand role).definition (Builtin.blockCommand role).behavior

/-- A command has a name that is an identifier and needs no expansion. -/
def Command.HasLiteralName (command : Command) : Prop :=
  ∃ text, command.parameter? "Name" = some text ∧ '$' ∉ text.toList ∧
    Identifier.isValid (Text.trimmed text) = true

theorem Command.RecognizedBy.isBuiltin {registry : Registry} {command : Command}
    {role : BlockRole} (recognized : command.RecognizedBy registry)
    (blocks : registry.HasBuiltinBlocks) (plays : command.role? = some role) :
    command.IsBuiltin role := by
  simp only [role?, definition?] at plays
  split at plays
  · next definition behavior kind =>
      have builtin := blocks _ (recognized _ _ kind) role plays
      rw [IsBuiltin, kind, ← builtin]
  · cases plays

theorem Builtin.hasBuiltinBlocks_registry : Builtin.registry.HasBuiltinBlocks := by
  intro registration member role plays
  have among := mem_commands_of_mem_registry member
  have others : ∀ registration ∈
      properties ++ geoLayers ++ tables ++ downloads ++ commandFiles,
      registration.definition.role = none := by decide
  rw [commands, List.append_assoc, List.append_assoc, List.append_assoc, List.append_assoc] at among
  rcases List.mem_append.mp among with inControl | elsewhere
  · simp only [control, List.mem_cons, List.not_mem_nil, or_false] at inControl
    rcases inControl with rfl | rfl | rfl | rfl | rfl | rfl <;> cases plays <;> rfl
  · rw [others registration (by simpa using elsewhere)] at plays
    cases plays

theorem Command.IsBuiltin.role?_eq {command : Command} {role : BlockRole}
    (builtin : command.IsBuiltin role) : command.role? = some role := by
  simp only [role?, definition?]
  rw [builtin]
  cases role <;> rfl

namespace Run

open Validation (Place)

theorem trim_ne_nil_of_isValid {text : String}
    (valid : Identifier.isValid (Text.trimmed text) = true) : Text.trim text.toList ≠ [] := by
  intro blank
  rw [Text.trimmed, blank] at valid
  exact absurd valid (by decide)

/-- A name that is an identifier is taken without the blanks around it. -/
theorem parameter_blockName (place : Place) {raw : OrderedMap String} {text : String}
    (given : raw.get? "Name" = some text)
    (valid : Identifier.isValid (Text.trimmed text) = true) :
    Validation.parameter place raw Builtin.blockName =
      .ok (some (.text (Text.trimmed text))) := by
  have counts : Validation.effectiveText? raw Builtin.blockName = some text := by
    rw [Validation.effectiveText?, show Builtin.blockName.name = "Name" from rfl, given,
      Option.filter_some, if_pos (by simpa using trim_ne_nil_of_isValid valid)]
  have normal : Validation.normalText Builtin.blockName text = Text.trimmed text :=
    if_neg (by decide)
  have spells : Validation.typed place .identifier "Name" (Text.trimmed text) =
      .ok (.text (Text.trimmed text)) := by
    unfold Validation.typed
    dsimp only
    rw [Option.isNone_iff_eq_none.mp valid]
  have coerced : Validation.coerce place Builtin.blockName text =
      .ok (.text (Text.trimmed text)) := by
    simp only [Validation.coerce]
    rw [if_pos (by rfl), normal]
    exact spells
  rw [Validation.parameter, counts]
  dsimp only
  rw [coerced]
  rfl

/-- A literal name is the same after expansion. -/
theorem get?_expanded_of_literal {command : Command} {text : String}
    (given : command.parameter? "Name" = some text) (plain : '$' ∉ text.toList)
    (workspace : Workspace) :
    (expanded workspace command).get? "Name" = some text := by
  rw [expanded, OrderedMap.get?_mapValues, show command.parameters.get? "Name" = some text from
    given, Option.map_some, Expansion.expand_of_notMem plain]

theorem blockName_of_get? {parameters : ParameterSet} {name : String}
    (found : parameters.get? "Name" = some (.text name)) : blockName parameters = name := by
  rw [blockName, ParameterSet.text?, found]
  rfl

theorem validate_of_prepare {scene prepared : Scene} {command : Command}
    {definition : Definition} {behavior : Behavior} {parameters : ParameterSet}
    (known : command.kind = .known definition behavior)
    (accepted : prepare scene command = (prepared, some parameters)) :
    validate ⟨scene.files, scene.workspace.workingFolder⟩ definition
      (expanded scene.workspace command) = .ok parameters := by
  simp only [prepare] at accepted
  rw [known] at accepted
  dsimp only at accepted
  split at accepted
  · cases accepted
  · next checks =>
      cases accepted
      simp only [checked] at checks
      split at checks
      · cases checks
      · next validated =>
          split at checks
          · cases checks
            exact validated
          · cases checks

theorem blockName_of_prepare {scene prepared : Scene} {command : Command} {kind : BlockKind}
    {parameters : ParameterSet} (builtin : command.IsBuiltin kind.opener)
    (literal : command.HasLiteralName)
    (accepted : prepare scene command = (prepared, some parameters)) :
    blockName parameters = writtenName command := by
  obtain ⟨text, given, plain, valid⟩ := literal
  have validated := validate_of_prepare builtin accepted
  have distinct : (Builtin.blockCommand kind.opener).definition.parameterNames.Nodup := by
    cases kind <;> decide
  have named : Builtin.blockName ∈ (Builtin.blockCommand kind.opener).definition.parameters := by
    cases kind <;> exact List.mem_cons_self
  have makes := Validation.parameter_eq_of_validate distinct validated named
  rw [parameter_blockName _ (get?_expanded_of_literal given plain _) valid] at makes
  rw [blockName_of_get? (Except.ok.inj makes).symm, writtenName, given]

/-- A built-in terminator with nothing but a literal name is validated. -/
theorem prepare_terminator {command : Command} {kind : BlockKind}
    (builtin : command.IsBuiltin kind.terminator) (literal : command.HasLiteralName)
    (alone : command.parameters.keys = ["Name"]) (scene : Scene) :
    ∃ parameters,
      prepare scene command =
        ({ scene with status := scene.status.promote .validation .success }, some parameters) ∧
      blockName parameters = writtenName command := by
  obtain ⟨text, given, plain, valid⟩ := literal
  have makes (place : Place) :=
    parameter_blockName place (get?_expanded_of_literal given plain scene.workspace) valid
  obtain ⟨parameters, validated⟩ :
      ∃ parameters, validate ⟨scene.files, scene.workspace.workingFolder⟩
        (Builtin.blockCommand kind.terminator).definition (expanded scene.workspace command) =
          .ok parameters := by
    apply Validation.exists_validate_eq_ok
    · intro name member
      have same : name = "Name" := by
        have keys : (expanded scene.workspace command).keys = command.parameters.keys := by
          simp [expanded, OrderedMap.keys, Function.comp_def]
        rw [keys, alone] at member
        exact List.mem_singleton.mp member
      subst same
      cases kind <;> decide
    · intro next member
      have same : next = Builtin.blockName := by
        cases kind <;> exact List.mem_singleton.mp member
      subst same
      exact ⟨_, makes _⟩
  refine ⟨parameters, ?_, ?_⟩
  · have checks : checked scene command (Builtin.blockCommand kind.terminator).definition
        (Builtin.blockCommand kind.terminator).behavior = .ok parameters := by
      simp only [checked]
      rw [validated]
      cases kind <;> rfl
    simp only [prepare]
    rw [builtin]
    dsimp only
    rw [checks]
  · have distinct : (Builtin.blockCommand kind.terminator).definition.parameterNames.Nodup := by
      cases kind <;> decide
    have named :
        Builtin.blockName ∈ (Builtin.blockCommand kind.terminator).definition.parameters := by
      cases kind <;> exact List.mem_cons_self
    have found := Validation.parameter_eq_of_validate distinct validated named
    rw [makes] at found
    rw [blockName_of_get? (Except.ok.inj found).symm, writtenName, given]

/-! ## Programs with literal names -/

namespace Program

/-- Every block has a literal name, and nothing else is written at its terminator. -/
def Literal : Program → Prop
  | .done => True
  | .single _ rest => rest.Literal
  | .block _ opener body closer rest =>
      opener.HasLiteralName ∧ closer.HasLiteralName ∧ closer.parameters.keys = ["Name"] ∧
        body.Literal ∧ rest.Literal

/-- Every block is opened and closed by built-in commands. -/
def Builtin : Program → Prop
  | .done => True
  | .single _ rest => rest.Builtin
  | .block kind opener body closer rest =>
      opener.IsBuiltin kind.opener ∧ closer.IsBuiltin kind.terminator ∧ body.Builtin ∧
        rest.Builtin

/-- Blocks are properly nested and literally named, and no block holds another one of its kind
and name. -/
structure WellBlocked (program : Program) : Prop where
  nested : program.Nested
  unrepeated : program.Unrepeated
  literal : program.Literal

namespace WellBlocked

variable {kind : BlockKind} {command opener closer : Command} {body rest : Program}

theorem single_rest (blocked : (single command rest).WellBlocked) : rest.WellBlocked :=
  ⟨blocked.nested.2, blocked.unrepeated, blocked.literal⟩

theorem block_body (blocked : (block kind opener body closer rest).WellBlocked) :
    body.WellBlocked := by
  obtain ⟨⟨-, -, -, -, -, nested, -⟩, ⟨-, unrepeated, -⟩, ⟨-, -, -, literal, -⟩⟩ := blocked
  exact ⟨nested, unrepeated, literal⟩

theorem block_rest (blocked : (block kind opener body closer rest).WellBlocked) :
    rest.WellBlocked := by
  obtain ⟨⟨-, -, -, -, -, -, nested⟩, ⟨-, -, unrepeated⟩, ⟨-, -, -, -, literal⟩⟩ := blocked
  exact ⟨nested, unrepeated, literal⟩

end WellBlocked

/-- A nested program of commands of a registry uses the blocks of the registry. -/
theorem builtin_of_recognized {registry : Registry} {program : Program}
    (nested : program.Nested) (blocks : registry.HasBuiltinBlocks)
    (recognized : ∀ command ∈ program.commands, command.RecognizedBy registry) :
    program.Builtin := by
  induction program with
  | done => trivial
  | single command rest ih =>
      exact ih nested.2 fun command member => recognized command (List.mem_cons_of_mem _ member)
  | block kind opener body closer rest bodyIH restIH =>
      obtain ⟨opens, closing, -, -, -, bodyNested, restNested⟩ := nested
      simp only [commands, List.mem_cons, List.mem_append] at recognized
      refine ⟨?_, ?_, ?_, ?_⟩
      · exact (recognized opener (.inl rfl)).isBuiltin blocks opens
      · exact (recognized closer (.inr (.inr (.inl rfl)))).isBuiltin blocks closing
      · exact bodyIH bodyNested fun command member => recognized command (.inr (.inl member))
      · exact restIH restNested fun command member =>
          recognized command (.inr (.inr (.inr member)))

end Program

end Run

end Workflow
