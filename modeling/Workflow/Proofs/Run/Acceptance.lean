import Workflow.Proofs.Run.Checking
import Workflow.Proofs.Validation.Specification

/-!
# Commands that are accepted

A known command is accepted with the values that its texts stand for once they are expanded, if its
behavior has nothing against these values.  Otherwise it is refused, and all that is added to its
record are failures.
-/

namespace Workflow

/-- Whether the values of a type are texts. -/
def ParameterType.isTextual : ParameterType → Bool
  | .text | .identifier | .url => true
  | _ => false

/-- Whether the values of a type are paths. -/
def ParameterType.isLocation : ParameterType → Bool
  | .inputFile | .outputFile | .path => true
  | _ => false

/-- Whether a parameter always has a value: it has to be given, or has a default. -/
def Parameter.isCertain (next : Parameter) : Bool := next.required || next.fallback.isSome

/-- Whether a definition has a parameter with a name and a type of some kind that always has a
value. -/
def Definition.ensures (definition : Definition) (kind : ParameterType → Bool) (name : String) :
    Bool :=
  definition.parameters.any fun next => next.name == name && kind next.type && next.isCertain

namespace Validation

variable {place : Place} {raw : OrderedMap String} {definition : Definition} {next : Parameter}
  {values : ParameterSet} {name text : String} {value : Value}

/-- The text that counts for a parameter stands for a value. -/
def Given (place : Place) (raw : OrderedMap String) (next : Parameter) (value : Value) : Prop :=
  ∃ text, IsEffective raw next text ∧ Accepts place next text value

theorem Given.parameter_eq (given : Given place raw next value) :
    parameter place raw next = .ok (some value) := by
  obtain ⟨text, effective, accepts⟩ := given
  rw [parameter, effectiveText?_eq_some_iff.mpr effective]
  simp only [coerce_eq_ok_iff.mpr accepts, Except.map]

theorem Given.get?_of_validate (given : Given place raw next value)
    (distinct : definition.parameterNames.Nodup)
    (validated : validate place definition raw = .ok values)
    (member : next ∈ definition.parameters) : values.get? next.name = some value := by
  have makes := parameter_eq_of_validate distinct validated member
  rw [given.parameter_eq] at makes
  exact (Except.ok.inj makes).symm

theorem given_of_freeText (any : next.allowed = []) (free : next.type = .text)
    (held : raw.get? next.name = some text) (visible : ¬Text.AllBlank text.toList) :
    Given place raw next (.text text) :=
  ⟨text, .given (OrderedMap.get?_eq_some_iff_mem.mp held) visible, .freeText any free .text⟩

theorem given_of_identifier (any : next.allowed = []) (type : next.type = .identifier)
    (held : raw.get? next.name = some text) (valid : Identifier.isValid text = true)
    (trimmed : Text.trimmed text = text) : Given place raw next (.text text) := by
  obtain ⟨nonempty, noSpace, noColon, notNumeric⟩ :=
    Identifier.fault?_eq_none_iff.mp (Option.isNone_iff_eq_none.mp valid)
  have visible : ¬Text.AllBlank text.toList := by
    rw [← Text.trim_eq_nil_iff, ← Text.toList_trimmed, trimmed, String.toList_eq_nil_iff]
    exact nonempty
  refine ⟨text, .given (OrderedMap.get?_eq_some_iff_mem.mp held) visible, .trimmed any ?_ ?_⟩
  · rw [type]
    exact nofun
  · rw [type, trimmed]
    exact .identifier nonempty noSpace noColon notNumeric

/-- A visible text stands for the allowed one that it names. -/
theorem given_of_canonical {canonical : String} (free : next.type = .text)
    (held : raw.get? next.name = some text) (visible : ¬Text.AllBlank text.toList)
    (names : next.canonical? (Text.trimmed text) = some canonical) :
    Given place raw next (.text canonical) := by
  obtain ⟨before, after, among, others, same⟩ := canonical?_eq_some_iff.mp names
  refine ⟨text, .given (OrderedMap.get?_eq_some_iff_mem.mp held) visible, .allowed among others same
    ?_⟩
  rw [free]
  exact .text

theorem Given.exists_text (given : Given place raw next value) (any : next.allowed = [])
    (free : next.type = .text) : ∃ text, value = .text text ∧ IsEffective raw next text := by
  obtain ⟨text, effective, accepts⟩ := given
  cases accepts with
  | freeText _ _ spells =>
      cases spells
      exact ⟨text, rfl, effective⟩
  | trimmed _ other => exact absurd free other
  | allowed among => exact absurd (any.symm.trans among) (by simp)

theorem exists_given_of_validate (distinct : definition.parameterNames.Nodup)
    (validated : validate place definition raw = .ok values)
    (member : next ∈ definition.parameters) (certain : next.isCertain = true) :
    ∃ value, Given place raw next value ∧ values.get? next.name = some value := by
  have makes := makes_parameter place raw next
  rw [parameter_eq_of_validate distinct validated member] at makes
  generalize held : values.get? next.name = found at makes
  cases makes with
  | value effective accepts => exact ⟨_, ⟨_, effective, accepts⟩, rfl⟩
  | absent noText optional =>
      rw [Parameter.isCertain, optional, Bool.false_or] at certain
      have counts := effectiveText?_eq_none_iff.mpr noText
      rw [effectiveText?] at counts
      split at counts
      · cases counts
      · rw [counts] at certain
        cases certain

theorem Given.exists_spells (given : Given place raw next value) :
    ∃ text, Spells place text next.type value := by
  obtain ⟨text, -, accepts⟩ := given
  cases accepts with
  | freeText _ free spells => exact ⟨text, free ▸ spells⟩
  | trimmed _ _ spells => exact ⟨_, spells⟩
  | allowed _ _ _ spells => exact ⟨_, spells⟩

theorem get?_eq_some_iff_given (distinct : definition.parameterNames.Nodup)
    (validated : validate place definition raw = .ok values)
    (member : next ∈ definition.parameters) :
    values.get? next.name = some value ↔ Given place raw next value := by
  refine ⟨fun held => ?_, fun given => given.get?_of_validate distinct validated member⟩
  have makes := makes_parameter place raw next
  rw [parameter_eq_of_validate distinct validated member, held] at makes
  cases makes with
  | value effective accepts => exact ⟨_, effective, accepts⟩

/-- What a definition ensures is held by every validated set. -/
theorem exists_spells_of_ensures {kind : ParameterType → Bool}
    (distinct : definition.parameterNames.Nodup)
    (validated : validate place definition raw = .ok values)
    (ensured : definition.ensures kind name = true) :
    ∃ text type value, kind type = true ∧ Spells place text type value ∧
      values.get? name = some value := by
  obtain ⟨next, member, fits⟩ := List.any_eq_true.mp ensured
  rw [Bool.and_eq_true, Bool.and_eq_true, beq_iff_eq] at fits
  obtain ⟨⟨rfl, isKind⟩, certain⟩ := fits
  obtain ⟨value, given, held⟩ := exists_given_of_validate distinct validated member certain
  obtain ⟨text, spells⟩ := given.exists_spells
  exact ⟨text, next.type, value, isKind, spells, held⟩

theorem exists_text?_of_ensures (name : String) (distinct : definition.parameterNames.Nodup)
    (validated : validate place definition raw = .ok values)
    (ensured : definition.ensures ParameterType.isTextual name = true) :
    ∃ text, ParameterSet.text? values name = some text := by
  obtain ⟨text, type, value, textual, spells, held⟩ :=
    exists_spells_of_ensures distinct validated ensured
  rw [ParameterSet.text?, held]
  cases spells with
  | text | identifier | url => exact ⟨_, rfl⟩
  | integer | float | boolean | inputFile | outputFile | path => cases textual

theorem exists_path?_of_ensures (name : String) (distinct : definition.parameterNames.Nodup)
    (validated : validate place definition raw = .ok values)
    (ensured : definition.ensures ParameterType.isLocation name = true) :
    ∃ path, ParameterSet.path? values name = some path := by
  obtain ⟨text, type, value, location, spells, held⟩ :=
    exists_spells_of_ensures distinct validated ensured
  rw [ParameterSet.path?, held]
  cases spells with
  | inputFile | outputFile | path => exact ⟨_, rfl⟩
  | text | identifier | url | integer | float | boolean => cases location

theorem exists_integer?_of_ensures (name : String) (distinct : definition.parameterNames.Nodup)
    (validated : validate place definition raw = .ok values)
    (ensured : definition.ensures (· == .integer) name = true) :
    ∃ number, ParameterSet.integer? values name = some number := by
  obtain ⟨text, type, value, whole, spells, held⟩ :=
    exists_spells_of_ensures distinct validated ensured
  rw [ParameterSet.integer?, held]
  cases spells with
  | integer => exact ⟨_, rfl⟩
  | text | identifier | url | float | boolean | inputFile | outputFile | path => cases whole

end Validation

namespace Run

variable {scene prepared : Scene} {command : Command} {definition : Definition}
  {behavior : Behavior} {parameters : ParameterSet}

/-- Where the parameters of a command are validated. -/
def place (scene : Scene) : Validation.Place := ⟨scene.files, scene.workspace.workingFolder⟩

/-- A parameter of a command is given a value, once the texts of the command are expanded. -/
def Given (scene : Scene) (command : Command) (next : Parameter) (value : Value) : Prop :=
  Validation.Given (place scene) (expanded scene.workspace command) next value

/-- A text without references is validated as it is written. -/
theorem get?_expanded {key text : String} (written : command.parameters.get? key = some text)
    (plain : '$' ∉ text.toList) (workspace : Workspace) :
    (expanded workspace command).get? key = some text := by
  rw [expanded, OrderedMap.get?_mapValues, written, Option.map_some,
    Expansion.expand_of_notMem plain]

theorem checked_eq_ok_iff :
    checked scene command definition behavior = .ok parameters ↔
      validate (place scene) definition (expanded scene.workspace command) = .ok parameters ∧
        behavior.problems parameters = [] := by
  rw [checked, ← place]
  cases validate (place scene) definition (expanded scene.workspace command) with
  | error problems => simp
  | ok values =>
      cases found : behavior.problems values with
      | nil =>
          simp only [found, Except.ok.injEq]
          exact ⟨fun same => ⟨same, same ▸ found⟩, And.left⟩
      | cons problem problems =>
          simp only [found, Except.ok.injEq, reduceCtorEq, false_iff, not_and]
          rintro rfl
          simp [found]

theorem validated_of_accepted (kind : command.kind = .known definition behavior)
    (accepted : prepare scene command = (prepared, some parameters)) :
    validate (place scene) definition (expanded scene.workspace command) = .ok parameters ∧
      behavior.problems parameters = [] := by
  rw [prepare, kind] at accepted
  dsimp only at accepted
  split at accepted
  · cases accepted
  · next found =>
      cases accepted
      exact checked_eq_ok_iff.mp found

/-- A command that gives a value for every parameter of its definition, and names no others, is
validated with these values. -/
theorem exists_validate_of_given (distinct : definition.parameterNames.Nodup)
    (known : ∀ key ∈ command.parameters.keys, definition.recognizes key = true)
    (given : ∀ next ∈ definition.parameters, ∃ value, Given scene command next value) :
    ∃ parameters : ParameterSet,
      validate (place scene) definition (expanded scene.workspace command) = .ok parameters ∧
        ∀ next ∈ definition.parameters, ∀ value, Given scene command next value →
          parameters.get? next.name = some value := by
  obtain ⟨parameters, validated⟩ : ∃ parameters, validate (place scene) definition
      (expanded scene.workspace command) = .ok parameters := by
    apply Validation.exists_validate_eq_ok
    · rw [expanded, OrderedMap.keys_mapValues]
      exact known
    · intro next member
      obtain ⟨value, own⟩ := given next member
      exact ⟨some value, own.parameter_eq⟩
  exact ⟨parameters, validated,
    fun next member value own => own.get?_of_validate distinct validated member⟩

theorem prepare_of_validated (kind : command.kind = .known definition behavior)
    (validated : validate (place scene) definition (expanded scene.workspace command) =
      .ok parameters)
    (fine : behavior.problems parameters = []) :
    prepare scene command =
      ({ scene with status := scene.status.promote .validation .success }, some parameters) := by
  rw [prepare, kind]
  dsimp only
  rw [checked_eq_ok_iff.mpr ⟨validated, fine⟩]

/-- The record of a command that is refused has nothing but failures added to it. -/
theorem exists_records_of_refused (refused : prepare scene command = (prepared, none)) :
    ∃ added, prepared.status.records = scene.status.records ++ added ∧
      ∀ record ∈ added, record.severity = .failure := by
  simp only [prepare] at refused
  split at refused
  · cases refused
    exact ⟨[], (List.append_nil _).symm, List.forall_mem_nil _⟩
  · cases refused
    exact ⟨[], (List.append_nil _).symm, List.forall_mem_nil _⟩
  · cases refused
    exact ⟨_, StatusRecord.records_add _ _, by simp⟩
  · cases refused
    exact ⟨_, StatusRecord.records_add _ _, by simp⟩
  · split at refused
    · next problems _ =>
        cases refused
        refine ⟨_, records_refuseAll scene problems, ?_⟩
        simp [Problem.failure]
    · cases refused

end Run

end Workflow
