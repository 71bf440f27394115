import Workflow.Proofs.Builtin.Sources

/-!
# What an accepted command is guaranteed

A built-in command that is accepted has all that its run relies on: its parameters hold what was
given for them, those that are required or have a default hold something, nothing is refused that
the check has let pass, and a loop has one source of values.
-/

namespace Workflow.Builtin

variable {definition : Definition} {behavior : Behavior} {parameters : ParameterSet}
  {place : Validation.Place} {raw : OrderedMap String}

/-! ## Conversions that are made again -/

theorem SetProperty.exists_value_eq (fine : problems parameters = []) :
    ∃ value, SetProperty.value parameters = .ok value := by
  rw [problems] at fine
  split at fine
  · exact ⟨_, ‹_›⟩
  · cases fine

/-- The number of header lines is given, or the default, and not negative. -/
theorem ReadTable.exists_headerLines_eq
    (validated : validate place ReadTable.definition raw = .ok parameters)
    (fine : headerProblems parameters = []) :
    ∃ count : Nat, ParameterSet.integer? parameters "HeaderLines" = some (count : Int) ∧
      headerLines parameters = count := by
  obtain ⟨number, counted⟩ :=
    Validation.exists_integer?_of_ensures "HeaderLines" (by decide) validated (by decide)
  rw [headerProblems, counted] at fine
  dsimp only at fine
  have notNegative : 0 ≤ number := by
    by_contra negative
    rw [if_pos (Int.not_le.mp negative)] at fine
    cases fine
  obtain ⟨count, rfl⟩ := Int.eq_ofNat_of_zero_le notNegative
  refine ⟨count, counted, ?_⟩
  rw [headerLines, counted]
  rfl

/-- The number of extra attempts is given, or the default, and within its bounds. -/
theorem WebGet.exists_retries_eq
    (validated : validate place WebGet.definition raw = .ok parameters)
    (fine : problems parameters = []) :
    ∃ count : Nat, ParameterSet.integer? parameters "RetryCount" = some (count : Int) ∧
      count ≤ maxRetries ∧ retries parameters = count := by
  obtain ⟨number, counted⟩ :=
    Validation.exists_integer?_of_ensures "RetryCount" (by decide) validated (by decide)
  rw [problems, counted] at fine
  dsimp only at fine
  split at fine
  · next inside =>
      obtain ⟨count, rfl⟩ := Int.eq_ofNat_of_zero_le inside.1
      refine ⟨count, counted, inside.2, ?_⟩
      rw [retries, counted]
      rfl
  · cases fine

/-- What a command turns its parameters into for the check, it can turn them into again. -/
structure Reconverts (definition : Definition) (parameters : ParameterSet) : Prop where
  property : definition = SetProperty.definition →
    ∃ value, SetProperty.value parameters = .ok value
  delimiter : Delimiter.parameter ∈ definition.parameters →
    ∃ delimiter, Delimiter.ofParameters parameters = .ok delimiter
  headerLines : definition = ReadTable.definition →
    ∃ count : Nat, ParameterSet.integer? parameters "HeaderLines" = some (count : Int) ∧
      ReadTable.headerLines parameters = count
  retries : definition = WebGet.definition →
    ∃ count : Nat, ParameterSet.integer? parameters "RetryCount" = some (count : Int) ∧
      count ≤ WebGet.maxRetries ∧ WebGet.retries parameters = count
  status : definition = RunCommands.definition →
    ∀ commands, ∃ status, Nested.expectedStatus parameters commands = .ok status

theorem behavior_eq_of_mem {other : Behavior} (listed : ⟨definition, behavior⟩ ∈ commands)
    (too : ⟨definition, other⟩ ∈ commands) : behavior = other := by
  have distinct : (commands.map (·.definition.name)).Nodup := by decide
  have same := List.inj_on_of_nodup_map distinct listed too rfl
  cases same
  rfl

/-- Only two of the built-in commands have a delimiter. -/
theorem definition_eq_of_delimiter (listed : ⟨definition, behavior⟩ ∈ commands)
    (cuts : Delimiter.parameter ∈ definition.parameters) :
    definition = ReadTable.definition ∨ definition = WriteTable.definition := by
  have each : ∀ definition ∈ commands.map (·.definition),
      Delimiter.parameter ∈ definition.parameters →
        definition = ReadTable.definition ∨ definition = WriteTable.definition := by decide
  exact each definition (List.mem_map_of_mem (f := (·.definition)) listed) cuts

theorem SetProperty.mem_commands :
    ⟨SetProperty.definition, .action problems perform⟩ ∈ commands := by
  simp [commands, properties]

theorem ReadTable.mem_commands :
    ⟨ReadTable.definition, .action problems perform⟩ ∈ commands := by
  simp [commands, tables]

theorem WriteTable.mem_commands :
    ⟨WriteTable.definition, .action Delimiter.problems perform⟩ ∈ commands := by
  simp [commands, tables]

theorem WebGet.mem_commands :
    ⟨WebGet.definition, .action problems perform⟩ ∈ commands := by
  simp [commands, downloads]

theorem reconverts_of_check (listed : ⟨definition, behavior⟩ ∈ commands)
    (validated : validate place definition raw = .ok parameters)
    (fine : behavior.problems parameters = []) : Reconverts definition parameters where
  property := by
    rintro rfl
    obtain rfl := behavior_eq_of_mem listed SetProperty.mem_commands
    exact SetProperty.exists_value_eq fine
  delimiter := by
    intro cuts
    rcases definition_eq_of_delimiter listed cuts with rfl | rfl
    · obtain rfl := behavior_eq_of_mem listed ReadTable.mem_commands
      exact Delimiter.exists_ofParameters_eq (List.append_eq_nil_iff.mp fine).1
    · obtain rfl := behavior_eq_of_mem listed WriteTable.mem_commands
      exact Delimiter.exists_ofParameters_eq fine
  headerLines := by
    rintro rfl
    obtain rfl := behavior_eq_of_mem listed ReadTable.mem_commands
    exact ReadTable.exists_headerLines_eq validated (List.append_eq_nil_iff.mp fine).2
  retries := by
    rintro rfl
    obtain rfl := behavior_eq_of_mem listed WebGet.mem_commands
    exact WebGet.exists_retries_eq validated fine
  status := by
    rintro rfl commands
    exact ⟨_, Nested.expectedStatus_of_validate validated commands⟩

/-! ## The source of a loop -/

theorem Loop.mem_commands : ⟨Loop.definition, structural problems⟩ ∈ commands := by
  simp [commands, control]

/-! ## What is guaranteed -/

/-- A built-in command that is accepted can rely on its parameters, wherever and however deep in
nested runs it is performed.  Each parameter holds what is given for it, and one that is required or
has a default holds something.  The command is never ended because a parameter is not set, and what
its check has let pass is not refused.  A loop has a single source, no parameter names another one,
and it takes the values of this source. -/
theorem accepted_is_guaranteed (listed : ⟨definition, behavior⟩ ∈ commands) {command : Command}
    (kind : command.kind = .known definition behavior) {scene prepared : Scene}
    (accepted : Run.prepare scene command = (prepared, some parameters)) :
    (∀ next ∈ definition.parameters,
      (∀ value, parameters.get? next.name = some value ↔ Run.Given scene command next value) ∧
      (next.isCertain = true → ∃ value, parameters.get? next.name = some value)) ∧
    (∀ registry levels surroundings other,
      (Run.act ⟨surroundings, Nested.runFile registry levels⟩ command surroundings parameters
        other).IsSupplied) ∧
    Reconverts definition parameters ∧
    (definition = Loop.definition → ∃ source : Loop.Source, source.IsOnly parameters ∧
      (∀ other : Loop.Source, other.IsNamed parameters → other = source) ∧
      ∀ workspace limit,
        Loop.values parameters workspace limit = source.values workspace limit ∧
        IsSupplied (Loop.values parameters workspace limit)) := by
  obtain ⟨validated, fine⟩ := Run.validated_of_accepted kind accepted
  have distinct : definition.parameterNames.Nodup := by
    have each : ∀ definition ∈ commands.map (·.definition), definition.parameterNames.Nodup := by
      decide
    exact each definition (List.mem_map_of_mem (f := (·.definition)) listed)
  refine ⟨fun next member => ⟨?_, ?_⟩, ?_, reconverts_of_check listed validated fine, ?_⟩
  · intro value
    exact Validation.get?_eq_some_iff_given distinct validated member
  · intro certain
    obtain ⟨value, -, held⟩ :=
      Validation.exists_given_of_validate distinct validated member certain
    exact ⟨value, held⟩
  · intro registry levels surroundings other
    have supplied := isSupplied_of_mem_commands _ listed _ _ _ validated
    rw [Run.act, kind]
    cases behavior with
    | action check perform => exact supplied surroundings other
    | runFile => exact supplied registry levels surroundings other
  · rintro rfl
    obtain rfl := behavior_eq_of_mem listed Loop.mem_commands
    obtain ⟨source, only⟩ := Loop.exists_isOnly validated fine
    refine ⟨source, only, fun other named => only.eq named, fun workspace limit => ?_⟩
    rw [only.values_eq]
    exact ⟨rfl, source.isSupplied_values workspace limit⟩

/-- A line that repeats a block for the cells of a column. -/
def columnLoop : Command where
  name := "For"
  line := 1
  text := "For(Name=Row,TableID=T,TableColumn=a,ListProperty=)"
  parameters := .ofList
    [("Name", "Row"), ("TableID", "T"), ("TableColumn", "a"), ("ListProperty", "")]
  kind := .known Loop.definition (structural Loop.problems)

/-- A table with two rows. -/
def columnScene : Scene where
  workspace := { tables := .ofList [("T", ⟨"T", ["a"], [["1"], ["2"]], none⟩)] }
  files := .empty ["work"] "/home"
  cancelled := false
  haltOnFailure := false
  exitRequested := false
  status := .fresh

theorem accepted_is_guaranteed_column :
    ∃ prepared parameters, Run.prepare columnScene columnLoop = (prepared, some parameters) ∧
      ∃ source : Loop.Source, source.IsOnly parameters ∧
        Loop.values parameters columnScene.workspace 10 =
          source.values columnScene.workspace 10 ∧
        (source.values columnScene.workspace 10).toOption.map (·.toList.map Value.display) =
          some ["1", "2"] := by
  have given : (Run.prepare columnScene columnLoop).2.isSome = true := by decide +kernel
  obtain ⟨parameters, prepared⟩ := Option.isSome_iff_exists.mp given
  have accepted : Run.prepare columnScene columnLoop =
      ((Run.prepare columnScene columnLoop).1, some parameters) := by rw [← prepared]
  obtain ⟨-, -, -, loops⟩ := accepted_is_guaranteed Loop.mem_commands rfl accepted
  obtain ⟨source, only, -, takes⟩ := loops rfl
  obtain ⟨same, -⟩ := takes columnScene.workspace 10
  refine ⟨_, parameters, accepted, source, only, same, ?_⟩
  have shown : (Run.prepare columnScene columnLoop).2.map (fun parameters =>
      (Loop.values parameters columnScene.workspace 10).toOption.map
        (·.toList.map Value.display)) = some (some ["1", "2"]) := by
    decide +kernel
  rw [prepared, Option.map_some, Option.some.injEq, same] at shown
  exact shown

end Workflow.Builtin
