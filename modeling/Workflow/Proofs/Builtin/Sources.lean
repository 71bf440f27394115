import Workflow.Proofs.Builtin.Requirements

/-!
# Where a loop takes its values from

The values of a loop come from a sequence of numbers, from a property, or from a column of a table.
The check of the loop lets exactly one of these sources pass, and the loop takes the values of this
source and of no other.
-/

namespace Workflow.Builtin.Loop

open Validation

/-- A source of values. -/
inductive Source where
  | sequence (start last increment : Float)
  | property (name : String)
  | column (table heading : String)

/-- The parameters that may name a source. -/
def sourceNames : List String :=
  ["SequenceStart", "SequenceEnd", "ListProperty", "TableID", "TableColumn"]

namespace Source

/-- The parameters that name the source. -/
def names : Source → List String
  | .sequence .. => ["SequenceStart", "SequenceEnd"]
  | .property _ => ["ListProperty"]
  | .column .. => ["TableID", "TableColumn"]

/-- The values that the source has in a workspace, of which a sequence has at most one more than a
run may iterate. -/
def values : Source → Workspace → (limit : Nat) → Except Error (Array Value)
  | .sequence start last increment, _, limit => .ok (Loop.sequence start last increment limit)
  | .property name, workspace, _ => propertyValues workspace name
  | .column id heading, workspace, _ => do
      let table ← workspace.table id
      let cells ← table.cells heading
      .ok (cells.map .text).toArray

/-- The parameters name the source.  A sequence without an increment counts in steps of one. -/
inductive IsNamed (parameters : ParameterSet) : Source → Prop where
  | sequence {start last increment : Float}
      (starts : parameters.get? "SequenceStart" = some (.float start))
      (ends : parameters.get? "SequenceEnd" = some (.float last))
      (steps : parameters.get? "SequenceIncrement" = some (.float increment) ∨
        parameters.get? "SequenceIncrement" = none ∧ increment = 1.0) :
      IsNamed parameters (.sequence start last increment)
  | property {name : String} (list : parameters.get? "ListProperty" = some (.text name)) :
      IsNamed parameters (.property name)
  | column {id heading : String} (table : parameters.get? "TableID" = some (.text id))
      (cells : parameters.get? "TableColumn" = some (.text heading)) :
      IsNamed parameters (.column id heading)

/-- The parameters name the source and none of them could name another one. -/
structure IsOnly (parameters : ParameterSet) (source : Source) : Prop where
  named : source.IsNamed parameters
  others : ∀ name ∈ sourceNames, name ∉ source.names → parameters.get? name = none

variable {parameters : ParameterSet} {source other : Source}

/-- Whatever could name a source and is there names the only one. -/
theorem IsOnly.mem_names (only : source.IsOnly parameters) {name : String} {value : Value}
    (held : parameters.get? name = some value) (among : name ∈ sourceNames) :
    name ∈ source.names := by
  by_contra other
  rw [only.others name among other] at held
  cases held

theorem IsOnly.eq (only : source.IsOnly parameters) (named : other.IsNamed parameters) :
    other = source := by
  cases only.named with
  | sequence starts ends steps =>
      cases named with
      | sequence otherStarts otherEnds otherSteps =>
          rw [starts] at otherStarts
          rw [ends] at otherEnds
          cases otherStarts
          cases otherEnds
          rcases steps with steps | ⟨noSteps, rfl⟩
          · rw [steps] at otherSteps
            rcases otherSteps with same | ⟨none, -⟩
            · cases same
              rfl
            · cases none
          · rw [noSteps] at otherSteps
            rcases otherSteps with some | ⟨-, rfl⟩
            · cases some
            · rfl
      | property list => exact absurd (only.mem_names list (by decide)) (by simp [names])
      | column table => exact absurd (only.mem_names table (by decide)) (by simp [names])
  | property list =>
      cases named with
      | sequence starts => exact absurd (only.mem_names starts (by decide)) (by simp [names])
      | property otherList =>
          rw [list] at otherList
          cases otherList
          rfl
      | column table => exact absurd (only.mem_names table (by decide)) (by simp [names])
  | column table cells =>
      cases named with
      | sequence starts => exact absurd (only.mem_names starts (by decide)) (by simp [names])
      | property list => exact absurd (only.mem_names list (by decide)) (by simp [names])
      | column otherTable otherCells =>
          rw [table] at otherTable
          rw [cells] at otherCells
          cases otherTable
          cases otherCells
          rfl

theorem IsOnly.values_eq (only : source.IsOnly parameters) (workspace : Workspace) (limit : Nat) :
    Loop.values parameters workspace limit = source.values workspace limit := by
  obtain ⟨named, others⟩ := only
  cases named with
  | sequence starts ends steps =>
      simp only [Loop.values, ParameterSet.float?, starts, ends, Option.bind_some, Value.float?,
        values]
      rcases steps with steps | ⟨noSteps, rfl⟩
      · rw [steps]
        rfl
      · rw [noSteps]
        rfl
  | property list =>
      have noStart := others "SequenceStart" (by decide) (by simp [names])
      simp only [Loop.values, ParameterSet.float?, ParameterSet.text?, noStart, list,
        Option.bind_none, Option.bind_some, Value.text?, values]
  | column table cells =>
      have noStart := others "SequenceStart" (by decide) (by simp [names])
      have noList := others "ListProperty" (by decide) (by simp [names])
      simp only [Loop.values, columnValues, ParameterSet.float?, ParameterSet.text,
        ParameterSet.text?, noStart, noList, table, cells, Option.bind_none, Option.bind_some,
        Value.text?, values]
      rfl

theorem isSupplied_values (source : Source) (workspace : Workspace) (limit : Nat) :
    IsSupplied (source.values workspace limit) := by
  cases source with
  | sequence start last increment => exact isSupplied_ok _
  | property name =>
      rw [values, propertyValues]
      split
      · exact isSupplied_error rfl
      · exact isSupplied_ok _
      · exact isSupplied_ok _
      · exact isSupplied_error rfl
  | column id heading =>
      exact isSupplied_bind (workspace.isSupplied_table id) fun table =>
        isSupplied_bind (table.isSupplied_cells heading) fun _ => isSupplied_ok _

end Source

/-! ## The check -/

section

variable {place : Place} {raw : OrderedMap String} {parameters : ParameterSet}

/-- Validated parameters of a sequence are numbers. -/
theorem exists_float_of_contains {name : String}
    (validated : validate place definition raw = .ok parameters)
    (among : name ∈ ["SequenceStart", "SequenceEnd", "SequenceIncrement"])
    (there : parameters.contains name = true) :
    ∃ number, parameters.get? name = some (.float number) := by
  have asked : ∀ name ∈ ["SequenceStart", "SequenceEnd", "SequenceIncrement"],
      ∃ next ∈ definition.parameters, next.name = name ∧ next.type = .float := by decide
  obtain ⟨next, member, rfl, float⟩ := asked name among
  obtain ⟨value, held⟩ := OrderedMap.contains_iff_exists_get?.mp there
  obtain ⟨text, spells⟩ :=
    ((get?_eq_some_iff_given (by decide) validated member).mp held).exists_spells
  rw [float] at spells
  cases spells with
  | float => exact ⟨_, held⟩

/-- Validated parameters that name a property or a column are texts. -/
theorem exists_text_of_contains {name : String}
    (validated : validate place definition raw = .ok parameters)
    (among : name ∈ ["ListProperty", "TableID", "TableColumn"])
    (there : parameters.contains name = true) :
    ∃ text, parameters.get? name = some (.text text) := by
  have asked : ∀ name ∈ ["ListProperty", "TableID", "TableColumn"],
      ∃ next ∈ definition.parameters, next.name = name ∧ next.type.isTextual = true := by decide
  obtain ⟨next, member, rfl, textual⟩ := asked name among
  obtain ⟨value, held⟩ := OrderedMap.contains_iff_exists_get?.mp there
  obtain ⟨text, spells⟩ :=
    ((get?_eq_some_iff_given (by decide) validated member).mp held).exists_spells
  generalize next.type = type at spells textual
  cases spells with
  | text | identifier | url => exact ⟨_, held⟩
  | integer | float | boolean | inputFile | outputFile | path => cases textual

/-- The check counts the sources. -/
theorem asks_one_of_check (fine : sourceProblems parameters = []) :
    asksSequence parameters = true ∧ asksList parameters = false ∧ asksTable parameters = false ∨
      asksSequence parameters = false ∧ asksList parameters = true ∧
        asksTable parameters = false ∨
      asksSequence parameters = false ∧ asksList parameters = false ∧
        asksTable parameters = true := by
  rw [sourceProblems] at fine
  generalize asksSequence parameters = sequence at fine ⊢
  generalize asksList parameters = list at fine ⊢
  generalize asksTable parameters = table at fine ⊢
  -- Only the number of sources that are asked for is left, and it is one or refused.
  revert sequence list table
  decide

/-- A source that has to be named by two parameters is not named by one. -/
theorem both_of_whole {asks both : Bool} {problem : Problem}
    (whole : (if asks && !both then [problem] else []) = []) (asked : asks = true) :
    both = true := by
  subst asked
  cases both with
  | false => cases whole
  | true => rfl

/-- A loop that was validated and checked has one source. -/
theorem exists_isOnly (validated : validate place definition raw = .ok parameters)
    (fine : problems parameters = []) : ∃ source : Source, source.IsOnly parameters := by
  simp only [problems, List.append_eq_nil_iff] at fine
  obtain ⟨⟨⟨counted, sequenceWhole⟩, tableWhole⟩, -⟩ := fine
  obtain ⟨asked, noList, noTable⟩ | ⟨noSequence, asked, noTable⟩ | ⟨noSequence, noList, asked⟩ :=
    asks_one_of_check counted
  · obtain ⟨hasStart, hasEnd⟩ := Bool.and_eq_true_iff.mp (both_of_whole sequenceWhole asked)
    obtain ⟨noId, noHeading⟩ := Bool.or_eq_false_iff.mp noTable
    obtain ⟨start, starts⟩ := exists_float_of_contains validated (by decide) hasStart
    obtain ⟨last, ends⟩ := exists_float_of_contains validated (by decide) hasEnd
    have others : ∀ name ∈ sourceNames, name ∉ ["SequenceStart", "SequenceEnd"] →
        parameters.get? name = none := by
      rw [asksList] at noList
      simp [sourceNames, OrderedMap.get?_eq_none_iff, noList, noId, noHeading]
    cases steps : parameters.contains "SequenceIncrement" with
    | true =>
        obtain ⟨increment, steps⟩ := exists_float_of_contains validated (by decide) steps
        exact ⟨.sequence start last increment, .sequence starts ends (.inl steps), others⟩
    | false =>
        have noSteps := OrderedMap.get?_eq_none_iff.mpr steps
        exact ⟨.sequence start last 1.0, .sequence starts ends (.inr ⟨noSteps, rfl⟩), others⟩
  · obtain ⟨noStart, noEnd⟩ := Bool.or_eq_false_iff.mp noSequence
    obtain ⟨noId, noHeading⟩ := Bool.or_eq_false_iff.mp noTable
    obtain ⟨name, list⟩ := exists_text_of_contains validated (by decide) asked
    refine ⟨.property name, .property list, ?_⟩
    simp [sourceNames, Source.names, OrderedMap.get?_eq_none_iff, noStart, noEnd, noId, noHeading]
  · obtain ⟨hasId, hasHeading⟩ := Bool.and_eq_true_iff.mp (both_of_whole tableWhole asked)
    obtain ⟨noStart, noEnd⟩ := Bool.or_eq_false_iff.mp noSequence
    obtain ⟨id, table⟩ := exists_text_of_contains validated (by decide) hasId
    obtain ⟨heading, cells⟩ := exists_text_of_contains validated (by decide) hasHeading
    refine ⟨.column id heading, .column table cells, ?_⟩
    rw [asksList] at noList
    simp [sourceNames, Source.names, OrderedMap.get?_eq_none_iff, noStart, noEnd, noList]

end

end Workflow.Builtin.Loop
