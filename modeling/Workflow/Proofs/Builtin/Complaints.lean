import Workflow.Builtin
import Workflow.Proofs.Validation

/-!
# What the complaints of validation say

A check of a command file foresees three kinds of failures, and each of them has an opening of its
own.  The complaint about the value of a parameter begins with the name of the parameter or with
one of a few fixed phrases.  No built-in parameter has a name that could be taken for one of the
openings, and no check of a built-in behavior complains in their words.
-/

namespace Workflow

namespace Check

/-- How the failures begin that a check of a command file foresees. -/
def openings : List String := ["Unknown command", "Could not parse command", "Unknown parameter"]

/-- Whether a text begins like a failure that a check foresees. -/
def isOpened (text : String) : Bool :=
  openings.any fun opening => opening.toList.isPrefixOf text.toList

/-- Whether a text differs from every opening before either of them ends. -/
def diverges (start : String) : Bool :=
  openings.all fun opening =>
    !opening.toList.isPrefixOf start.toList && !start.toList.isPrefixOf opening.toList

theorem isOpened_of_opening {opening text : String} (member : opening ∈ openings)
    (starts : opening.toList <+: text.toList) : isOpened text = true :=
  List.any_eq_true.mpr ⟨opening, member, List.isPrefixOf_iff_prefix.mpr starts⟩

theorem isOpened_of_prefix {start text : String} (other : diverges start = true)
    (starts : start.toList <+: text.toList) : isOpened text = false := by
  rw [isOpened, List.any_eq_false]
  intro opening member opens
  have apart := List.all_eq_true.mp other opening member
  simp only [Bool.and_eq_true, Bool.not_eq_true', ← Bool.not_eq_true,
    List.isPrefixOf_iff_prefix] at apart opens
  rcases List.prefix_or_prefix_of_prefix opens starts with shorter | longer
  · exact apart.1 shorter
  · exact apart.2 longer

end Check

namespace Validation

/-- How the complaints about a parameter begin. -/
def phrases (name : String) : List String :=
  [name, "Required parameter `", "Value `", "Invalid ID", "Folder `"]

/-- A text that begins like a complaint about the parameter with the given name. -/
def IsAbout (name text : String) : Prop :=
  ∃ start ∈ phrases name, start.toList <+: text.toList

variable {place : Place} {name text : String} {problem : Problem}

theorem isAbout_notOfType (name text article shape : String) :
    IsAbout name (notOfType name text article shape).problem :=
  ⟨name, by simp [phrases], by simp [notOfType, toString]⟩

theorem isAbout_notIdentifier (name text : String) (fault : IdentifierFault) :
    IsAbout name (notIdentifier name text fault).problem := by
  refine ⟨"Invalid ID", by simp [phrases], ?_⟩
  cases fault <;> simp [notIdentifier, Identifier.complaint, toString]

theorem isAbout_typed {type : ParameterType}
    (refused : typed place type name text = .error problem) : IsAbout name problem.problem := by
  unfold typed at refused
  dsimp only at refused
  generalize place.files.resolve place.workingFolder text = resolved at refused
  split at refused
  · cases refused
  · split at refused
    · cases refused
    · cases refused
      exact isAbout_notOfType name text "an" "integer"
  · split at refused
    · cases refused
    · cases refused
      exact isAbout_notOfType name text "a" "number"
  · split at refused
    · cases refused
    · cases refused
      exact ⟨name, by simp [phrases], by simp [notBoolean, toString]⟩
  · split at refused
    · cases refused
    · next fault _ =>
        cases refused
        exact isAbout_notIdentifier name text fault
  · split at refused
    · cases refused
    · cases refused
      exact ⟨name, by simp [phrases], by simp [noInputFile, toString]⟩
  · split at refused
    · cases refused
    · cases refused
      exact ⟨"Folder `", by simp [phrases], by simp [noOutputFolder, toString]⟩
  · cases refused
  · split at refused
    · cases refused
    · cases refused
      exact ⟨name, by simp [phrases], by simp [notUrl, toString]⟩

theorem isAbout_coerce {next : Parameter} (refused : coerce place next text = .error problem) :
    IsAbout next.name problem.problem := by
  simp only [coerce] at refused
  split at refused
  · exact isAbout_typed refused
  · split at refused
    · exact isAbout_typed refused
    · cases refused
      exact ⟨"Value `", by simp [phrases], by simp [notAllowed, toString]⟩

/-- Whatever is wrong with a parameter is complained about under its name. -/
theorem isAbout_parameter {raw : OrderedMap String} {next : Parameter}
    (refused : parameter place raw next = .error problem) : IsAbout next.name problem.problem := by
  simp only [parameter] at refused
  split at refused
  · next text _ =>
      cases coerced : coerce place next text with
      | ok value =>
          rw [coerced] at refused
          cases refused
      | error found =>
          rw [coerced] at refused
          cases refused
          exact isAbout_coerce coerced
  · split at refused
    · cases refused
      exact ⟨"Required parameter `", by simp [phrases], by simp [missingParameter, toString]⟩
    · cases refused

end Validation

namespace Builtin

open Check (isOpened isOpened_of_prefix diverges)

/-- No complaint about a built-in parameter begins like one of the openings. -/
theorem diverges_phrases : ∀ registration ∈ commands,
    ∀ parameter ∈ registration.definition.parameters,
      ∀ start ∈ Validation.phrases parameter.name, diverges start = true := by
  decide +kernel

/-- What validation complains about in the parameters of a built-in command is not foreseen. -/
theorem isOpened_of_mem_complaints {registration : Registration}
    (among : registration ∈ commands) {place : Validation.Place} {raw : OrderedMap String}
    {problem : Problem}
    (member : problem ∈ Validation.complaints place raw registration.definition.parameters) :
    isOpened problem.problem = false := by
  obtain ⟨parameter, listed, refused⟩ := Validation.exists_of_mem_complaints member
  obtain ⟨start, phrase, starts⟩ := Validation.isAbout_parameter refused
  exact isOpened_of_prefix (diverges_phrases _ among _ listed start phrase) starts

/-- A check of validated parameters that does not complain in the words of the openings. -/
def IsPlain (check : ParameterSet → List Problem) : Prop :=
  ∀ parameters, ∀ problem ∈ check parameters, isOpened problem.problem = false

theorem isPlain_unchecked : IsPlain unchecked := fun _ _ member => nomatch member

theorem Loop.isPlain_problems : IsPlain problems := by
  intro parameters problem member
  simp only [problems, List.mem_append] at member
  obtain ((source | sequence) | table) | increment := member
  · simp only [sourceProblems] at source
    split at source
    · rw [List.mem_singleton.mp source]
      decide +kernel
    · cases source
    · rw [List.mem_singleton.mp source]
      decide +kernel
  · simp only [sequenceProblems] at sequence
    split at sequence
    · rw [List.mem_singleton.mp sequence]
      decide +kernel
    · cases sequence
  · simp only [tableProblems] at table
    split at table
    · rw [List.mem_singleton.mp table]
      decide +kernel
    · cases table
  · simp only [incrementProblems] at increment
    split at increment
    · split at increment
      · rw [List.mem_singleton.mp increment]
        decide +kernel
      · cases increment
    · cases increment

theorem Conditional.isPlain_problems : IsPlain problems := by
  intro parameters problem member
  simp only [problems] at member
  split at member
  · cases member
  · rw [List.mem_singleton.mp member]
    decide +kernel

/-- A text that spells no value of the wanted type is quoted in front. -/
theorem SetProperty.isPlain_problems : IsPlain problems := by
  intro parameters problem member
  have quoted {complaint : String} (refused : value parameters = .error complaint) :
      "`".toList <+: complaint.toList := by
    simp only [value, typed] at refused
    split at refused
    · split at refused
      · cases refused
      · cases refused
        simp [toString]
    · split at refused
      · cases refused
      · cases refused
        simp [toString]
    · split at refused
      · cases refused
      · cases refused
        simp [toString]
    · cases refused
    · cases refused
    · cases refused
  simp only [problems] at member
  split at member
  · cases member
  · next complaint refused =>
      rw [List.mem_singleton.mp member]
      exact isOpened_of_prefix (by decide +kernel) (quoted refused)

theorem Delimiter.isOpened_complaint (text : String) : isOpened (complaint text) = false := by
  have starts : "Delimiter `".toList <+: (complaint text).toList := by
    simp [complaint, toString]
  exact isOpened_of_prefix (by decide +kernel) starts

theorem Delimiter.isPlain_problems : IsPlain problems := by
  intro parameters problem member
  simp only [problems] at member
  split at member
  · cases member
  · next refused =>
      rw [List.mem_singleton.mp member]
      simp only [ofParameters] at refused
      split at refused
      · cases refused
      · split at refused
        · split at refused
          · cases refused
          · cases refused
            exact isOpened_complaint _
        · cases refused
          exact isOpened_complaint _

theorem ReadTable.isPlain_problems : IsPlain problems := by
  intro parameters problem member
  rcases List.mem_append.mp member with delimiter | header
  · exact Delimiter.isPlain_problems parameters problem delimiter
  · simp only [headerProblems] at header
    split at header
    · split at header
      · rw [List.mem_singleton.mp header]
        decide +kernel
      · cases header
    · cases header

theorem WebGet.isPlain_problems : IsPlain problems := by
  intro parameters problem member
  simp only [problems] at member
  split at member
  · next count _ =>
      split at member
      · cases member
      · rw [List.mem_singleton.mp member]
        have starts : "RetryCount ".toList <+:
            (s!"RetryCount {count} is out of range").toList := by
          simp [toString]
        exact isOpened_of_prefix (by decide +kernel) starts
  · cases member

/-- No built-in behavior complains in the words of the openings. -/
theorem isPlain_of_mem_commands :
    ∀ registration ∈ commands, IsPlain registration.behavior.problems := by
  simp only [commands, control, properties, geoLayers, tables, downloads, commandFiles,
    List.cons_append, List.nil_append, List.forall_mem_cons]
  refine ⟨Loop.isPlain_problems, isPlain_unchecked, Conditional.isPlain_problems,
    isPlain_unchecked, isPlain_unchecked, isPlain_unchecked, SetProperty.isPlain_problems,
    isPlain_unchecked, isPlain_unchecked, isPlain_unchecked, isPlain_unchecked,
    isPlain_unchecked, ReadTable.isPlain_problems, Delimiter.isPlain_problems,
    isPlain_unchecked, WebGet.isPlain_problems, isPlain_unchecked, ?_⟩
  exact fun _ member => nomatch member

end Builtin

end Workflow
