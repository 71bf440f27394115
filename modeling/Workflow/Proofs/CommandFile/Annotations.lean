import Workflow.CommandFile

/-!
# Annotations of a command file

A command file is annotated for a key with what its first annotation with this key says, in
whatever case the key is written.  The annotations of a file say whether it is enabled and which
status it is expected to end with.
-/

namespace Workflow.CommandFile

/-- The first annotation with a key has a value. -/
inductive Annotates (key value : String) : List Command → Prop where
  | here {command : Command} {rest : List Command} {name : String}
      (given : command.annotation? = some (name, value))
      (same : Text.sameIgnoringCase name key = true) : Annotates key value (command :: rest)
  | later {command : Command} {rest : List Command}
      (other : ∀ name text, command.annotation? = some (name, text) →
        Text.sameIgnoringCase name key = false)
      (behind : Annotates key value rest) : Annotates key value (command :: rest)

variable {key value : String} {command : Command} {commands : List Command}

theorem annotated?_cons_of_here {name : String}
    (given : command.annotation? = some (name, value))
    (same : Text.sameIgnoringCase name key = true) :
    annotated? key (command :: commands) = some value := by
  rw [annotated?, List.filterMap_cons_some given, List.find?_cons, same]
  rfl

theorem annotated?_cons_of_other
    (other : ∀ name text, command.annotation? = some (name, text) →
      Text.sameIgnoringCase name key = false) :
    annotated? key (command :: commands) = annotated? key commands := by
  rw [annotated?, annotated?]
  cases given : command.annotation? with
  | none => rw [List.filterMap_cons_none given]
  | some found =>
      rw [List.filterMap_cons_some given, List.find?_cons,
        other found.1 found.2 given]

theorem annotated?_eq_some_iff :
    annotated? key commands = some value ↔ Annotates key value commands := by
  constructor
  · intro annotated
    induction commands with
    | nil => cases annotated
    | cons command rest ih =>
        by_cases own : ∃ name text, command.annotation? = some (name, text) ∧
            Text.sameIgnoringCase name key = true
        · obtain ⟨name, text, given, same⟩ := own
          rw [annotated?_cons_of_here given same] at annotated
          cases annotated
          exact .here given same
        · have other : ∀ name text, command.annotation? = some (name, text) →
              Text.sameIgnoringCase name key = false := fun name text given =>
            eq_false_of_ne_true fun same => own ⟨name, text, given, same⟩
          rw [annotated?_cons_of_other other] at annotated
          exact .later other (ih annotated)
  · intro annotates
    induction annotates with
    | here given same => exact annotated?_cons_of_here given same
    | later other _ ih => rw [annotated?_cons_of_other other, ih]

/-- The file is annotated as not enabled. -/
def IsDisabled (commands : List Command) : Prop :=
  ∃ value, Annotates "enabled" value commands ∧ readBoolean value = some false

/-- A file is enabled unless it says that it is not. -/
theorem isEnabled_eq_false_iff : isEnabled commands = false ↔ IsDisabled commands := by
  rw [isEnabled]
  constructor
  · intro disabled
    cases found : (annotated? "enabled" commands).bind readBoolean with
    | none =>
        rw [found] at disabled
        cases disabled
    | some truth =>
        rw [found] at disabled
        obtain ⟨value, annotated, reads⟩ := Option.bind_eq_some_iff.mp found
        refine ⟨value, annotated?_eq_some_iff.mp annotated, ?_⟩
        rw [reads]
        exact congrArg some disabled
  · rintro ⟨value, annotates, reads⟩
    rw [annotated?_eq_some_iff.mpr annotates, Option.bind_some, reads]
    rfl

/-- A file has an expected status if it is annotated with the name of one. -/
theorem expectedStatus?_eq_some_iff {status : Status} :
    expectedStatus? commands = some status ↔
      ∃ text, Annotates "expectedStatus" text commands ∧ Status.read? text = some status := by
  simp only [expectedStatus?, Option.bind_eq_some_iff, annotated?_eq_some_iff]

end Workflow.CommandFile
