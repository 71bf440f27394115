import Workflow.Builtin
import Workflow.CommandFile
import Workflow.Proofs.OrderedMap

/-!
# Where the commands of a file come from

Every command of a file is a comment or what a line is read as outside of comments, and it is
known only as a command of the registry with which the file was read.
-/

namespace Workflow

/-- A command is known only as one of the commands of a registry. -/
def Command.RecognizedBy (registry : Registry) (command : Command) : Prop :=
  ∀ definition behavior, command.kind = .known definition behavior →
    ⟨definition, behavior⟩ ∈ registry.values

/-- The built-in registry holds the built-in commands and no others. -/
theorem Builtin.mem_commands_of_mem_registry {registration : Registration}
    (member : registration ∈ Builtin.registry.values) : registration ∈ Builtin.commands := by
  obtain ⟨pair, entry, rfl⟩ := List.mem_map.mp member
  obtain ⟨command, among, rfl⟩ := List.mem_map.mp (OrderedMap.mem_of_mem_ofList entry)
  exact among

namespace CommandFile

variable {registry : Registry} {number : Nat} {line : List Char} {command : Command}

theorem readLine_eq_of_call (registry : Registry) (number : Nat) {line : List Char}
    (notBlank : Text.trim line ≠ []) (notComment : (Text.trim line).head? ≠ some '#') :
    readLine registry number line =
      match Call.read (Text.trim line) with
      | .error fault => .error fault
      | .ok call =>
          .ok { name := call.name, line := number, text := String.ofList line,
                parameters := call.parameters, kind := recognize registry call.name } := by
  simp only [readLine]
  split
  · next empty => exact absurd empty notBlank
  · next rest comment =>
      rw [comment] at notComment
      exact absurd rfl notComment
  · rfl

/-- What holds of comments and of single lines holds of every command of a file. -/
theorem forall_mem_readLines {property : Command → Prop}
    (comment : ∀ number text, property (.inert number text .comment))
    (single : ∀ number line, opensComment (Text.trim line) = false →
      property (readLenient registry number line))
    (inComment : Bool) (number : Nat) (lines : List (List Char)) :
    ∀ command ∈ readLines registry inComment number lines, property command := by
  induction lines generalizing inComment number with
  | nil => exact fun command member => absurd member List.not_mem_nil
  | cons line rest ih =>
      intro command member
      simp only [readLines] at member
      split at member
      · rcases List.mem_cons.mp member with rfl | later
        · exact comment number _
        · exact ih _ _ command later
      · next outside =>
        split at member
        · rcases List.mem_cons.mp member with rfl | later
          · exact comment number _
          · exact ih _ _ command later
        · rcases List.mem_cons.mp member with rfl | later
          · exact single number line (by simpa using outside)
          · exact ih _ _ command later

theorem mem_values_of_recognize {name : String} {definition : Definition} {behavior : Behavior}
    (known : recognize registry name = .known definition behavior) :
    ⟨definition, behavior⟩ ∈ registry.values := by
  simp only [recognize] at known
  split at known
  · next found =>
      cases known
      exact List.mem_map_of_mem (OrderedMap.get?_eq_some_iff_mem.mp found)
  · cases known

theorem recognizedBy_of_readLine (read : readLine registry number line = .ok command) :
    command.RecognizedBy registry := by
  intro definition behavior known
  simp only [readLine] at read
  split at read
  · cases read
    cases known
  · cases read
    cases known
  · split at read
    · cases read
    · cases read
      exact mem_values_of_recognize known

theorem readLine_eq_of_readNumbered {text : String}
    (held : readNumbered registry number text = .ok command) :
    readLine registry number text.toList = .ok command := by
  simp only [readNumbered] at held
  cases read : readLine registry number text.toList with
  | error fault =>
      rw [read] at held
      cases held
  | ok found =>
      rw [read] at held
      exact congrArg Except.ok (Except.ok.inj held)

theorem recognizedBy_readLenient (number : Nat) (line : List Char) :
    (readLenient registry number line).RecognizedBy registry := by
  simp only [readLenient]
  split
  · next read => exact recognizedBy_of_readLine read
  · intro definition behavior known
    cases known

/-- The commands of a file are known from the registry with which it was read. -/
theorem recognizedBy_of_mem_read {text : String} (member : command ∈ read registry text) :
    command.RecognizedBy registry := by
  refine forall_mem_readLines ?_ ?_ _ _ _ command member
  · intro number text definition behavior known
    cases known
  · intro number line _
    exact recognizedBy_readLenient number line

/-- A line of a command file for the built-in commands. -/
def builtinLine (number : Nat) (text : String) : Command :=
  readLenient Builtin.registry number text.toList

end CommandFile

end Workflow
