import Workflow.Proofs.Call.Unambiguous
import Workflow.Proofs.CommandFile.Recognition

/-!
# The grammar of a command line

A line that is neither blank nor a comment holds a command exactly when its trimmed text is the
text of a valid written call.  The written call is unique, so the name and the parameters are a
function of the line, and every other such line is refused with its number.
-/

namespace Workflow.CommandFile

open Text Call

/-- A command that a line holds has a written form on the trimmed line. -/
theorem exists_written_of_readNumbered {registry : Registry} {number : Nat} {line : String}
    {command : Command} (notBlank : trim line.toList ≠ [])
    (notComment : (trim line.toList).head? ≠ some '#')
    (held : readNumbered registry number line = .ok command) :
    ∃ written : WrittenCall, written.IsValid ∧ written.text = trim line.toList ∧
      String.ofList written.name = command.name ∧
      written.list.meaning = command.parameters.entries := by
  rw [readNumbered, readLine_eq_of_call registry number notBlank notComment] at held
  split at held
  · cases held
  · next call read =>
      cases held
      exact exists_written_of_read (trim_trim line.toList) read

/-- A line with a written form holds the command that is meant. -/
theorem readNumbered_of_written (registry : Registry) (number : Nat) {line : String}
    {written : WrittenCall} (notBlank : trim line.toList ≠ [])
    (notComment : (trim line.toList).head? ≠ some '#') (valid : written.IsValid)
    (writes : written.text = trim line.toList) :
    ∃ command, readNumbered registry number line = .ok command ∧
      command.name = String.ofList written.name ∧
      command.parameters.entries = written.list.meaning := by
  obtain ⟨parameters, read, entries⟩ := read_text valid
  rw [writes] at read
  rw [readNumbered, readLine_eq_of_call registry number notBlank notComment, read]
  exact ⟨_, rfl, rfl, entries⟩

/-- On a line that is neither blank nor a comment, the commands that can be read are those that
are written there, the way a command is written is unique, and a line where none is written is
refused with the number of the line. -/
theorem readNumbered_eq_ok_iff_written (registry : Registry) (number : Nat) {line : String}
    (notBlank : trim line.toList ≠ []) (notComment : (trim line.toList).head? ≠ some '#') :
    (∀ name parameters,
      (∃ command, readNumbered registry number line = .ok command ∧ command.name = name ∧
        command.parameters.entries = parameters) ↔
      ∃ written : WrittenCall, written.IsValid ∧ written.text = trim line.toList ∧
        String.ofList written.name = name ∧ written.list.meaning = parameters) ∧
    (∀ left right : WrittenCall, left.IsValid → right.IsValid →
      left.text = trim line.toList → right.text = trim line.toList → left = right) ∧
    ((¬ ∃ written : WrittenCall, written.IsValid ∧ written.text = trim line.toList) →
      ∃ fault, readNumbered registry number line = .error (.call number fault)) := by
  refine ⟨?_, ?_, ?_⟩
  · intro name parameters
    constructor
    · rintro ⟨command, held, rfl, rfl⟩
      exact exists_written_of_readNumbered notBlank notComment held
    · rintro ⟨written, valid, writes, rfl, rfl⟩
      exact readNumbered_of_written registry number notBlank notComment valid writes
  · intro left right leftValid rightValid leftWrites rightWrites
    exact WrittenCall.eq_of_text_eq leftValid rightValid (leftWrites.trans rightWrites.symm)
  · intro none
    cases read : readLine registry number line.toList with
    | error fault => exact ⟨fault, by rw [readNumbered, read]; rfl⟩
    | ok command =>
        have held : readNumbered registry number line = .ok command := by
          rw [readNumbered, read]
          rfl
        obtain ⟨written, valid, writes, -⟩ :=
          exists_written_of_readNumbered notBlank notComment held
        exact absurd ⟨written, valid, writes⟩ none

/-- A line with blanks around its tokens and a comma in quotes. -/
theorem readNumbered_eq_ok_iff_written_message :
    (trim " Wait (Text = \"a, b\" ,For=1)".toList ≠ [] ∧
      (trim " Wait (Text = \"a, b\" ,For=1)".toList).head? ≠ some '#') ∧
    ∃ command, readNumbered .empty 7 " Wait (Text = \"a, b\" ,For=1)" = .ok command ∧
      command.name = "Wait" ∧
      command.parameters.entries = [("Text", "a, b"), ("For", "1")] := by
  refine ⟨⟨by decide, by decide⟩, ?_⟩
  refine ((readNumbered_eq_ok_iff_written .empty 7 (by decide) (by decide)).1 "Wait"
    [("Text", "a, b"), ("For", "1")]).mpr
      ⟨⟨"Wait".toList, [' '], .filled ⟨"Text ".toList, .quoted [' '] "a, b".toList [' ']⟩
        [⟨"For".toList, .bare ['1']⟩]⟩, ⟨by decide, ?_, ?_, by decide⟩, by decide, rfl, rfl⟩
  · simp [AllBlank, isBlank, blankRanges, inRanges]
  · intro written member
    simp only [List.mem_cons, List.not_mem_nil, or_false] at member
    rcases member with rfl | rfl
    · refine ⟨by decide, by decide, by decide, by decide, ?_, by decide, ?_⟩ <;>
        simp [AllAsciiBlank, isAsciiBlank]
    · exact ⟨by decide, by decide, by decide, by decide, by decide, by decide, by decide,
        by decide⟩

end Workflow.CommandFile
