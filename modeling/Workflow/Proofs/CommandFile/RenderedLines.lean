import Workflow.Proofs.Call.RoundTrip
import Workflow.Proofs.CommandFile.LineGrammar

/-!
# Reading a rendered call as a line

A rendered call starts with a character of its name and has no blanks around it, so as a line it
is neither blank nor a comment.  The line holds the call that was rendered exactly when the call
can be written at all: its name is a command name, its keys can be keys, and no value holds a
quote.  Nothing else is asked of the values, which may hold separators, marks of comments and line
breaks.
-/

namespace Workflow

namespace Call

/-- A call that a line can hold. -/
structure IsWritable (call : Call) : Prop where
  named : isName call.name.toList = true
  keys : ∀ parameter ∈ call.parameters.entries, IsKey parameter.1
  quoteless : ∀ parameter ∈ call.parameters.entries, '"' ∉ parameter.2.toList

theorem WrittenCall.isWritable {written : WrittenCall} {call : Call} (valid : written.IsValid)
    (name : String.ofList written.name = call.name)
    (meaning : written.list.meaning = call.parameters.entries) : call.IsWritable := by
  obtain ⟨named, -, listed⟩ := valid
  rw [← String.toList_ofList (l := written.name), name] at named
  refine ⟨named, ?_, ?_⟩
  · intro parameter member
    rw [← meaning] at member
    exact isKey_of_mem_meaning listed member
  · intro parameter member
    rw [← meaning] at member
    exact quote_notMem_of_mem_meaning listed member

/-- The parenthesis behind the name is not blank. -/
theorem trim_render_ne_nil (call : Call) : Text.trim call.render.toList ≠ [] := by
  intro empty
  have opens : '(' ∈ call.render.toList := by
    simp [toList_render, renderedCall, WrittenCall.text]
  have blank := Text.trim_eq_nil_iff.mp empty '(' opens
  exact absurd blank (by decide)

/-- A call whose name is one does not look like a comment. -/
theorem head?_trim_render_ne (call : Call) (named : isName call.name.toList = true) :
    (Text.trim call.render.toList).head? ≠ some '#' := by
  obtain ⟨first, rest, whole, inName⟩ := exists_render_eq_cons call named
  rw [trim_render call named, whole, List.head?_cons]
  rintro ⟨⟩
  exact absurd inName (by decide)

end Call

namespace CommandFile

open Call

variable {registry : Registry} {number : Nat} {command : Command}

/-- A comment holds neither a name nor parameters. -/
theorem call_of_marked {line : String} (marked : (Text.trim line.toList).head? = some '#')
    (held : readNumbered registry number line = .ok command) :
    command.call = ⟨"", .empty⟩ := by
  obtain ⟨rest, starts⟩ := List.head?_eq_some_iff.mp marked
  have reads := readLine_eq_of_readNumbered held
  simp only [readLine] at reads
  rw [starts] at reads
  cases reads
  rfl

theorem head?_trim_render_of_held
    (held : readNumbered registry number command.call.render = .ok command) :
    (Text.trim command.call.render.toList).head? ≠ some '#' := by
  intro marked
  rw [call_of_marked marked held] at marked
  exact absurd marked (by decide)

/-- A rendered call, read as a line, is a command with the same name and the same parameters in
the same order, exactly when it can be written. -/
theorem readNumbered_render_iff (registry : Registry) (number : Nat) (call : Call) :
    (∃ command, readNumbered registry number call.render = .ok command ∧ command.call = call) ↔
      call.IsWritable := by
  constructor
  · rintro ⟨command, held, rfl⟩
    obtain ⟨written, valid, -, name, meaning⟩ := exists_written_of_readNumbered
      (trim_render_ne_nil _) (head?_trim_render_of_held held) held
    exact WrittenCall.isWritable valid name meaning
  · intro writable
    have reads : Call.read (Text.trim call.render.toList) = .ok call := by
      rw [trim_render call writable.named]
      exact (read_render_iff call writable.named writable.quoteless).mpr writable.keys
    rw [readNumbered, readLine_eq_of_call registry number (trim_render_ne_nil call)
      (head?_trim_render_ne call writable.named), reads]
    exact ⟨_, rfl, rfl⟩

example : (⟨"Message", .ofList [("Text", "a, b) = (# c\nd"), ("Empty", "")]⟩ : Call).IsWritable :=
  ⟨by decide, by decide, by decide⟩

end CommandFile

end Workflow
