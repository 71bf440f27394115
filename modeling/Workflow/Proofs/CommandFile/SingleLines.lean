import Workflow.Proofs.Call.RoundTrip
import Workflow.Proofs.CommandFile.Recognition

/-!
# What a single line is read as

Outside of comments a line is blank, has the mark of a comment, is a call or is no call.  What it
is read as depends on its trimmed text only, up to its number and the text that is kept.
-/

namespace Workflow

/-- Two commands say the same: they are recognized as the same and have the same name and the
same parameters in the same order. -/
structure Command.Same (left right : Command) : Prop where
  kind : left.kind = right.kind
  name : left.name = right.name
  parameters : left.parameters = right.parameters

theorem Command.Same.symm {left right : Command} (same : left.Same right) : right.Same left :=
  ⟨same.kind.symm, same.name.symm, same.parameters.symm⟩

theorem Command.Same.trans {left middle right : Command} (first : left.Same middle)
    (second : middle.Same right) : left.Same right :=
  ⟨first.kind.trans second.kind, first.name.trans second.name,
    first.parameters.trans second.parameters⟩

namespace CommandFile

open Text

variable {registry : Registry} {number other : Nat} {line written : List Char}

theorem readLenient_of_blank (registry : Registry) (number : Nat) (blank : trim line = []) :
    readLenient registry number line = .inert number (String.ofList line) .blank := by
  simp only [readLenient, readLine]
  rw [blank]

theorem readLenient_of_mark (registry : Registry) (number : Nat)
    (marked : (trim line).head? = some '#') :
    readLenient registry number line = .inert number (String.ofList line) .comment := by
  obtain ⟨rest, starts⟩ := List.head?_eq_some_iff.mp marked
  simp only [readLenient, readLine]
  rw [starts]
  rfl

theorem readLenient_of_fault (registry : Registry) (number : Nat) {fault : CallFault}
    (notBlank : trim line ≠ []) (unmarked : (trim line).head? ≠ some '#')
    (read : Call.read (trim line) = .error fault) :
    readLenient registry number line = malformed number line fault := by
  rw [readLenient, readLine_eq_of_call registry number notBlank unmarked, read]

theorem readLenient_of_call (registry : Registry) (number : Nat) {call : Call}
    (notBlank : trim line ≠ []) (unmarked : (trim line).head? ≠ some '#')
    (read : Call.read (trim line) = .ok call) :
    readLenient registry number line =
      { name := call.name, line := number, text := String.ofList line,
        parameters := call.parameters, kind := recognize registry call.name } := by
  rw [readLenient, readLine_eq_of_call registry number notBlank unmarked, read]

/-- What can stand on a line outside of comments. -/
theorem blank_or_mark_or_fault_or_call (trimmed : List Char) :
    trimmed = [] ∨ trimmed.head? = some '#' ∨
      (trimmed ≠ [] ∧ trimmed.head? ≠ some '#' ∧ ∃ fault, Call.read trimmed = .error fault) ∨
      (trimmed ≠ [] ∧ trimmed.head? ≠ some '#' ∧ ∃ call, Call.read trimmed = .ok call) := by
  by_cases blank : trimmed = []
  · exact .inl blank
  · by_cases marked : trimmed.head? = some '#'
    · exact .inr (.inl marked)
    · cases read : Call.read trimmed with
      | error fault => exact .inr (.inr (.inl ⟨blank, marked, fault, rfl⟩))
      | ok call => exact .inr (.inr (.inr ⟨blank, marked, call, rfl⟩))

theorem same_readLenient (trims : trim line = trim written) :
    (readLenient registry number line).Same (readLenient registry other written) := by
  obtain blank | marked | ⟨notBlank, unmarked, fault, read⟩ | ⟨notBlank, unmarked, call, read⟩ :=
    blank_or_mark_or_fault_or_call (trim written)
  · rw [readLenient_of_blank registry other blank,
      readLenient_of_blank registry number (by rwa [trims])]
    exact ⟨rfl, rfl, rfl⟩
  · rw [readLenient_of_mark registry other marked,
      readLenient_of_mark registry number (by rwa [trims])]
    exact ⟨rfl, rfl, rfl⟩
  · rw [readLenient_of_fault registry other notBlank unmarked read,
      readLenient_of_fault registry number (by rwa [trims]) (by rwa [trims]) (by rwa [trims])]
    refine ⟨rfl, ?_, rfl⟩
    simp only [malformed]
    rw [trims]
  · rw [readLenient_of_call registry other notBlank unmarked read,
      readLenient_of_call registry number (by rwa [trims]) (by rwa [trims]) (by rwa [trims])]
    exact ⟨rfl, rfl, rfl⟩

theorem recognize_ne_comment (name : String) : recognize registry name ≠ .comment := by
  simp only [recognize]
  split <;> simp

theorem recognize_ne_malformed (name : String) (fault : CallFault) :
    recognize registry name ≠ .malformed fault := by
  simp only [recognize]
  split <;> simp

theorem kind_readLenient_iff :
    (readLenient registry number line).kind = .comment ↔ (trim line).head? = some '#' := by
  constructor
  · intro comment
    obtain blank | marked | ⟨notBlank, unmarked, fault, read⟩ | ⟨notBlank, unmarked, call, read⟩ :=
      blank_or_mark_or_fault_or_call (trim line)
    · rw [readLenient_of_blank registry number blank] at comment
      cases comment
    · exact marked
    · rw [readLenient_of_fault registry number notBlank unmarked read] at comment
      cases comment
    · rw [readLenient_of_call registry number notBlank unmarked read] at comment
      exact absurd comment (recognize_ne_comment call.name)
  · intro marked
    rw [readLenient_of_mark registry number marked]
    rfl

theorem text_readLenient (registry : Registry) (number : Nat) (line : List Char) :
    (readLenient registry number line).text = String.ofList line ∧
      (readLenient registry number line).modified = false := by
  obtain blank | marked | ⟨notBlank, unmarked, fault, read⟩ | ⟨notBlank, unmarked, call, read⟩ :=
    blank_or_mark_or_fault_or_call (trim line)
  · rw [readLenient_of_blank registry number blank]
    exact ⟨rfl, rfl⟩
  · rw [readLenient_of_mark registry number marked]
    exact ⟨rfl, rfl⟩
  · rw [readLenient_of_fault registry number notBlank unmarked read]
    exact ⟨rfl, rfl⟩
  · rw [readLenient_of_call registry number notBlank unmarked read]
    exact ⟨rfl, rfl⟩

/-- A line with a parameter list has a name, and its values hold no quotes. -/
theorem call_of_isEditable (editable : (readLenient registry number line).isEditable = true) :
    Call.isName (readLenient registry number line).name.toList = true ∧
      (readLenient registry number line).kind =
        recognize registry (readLenient registry number line).name ∧
      ∀ parameter ∈ (readLenient registry number line).parameters.entries,
        '"' ∉ parameter.2.toList := by
  obtain blank | marked | ⟨notBlank, unmarked, fault, read⟩ | ⟨notBlank, unmarked, call, read⟩ :=
    blank_or_mark_or_fault_or_call (trim line)
  · rw [readLenient_of_blank registry number blank] at editable
    cases editable
  · rw [readLenient_of_mark registry number marked] at editable
    cases editable
  · rw [readLenient_of_fault registry number notBlank unmarked read] at editable
    cases editable
  · rw [readLenient_of_call registry number notBlank unmarked read]
    obtain ⟨named, quoteless⟩ := Call.isName_and_quoteless_of_read (trim_trim line) read
    exact ⟨named, rfl, quoteless⟩

theorem same_inert_of_kind {text : String}
    (comment : (readLenient registry number line).kind = .comment) :
    (Command.inert other text .comment).Same (readLenient registry number line) := by
  rw [readLenient_of_mark registry number (kind_readLenient_iff.mp comment)]
  exact ⟨rfl, rfl, rfl⟩

end CommandFile

end Workflow
