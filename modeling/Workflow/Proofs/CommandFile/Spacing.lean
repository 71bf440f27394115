import Workflow.Builtin
import Workflow.Proofs.Call.Spacing
import Workflow.Proofs.CommandFile.LineGrammar
import Workflow.Proofs.CommandFile.SingleLines

/-!
# Blanks on a command line

A line that holds a command may be written with other blanks between its tokens.  It then holds the
same command exactly when the blanks next to quotes, and those in the place of parameters, are ASCII
blanks, and is refused otherwise.
-/

namespace Workflow

open Text Call

/-- A written call is on a line, with nothing but blanks around it. -/
def Call.WrittenCall.StandsOn (written : WrittenCall) (line : String) : Prop :=
  ∃ before after, AllBlank before ∧ AllBlank after ∧
    line.toList = before ++ (written.text ++ after)

namespace CommandFile

variable {registry : Registry} {number : Nat} {line changed : String} {command : Command}
  {written spaced : WrittenCall}

/-- What an active command is read from is neither blank nor a comment. -/
theorem notBlank_and_unmarked_of_active (held : readNumbered registry number line = .ok command)
    (active : command.isInert = false) :
    trim line.toList ≠ [] ∧ (trim line.toList).head? ≠ some '#' := by
  constructor
  · intro blank
    simp only [readNumbered, readLine, blank] at held
    cases held
    cases active
  · intro marked
    obtain ⟨rest, starts⟩ := List.head?_eq_some_iff.mp marked
    simp only [readNumbered, readLine, starts] at held
    cases held
    cases active

theorem trim_of_standsOn (stands : written.StandsOn line) (named : isName written.name = true) :
    trim line.toList = written.text := by
  obtain ⟨before, after, beforeBlank, afterBlank, whole⟩ := stands
  rw [whole, trim_append_left beforeBlank, trim_append_right _ afterBlank,
    WrittenCall.trim_text named]

theorem standsOn_of_text_eq (writes : written.text = trim line.toList) :
    written.StandsOn line := by
  obtain ⟨before, after, beforeBlank, afterBlank, whole⟩ := exists_blanks_around line.toList
  exact ⟨before, after, beforeBlank, afterBlank, by rw [writes]; exact whole⟩

theorem readNumbered_of_standsOn (registry : Registry) (number : Nat)
    (stands : written.StandsOn line) (named : isName written.name = true) :
    readNumbered registry number line =
      match Call.read written.text with
      | .error fault => .error (.call number fault)
      | .ok call =>
          .ok { name := call.name, line := number, text := line,
                parameters := call.parameters, kind := recognize registry call.name } := by
  have trims := trim_of_standsOn stands named
  obtain ⟨c, rest, name, inName⟩ := WrittenCall.exists_name_eq_cons named
  have first : (trim line.toList).head? = some c := by rw [trims, WrittenCall.text, name]; rfl
  have notBlank : trim line.toList ≠ [] := by
    intro blank
    rw [blank] at first
    cases first
  have unmarked : (trim line.toList).head? ≠ some '#' := by
    intro marked
    rw [first] at marked
    cases marked
    exact absurd inName (by decide)
  rw [readNumbered, readLine_eq_of_call registry number notBlank unmarked, trims]
  cases Call.read written.text with
  | error fault => rfl
  | ok call => rw [String.ofList_toList]; rfl

theorem isInert_of_recognize {name : String} (kind : command.kind = recognize registry name) :
    command.isInert = false := by
  rw [Command.isInert, kind, recognize]
  cases registry.get? name <;> rfl

/-- The command that a valid written call stands for. -/
theorem readNumbered_of_isValid (registry : Registry) (number : Nat)
    (stands : written.StandsOn line) (valid : written.IsValid) :
    ∃ command, readNumbered registry number line = .ok command ∧
      command.name = String.ofList written.name ∧
      command.kind = recognize registry (String.ofList written.name) ∧
      command.parameters.entries = written.list.meaning := by
  obtain ⟨parameters, reads, entries⟩ := read_text valid
  rw [readNumbered_of_standsOn registry number stands valid.1, reads]
  exact ⟨_, rfl, rfl, rfl, entries⟩

/-- A command that is read from a line is written there, and whatever other blanks are written
between its tokens, the line holds the same command if the blanks next to quotes and in the place
of parameters are ASCII blanks, and is refused with its number if they are not. -/
theorem readNumbered_respaced_iff (held : readNumbered registry number line = .ok command)
    (active : command.isInert = false) :
    (∃ written : WrittenCall, written.IsValid ∧ written.StandsOn line) ∧
    ∀ (written spaced : WrittenCall) (changed : String), written.IsValid →
      written.StandsOn line → written.Respaced spaced → spaced.StandsOn changed →
        ((∃ again, readNumbered registry number changed = .ok again ∧ command.Same again) ↔
          spaced.list.IsPlain) ∧
        (¬spaced.list.IsPlain →
          ∃ fault, readNumbered registry number changed = .error (.call number fault)) := by
  obtain ⟨notBlank, unmarked⟩ := notBlank_and_unmarked_of_active held active
  refine ⟨?_, ?_⟩
  · obtain ⟨written, valid, writes, -⟩ := exists_written_of_readNumbered notBlank unmarked held
    exact ⟨written, valid, standsOn_of_text_eq writes⟩
  · intro written spaced changed valid stands respaced again
    have loose := respaced.isLoose valid
    have refused : ¬spaced.list.IsPlain →
        ∃ fault, readNumbered registry number changed = .error (.call number fault) := by
      intro other
      obtain ⟨fault, refuses⟩ := exists_read_of_not_plain loose other
      refine ⟨fault, ?_⟩
      rw [readNumbered_of_standsOn registry number again loose.1, refuses]
    refine ⟨⟨?_, ?_⟩, refused⟩
    · rintro ⟨found, reads, -⟩
      by_contra other
      obtain ⟨fault, refuses⟩ := refused other
      rw [refuses] at reads
      cases reads
    · intro plain
      obtain ⟨found, reads, name, kind, entries⟩ :=
        readNumbered_of_isValid registry number again
          (WrittenCall.isValid_iff.mpr ⟨loose, plain⟩)
      obtain ⟨original, originally, ownName, ownKind, ownEntries⟩ :=
        readNumbered_of_isValid registry number stands valid
      rw [held, Except.ok.injEq] at originally
      subst originally
      refine ⟨found, reads, ?_, ?_, ?_⟩
      · rw [ownKind, kind, respaced.name]
      · rw [ownName, name, respaced.name]
      · apply OrderedMap.ext
        rw [ownEntries, entries, respaced.list.meaning_eq]

/-- A value without quotes may have blanks of any kind around it. -/
theorem readNumbered_respaced_iff_unquoted :
    ∃ command, readNumbered Builtin.registry 1 "Message(Message=x)" = .ok command ∧
      command.isInert = false ∧
      ∃ again, readNumbered Builtin.registry 1 "Message\u3000(\u2003Message = \u00a0x)\t" =
          .ok again ∧ command.Same again := by
  let written : WrittenCall :=
    ⟨"Message".toList, [], .filled ⟨"Message".toList, .bare ['x']⟩ []⟩
  let spaced : WrittenCall :=
    ⟨"Message".toList, ['\u3000'],
      .filled ⟨"\u2003Message ".toList, .bare " \u00a0x".toList⟩ []⟩
  have valid : written.IsValid := by
    refine ⟨by decide, List.forall_mem_nil _, ?_, by decide⟩
    rw [List.forall_mem_singleton]
    exact ⟨by decide, by decide, by decide, by decide, by decide, by decide, by decide, by decide⟩
  have stands : written.StandsOn "Message(Message=x)" :=
    ⟨[], [], List.forall_mem_nil _, List.forall_mem_nil _, by decide⟩
  have respaced : written.Respaced spaced := by
    refine ⟨rfl, ?_, .filled (.cons ⟨by decide, .bare (by decide)⟩ .nil)⟩
    exact (List.forall_mem_singleton).mpr (by decide)
  have again : spaced.StandsOn "Message\u3000(\u2003Message = \u00a0x)\t" :=
    ⟨[], ['\t'], List.forall_mem_nil _, (List.forall_mem_singleton).mpr (by decide), by decide⟩
  have plain : spaced.list.IsPlain := (List.forall_mem_singleton).mpr trivial
  obtain ⟨command, held, -, kind, -⟩ := readNumbered_of_isValid Builtin.registry 1 stands valid
  have active := isInert_of_recognize kind
  obtain ⟨accepted, -⟩ :=
    (readNumbered_respaced_iff held active).2 written spaced _ valid stands respaced again
  exact ⟨command, held, active, accepted.mpr plain⟩

/-- A nonbreaking space in front of a quote is not skipped. -/
theorem nonbreaking_space_refused :
    (∃ command, readNumbered Builtin.registry 1 "Message(Message=\"x\")" = .ok command ∧
      command.isInert = false) ∧
    isBlank '\u00a0' = true ∧
    readNumbered Builtin.registry 1 "Message(Message=\u00a0\"x\")" =
      .error (.call 1 (.strayQuote "Message")) := by
  let written (before : List Char) : WrittenCall :=
    ⟨"Message".toList, [], .filled ⟨"Message".toList, .quoted before ['x'] []⟩ []⟩
  have stands : (written []).StandsOn "Message(Message=\"x\")" :=
    ⟨[], [], List.forall_mem_nil _, List.forall_mem_nil _, by decide⟩
  have changed : (written ['\u00a0']).StandsOn "Message(Message=\u00a0\"x\")" :=
    ⟨[], [], List.forall_mem_nil _, List.forall_mem_nil _, by decide⟩
  have valid : (written []).IsValid := by
    refine ⟨by decide, List.forall_mem_nil _, ?_, by decide⟩
    rw [List.forall_mem_singleton]
    exact ⟨by decide, by decide, by decide, by decide, List.forall_mem_nil _, by decide,
      List.forall_mem_nil _⟩
  obtain ⟨command, held, -, kind, -⟩ := readNumbered_of_isValid Builtin.registry 1 stands valid
  refine ⟨⟨command, held, isInert_of_recognize kind⟩, by decide, ?_⟩
  have list : readParameterList ((written ['\u00a0']).list.text ++ [')']) =
      .error (.strayQuote "Message") := by
    change readParameters .empty "Message=\u00a0\"x\")".toList = _
    rw [readParameters_eq]
    rfl
  have refuses : Call.read (written ['\u00a0']).text = .error (.strayQuote "Message") :=
    read_text_of_error valid.1 valid.2.1 list
  rw [readNumbered_of_standsOn Builtin.registry 1 changed valid.1, refuses]

end CommandFile

end Workflow
