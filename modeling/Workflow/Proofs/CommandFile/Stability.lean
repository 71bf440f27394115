import Mathlib.Data.List.Forall2
import Workflow.Proofs.Sessions

/-!
# Writing an unedited command file

A command file that was read and not edited is written with its own lines.  What a line is read as
depends on its trimmed text only, so a carriage return that was taken from the end of a line makes
no difference, and the commands of the written text are those of the file.
-/

namespace Workflow

/-- Two commands stand on the same line and say the same, with the same warnings and the same
annotation. -/
structure Command.Restates (left right : Command) : Prop where
  line : left.line = right.line
  kind : left.kind = right.kind
  name : left.name = right.name
  parameters : left.parameters = right.parameters
  warnings : left.warnings = right.warnings
  annotation : left.annotation? = right.annotation?

/-- Commands that say the same restate each other if they stand on the same line with the same
trimmed text. -/
theorem Command.Same.restates {left right : Command} (same : left.Same right)
    (line : left.line = right.line)
    (trims : Text.trim left.text.toList = Text.trim right.text.toList) : left.Restates right := by
  constructor
  case line => exact line
  case kind => exact same.kind
  case name => exact same.name
  case parameters => exact same.parameters
  case warnings => rw [warnings, warnings, same.kind, same.name, same.parameters]
  case annotation => rw [annotation?, annotation?, same.kind, trims]

namespace CommandFile

open Text

variable {registry : Registry}

/-- Lines with the same trimmed texts are read as commands that restate each other. -/
theorem restates_readLines {left right : List (List Char)} (trims : left.map trim = right.map trim)
    (inComment : Bool) (number : Nat) :
    List.Forall₂ Command.Restates (readLines registry inComment number left)
      (readLines registry inComment number right) := by
  induction right generalizing left inComment number with
  | nil =>
      rw [List.map_nil, List.map_eq_nil_iff] at trims
      subst trims
      exact .nil
  | cons written rest ih =>
      obtain ⟨line, others, rfl, here, trimsRest⟩ := List.map_eq_cons_iff.mp trims
      have ih := fun inComment => ih trimsRest inComment (number + 1)
      have comment : (Command.inert number (String.ofList line) .comment).Restates
          (.inert number (String.ofList written) .comment) := by
        refine Command.Same.restates ⟨rfl, rfl, rfl⟩ rfl ?_
        simpa [Command.inert] using here
      have single : (readLenient registry number line).Restates
          (readLenient registry number written) := by
        refine (same_readLenient here).restates ?_ ?_
        · rw [line_readLenient, line_readLenient]
        · rw [(text_readLenient ..).1, (text_readLenient ..).1]
          simpa using here
      simp only [readLines, here]
      split
      · exact .cons comment (ih _)
      · split
        · exact .cons comment (ih _)
        · exact .cons single (ih _)

theorem map_render_readLines (inComment : Bool) (number : Nat) (lines : List (List Char)) :
    (readLines registry inComment number lines).map (fun command => command.render.toList) =
      lines := by
  induction lines generalizing inComment number with
  | nil => rfl
  | cons line rest ih =>
      have comment : (Command.inert number (String.ofList line) .comment).render.toList = line :=
        String.toList_ofList
      have single : (readLenient registry number line).render.toList = line := by
        obtain ⟨text, unmodified⟩ := text_readLenient registry number line
        rw [render_of_unmodified unmodified, text, String.toList_ofList]
      simp only [readLines]
      split
      · rw [List.map_cons, comment, ih]
      · split
        · rw [List.map_cons, comment, ih]
        · rw [List.map_cons, single, ih]

theorem toList_render_read (registry : Registry) (text : String) :
    (render (read registry text)).toList = unlines (lines text.toList) := by
  rw [toList_render, read, map_render_readLines]

/-- A file that was not edited is written as a text with the same commands on the same lines.
If it has no carriage returns, this text is its own, with a line feed at its end. -/
theorem restates_read_render (registry : Registry) (text : String) :
    List.Forall₂ Command.Restates (read registry (render (read registry text)))
        (read registry text) ∧
      ('\r' ∉ text.toList →
        render (read registry text) =
          if text = "" ∨ text.toList.getLast? = some '\n' then text else text ++ "\n") := by
  constructor
  · have single : ∀ line ∈ lines text.toList, '\n' ∉ line :=
      fun line member => newline_notMem_of_mem_lines member
    rw [read, toList_render_read, lines_unlines single]
    apply restates_readLines
    simp [Function.comp_def, trim_withoutReturn]
  · intro noReturn
    rw [← String.toList_inj, toList_render_read, unlines_lines noReturn]
    simp only [terminated, String.toList_eq_nil_iff]
    split
    · rfl
    · rw [String.toList_append]
      rfl

/-- A text with an annotation, a misspelt command, a block comment around a line that cannot be
read, and a parameter that is not recognized. -/
def roughDraft : String :=
  "#@expectedStatus Warning\nMesage(Message=a)\n/*\nMessage(\n*/\nMessage(Message=b,Colour=red)"

theorem restates_read_render_roughDraft :
    '\r' ∉ roughDraft.toList ∧
      List.Forall₂ Command.Restates
        (read Builtin.registry (render (read Builtin.registry roughDraft)))
        (read Builtin.registry roughDraft) ∧
      render (read Builtin.registry roughDraft) = roughDraft ++ "\n" := by
  have noReturn : '\r' ∉ roughDraft.toList := by decide
  obtain ⟨restates, written⟩ := restates_read_render Builtin.registry roughDraft
  refine ⟨noReturn, restates, ?_⟩
  rw [written noReturn, if_neg (by decide)]

end CommandFile

end Workflow
