import Workflow.Proofs.Text.Trimming
import Workflow.Text.Lines

/-!
# Laws of lines

Texts that are written one to a line are read back line by line, apart from a carriage return at
the end of a line, which a trimmed line does not have anyway.  A text with a line feed of its own
is read back as more than one line.
-/

namespace Workflow.Text

/-- The line without a carriage return at its end. -/
def withoutReturn (line : List Char) : List Char :=
  if line.getLast? = some '\r' then line.dropLast else line

theorem withoutReturn_cons (c : Char) {line : List Char} (more : line ≠ []) :
    withoutReturn (c :: line) = c :: withoutReturn line := by
  obtain ⟨d, rest, rfl⟩ := List.exists_cons_of_ne_nil more
  rw [withoutReturn, withoutReturn, List.getLast?_cons_cons]
  split <;> rfl

theorem trim_withoutReturn (line : List Char) : trim (withoutReturn line) = trim line := by
  simp only [withoutReturn]
  split
  · next last =>
      obtain ⟨front, rfl⟩ := List.getLast?_eq_some_iff.mp last
      have blank : AllBlank ['\r'] := by
        intro c member
        rw [List.mem_singleton.mp member]
        decide
      rw [List.dropLast_concat, trim_append_right _ blank]
  · rfl

theorem lines_append_newline {line : List Char} (one : '\n' ∉ line) (rest : List Char) :
    lines (line ++ '\n' :: rest) = withoutReturn line :: lines rest := by
  induction line with
  | nil => rfl
  | cons c line ih =>
      simp only [List.mem_cons, not_or] at one
      have other : c ≠ '\n' := fun same => one.1 same.symm
      cases line with
      | nil =>
          by_cases isReturn : c = '\r'
          · subst isReturn
            rfl
          · rw [List.cons_append, lines, List.nil_append, lines]
            · simp [withoutReturn, isReturn]
            · exact other
            · intro tail here
              exact absurd here isReturn
      | cons d line =>
          have next : d ≠ '\n' := fun same => one.2 (same ▸ List.mem_cons_self)
          rw [List.cons_append, lines, ih one.2, withoutReturn_cons c (List.cons_ne_nil d line)]
          · exact other
          · intro tail here follows
            exact next (List.cons.inj follows).1

/-- Lines that are written one after the other are read back. -/
theorem lines_unlines {content : List (List Char)} (single : ∀ line ∈ content, '\n' ∉ line) :
    lines (unlines content) = content.map withoutReturn := by
  induction content with
  | nil => rfl
  | cons line rest ih =>
      have tail := ih fun other member => single other (List.mem_cons_of_mem _ member)
      have head := lines_append_newline (single line List.mem_cons_self) (unlines rest)
      rw [unlines, List.flatMap_cons, List.append_assoc, List.singleton_append, ← unlines, head,
        tail, List.map_cons]

/-- Every line feed before the end of a line adds one more line. -/
theorem length_lines_append_newline (front rest : List Char) :
    (lines (front ++ '\n' :: rest)).length =
      front.count '\n' + 1 + (lines rest).length := by
  induction size : front.length using Nat.strong_induction_on generalizing front with
  | _ length ih =>
      by_cases inside : '\n' ∈ front
      · obtain ⟨line, more, rfl, one⟩ := List.eq_append_cons_of_mem inside
        have shorter : more.length < length := by
          rw [← size, List.length_append, List.length_cons]
          omega
        rw [List.append_assoc, List.cons_append, lines_append_newline one, List.length_cons,
          ih _ shorter more rfl, List.count_append, List.count_cons_self,
          List.count_eq_zero_of_not_mem one]
        omega
      · rw [lines_append_newline inside, List.length_cons, List.count_eq_zero_of_not_mem inside]
        omega

theorem length_lines_unlines_iff (content : List (List Char)) :
    (lines (unlines content)).length = content.length ↔ ∀ line ∈ content, '\n' ∉ line := by
  have total : (lines (unlines content)).length =
      (content.map (List.count '\n')).sum + content.length := by
    induction content with
    | nil => rfl
    | cons line rest ih =>
        rw [unlines, List.flatMap_cons, List.append_assoc, List.singleton_append, ← unlines,
          length_lines_append_newline, ih, List.map_cons, List.sum_cons, List.length_cons]
        omega
  rw [total, Nat.add_eq_right, List.sum_eq_zero_iff_forall_eq_nat]
  simp [List.count_eq_zero]

theorem newline_notMem_of_mem_lines {text line : List Char} (member : line ∈ lines text) :
    '\n' ∉ line := by
  fun_induction lines text generalizing line with
  | case1 => cases member
  | case2 text ih | case3 text ih =>
      rcases List.mem_cons.mp member with rfl | later
      · exact List.not_mem_nil
      · exact ih later
  | case4 c text notNewline notReturn ends ih =>
      rw [List.mem_singleton.mp member, List.mem_singleton]
      exact fun same => notNewline same.symm
  | case5 c text notNewline notReturn first rest splits ih =>
      rw [splits] at ih
      rcases List.mem_cons.mp member with rfl | later
      · rw [List.mem_cons, not_or]
        exact ⟨fun same => notNewline same.symm, ih List.mem_cons_self⟩
      · exact ih (List.mem_cons_of_mem first later)

theorem lines_eq_nil_iff {text : List Char} : lines text = [] ↔ text = [] := by
  fun_cases lines text <;> simp_all

/-- The text with a line feed at its end, unless it is empty or has one there. -/
def terminated (text : List Char) : List Char :=
  if text = [] ∨ text.getLast? = some '\n' then text else text ++ ['\n']

theorem terminated_cons (c : Char) {text : List Char} (more : text ≠ []) :
    terminated (c :: text) = c :: terminated text := by
  obtain ⟨d, rest, rfl⟩ := List.exists_cons_of_ne_nil more
  simp only [terminated, List.getLast?_cons_cons]
  split <;> simp_all

/-- A text without carriage returns is its lines. -/
theorem unlines_lines {text : List Char} (noReturn : '\r' ∉ text) :
    unlines (lines text) = terminated text := by
  fun_induction lines text with
  | case1 => rfl
  | case2 text ih =>
      have ih := ih fun member => noReturn (List.mem_cons_of_mem _ member)
      rw [unlines, List.flatMap_cons, ← unlines, ih]
      by_cases more : text = []
      · subst more
        rfl
      · rw [terminated_cons _ more]
        rfl
  | case3 text ih => exact absurd List.mem_cons_self noReturn
  | case4 c text notNewline notReturn ends ih =>
      rw [lines_eq_nil_iff] at ends
      subst ends
      have other : c ≠ '\n' := notNewline
      simp [unlines, terminated, other]
  | case5 c text notNewline notReturn first rest splits ih =>
      have ih := ih fun member => noReturn (List.mem_cons_of_mem _ member)
      have more : text ≠ [] := by
        rintro rfl
        cases splits
      rw [splits] at ih
      rw [terminated_cons c more, ← ih]
      rfl

end Workflow.Text
