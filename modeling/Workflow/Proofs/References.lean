import Workflow.Expansion
import Workflow.Proofs.Text.Searching
import Workflow.Proofs.Validation

/-!
# References to properties

A reference in braces names what stands before its first closing brace.  A name without one is
therefore looked up as it is written, unless it holds a colon.  A name with a closing brace is never
looked up at all: whatever a text refers to, it does not depend on such a property.
-/

namespace Workflow

/-- The reference to a property. -/
def reference (name : String) : String := "$\x7b" ++ name ++ "\x7d"

theorem toList_reference (name : String) :
    (reference name).toList = '$' :: '{' :: (name.toList ++ ['}']) := by
  simp [reference]

namespace Expansion

variable {find other : String → Option String} {content text : List Char}

/-! ## Names that are looked up -/

/-- A braced reference is replaced as a whole, up to the first closing brace. -/
theorem expandList_braced (find : String → Option String) (noBrace : '}' ∉ content)
    (rest : List Char) :
    expandList find ('$' :: '{' :: (content ++ '}' :: rest)) =
      braced find content ++ expandList find rest := by
  have cut : Text.splitOnce (· == '}') (content ++ '}' :: rest) = some (content, rest) := by
    refine Text.splitOnce_eq_some_iff.mpr ⟨'}', rfl, ?_, rfl⟩
    intro c member
    exact beq_false_of_ne (ne_of_mem_of_not_mem member noBrace)
  rw [expandList]
  split
  · next found =>
      rw [cut] at found
      cases found
      rfl
  · next none =>
      rw [cut] at none
      cases none

theorem expandList_unclosed (none : Text.splitOnce (· == '}') text = none) :
    expandList find ('$' :: '{' :: text) = '$' :: '{' :: expandList find text := by
  rw [expandList]
  split
  · next found =>
      rw [none] at found
      cases found
  · rfl

theorem splitFallback_of_notMem (noColon : ':' ∉ content) :
    splitFallback content = (content, none) := by
  rw [splitFallback, Text.splitFirst_eq_none (c := ':') (by decide) noColon]

theorem expand_reference {name value : String} (noBrace : '}' ∉ name.toList)
    (noColon : ':' ∉ name.toList) (found : find name = some value) :
    expand find (reference name) = value := by
  rw [expand, toList_reference, expandList_braced find noBrace, expandList, List.append_nil, braced,
    splitFallback_of_notMem noColon]
  simp only [String.ofList_toList, found]

/-! ## Names that are never looked up -/

/-- The name in a braced reference is the start of its content. -/
theorem isPrefix_splitFallback (content : List Char) : (splitFallback content).1 <+: content := by
  rw [splitFallback]
  split
  · next c name fallback cut => exact ⟨_, (Text.eq_append_of_splitFirst cut).symm⟩
  · exact List.prefix_rfl

theorem braced_congr (same : ∀ name : String, '}' ∉ name.toList → find name = other name)
    (noBrace : '}' ∉ content) : braced find content = braced other content := by
  have named := same (String.ofList (splitFallback content).1) (by
    rw [String.toList_ofList]
    exact fun inside => noBrace ((isPrefix_splitFallback content).subset inside))
  simp only [braced, named]

theorem bare_congr (same : ∀ name : String, '}' ∉ name.toList → find name = other name)
    (noBrace : '}' ∉ content) : bare find content = bare other content := by
  rw [bare, bare, same _ (by rwa [String.toList_ofList])]

/-- Expansion depends on names without a closing brace only. -/
theorem expandList_congr (same : ∀ name : String, '}' ∉ name.toList → find name = other name)
    (text : List Char) : expandList find text = expandList other text := by
  induction text using expandList.induct with
  | case1 => rw [expandList, expandList]
  | case2 text ih => rw [expandList, expandList, ih]
  | case3 text content rest found _ ih =>
      obtain ⟨c, isBrace, none, rfl⟩ := Text.splitOnce_eq_some_iff.mp found
      obtain rfl := eq_of_beq isBrace
      have noBrace : '}' ∉ content := fun inside => absurd (none _ inside) (by decide)
      rw [expandList_braced find noBrace, expandList_braced other noBrace,
        braced_congr same noBrace, ih]
  | case4 text none ih => rw [expandList_unclosed none, expandList_unclosed none, ih]
  | case5 c text noDollar noBrace isName _ ih =>
      have nameless : '}' ∉ c :: text.takeWhile isNameCharacter := by
        intro inside
        rcases List.mem_cons.mp inside with rfl | later
        · exact absurd isName (by decide +kernel)
        · exact absurd (List.mem_takeWhile_imp later) (by decide +kernel)
      rw [expandList, expandList, if_pos isName, if_pos isName, bare_congr same nameless, ih] <;>
        assumption
  | case6 c text noDollar noBrace noName ih =>
      rw [expandList, expandList, if_neg noName, if_neg noName, ih] <;> assumption
  | case7 c text dollars braces others ih =>
      rw [expandList, expandList, ih] <;> assumption

end Expansion

end Workflow
