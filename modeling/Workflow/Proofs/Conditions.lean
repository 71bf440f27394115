import Workflow.Condition
import Workflow.Proofs.Text.Searching
import Workflow.Proofs.Validation.Specification

/-!
# The meaning of a written condition

A condition is written with one blank on either side of its sign.  If no sign occurs in the left
operand, the condition is cut at the sign that was written, whatever the right operand holds, and
the operands are related by that comparison.  The comparisons of two operands agree with one
another, because all of them are read off one order of texts or of numbers.
-/

namespace Workflow

namespace Condition

variable {asText : Bool} {left right rest : List Char} {comparison : Comparison}

/-! ## The order of texts -/

theorem compareTexts_eq_eq_iff : compareTexts left right = .eq ↔ left = right := by
  induction left generalizing right with
  | nil => cases right <;> simp [compareTexts]
  | cons l left ih =>
      cases right with
      | nil => simp [compareTexts]
      | cons r right =>
          rw [compareTexts, List.cons.injEq, ← ih, ← Char.toNat_inj]
          split
          · next lower => simp [lower.ne]
          · split
            · next higher => simp [higher.ne']
            · next notLower notHigher =>
                have same : l.toNat = r.toNat := by omega
                simp [same]

/-- One text is below another in the lexicographic order of their code points. -/
theorem compareTexts_eq_lt_iff : compareTexts left right = .lt ↔ left < right := by
  induction left generalizing right with
  | nil => cases right <;> simp [compareTexts]
  | cons l left ih =>
      cases right with
      | nil => simp [compareTexts]
      | cons r right =>
          have lower : l < r ↔ l.toNat < r.toNat := Iff.rfl
          rw [compareTexts, List.cons_lt_cons_iff, ← ih, lower, ← Char.toNat_inj]
          split
          · next lower => simp [lower]
          · split
            · next notLower higher => simp [notLower, higher.ne']
            · next notLower notHigher =>
                have same : l.toNat = r.toNat := by omega
                simp [same]

/-! ## Cutting at the sign -/

/-- The sign that starts a text is recognized if a blank follows it. -/
theorem leading?_sign (comparison : Comparison) (rest : List Char) :
    leading? (comparison.sign ++ ' ' :: rest) = some (comparison, ' ' :: rest) := by
  cases comparison <;> rfl

theorem leading?_eq_none (noSign : ∀ comparison : Comparison, ¬comparison.sign <+: left) :
    leading? left = none := by
  rw [leading?, List.findSome?_eq_none_iff]
  intro comparison _
  rw [Option.map_eq_none_iff, ← Option.not_isSome_iff_eq_none, Text.isSome_stripStart_iff]
  exact noSign comparison

theorem blank_notMem_sign (comparison : Comparison) : ' ' ∉ comparison.sign := by
  cases comparison <;> decide

/-- A text is cut at the first sign that stands behind a blank if none occurs before the blank. -/
theorem split?_append (noSign : ∀ other : Comparison, ¬other.sign <:+: left) :
    split? (left ++ ' ' :: (comparison.sign ++ ' ' :: rest)) =
      some ⟨comparison, left ++ [' '], ' ' :: rest⟩ := by
  induction left with
  | nil =>
      have blank : leading? (' ' :: (comparison.sign ++ ' ' :: rest)) = none := rfl
      have starts := leading?_sign comparison rest
      rw [List.nil_append, split?, blank]
      cases written : comparison.sign ++ ' ' :: rest with
      | nil => simp at written
      | cons c text =>
          rw [written] at starts
          simp only [split?, starts, Option.map_some, List.nil_append]
  | cons c left ih =>
      have none : leading? (c :: left ++ ' ' :: (comparison.sign ++ ' ' :: rest)) = none := by
        apply leading?_eq_none
        intro other starts
        have inside := Text.prefix_of_prefix_append_cons starts (blank_notMem_sign other)
        exact noSign other inside.isInfix
      rw [List.cons_append] at none
      rw [List.cons_append, split?, none, ih fun other inside => noSign other (inside.trans
        (List.suffix_cons c left).isInfix)]
      rfl

/-! ## Written conditions -/

/-- A condition with one blank on either side of its sign. -/
def written (left : List Char) (comparison : Comparison) (right : List Char) : String :=
  String.ofList (left ++ ' ' :: (comparison.sign ++ ' ' :: right))

/-- A text that may stand on the left of a sign: there are no blanks around it, and no sign occurs
in it. -/
structure IsLeftOperand (text : List Char) : Prop where
  nonempty : text ≠ []
  trimmed : Text.trim text = text
  noSign : ∀ comparison : Comparison, ¬comparison.sign <:+: text

/-- The truth value of a written condition, if it can be evaluated. -/
def truth? (asText : Bool) (left right : List Char) (comparison : Comparison) : Option Bool :=
  (evaluate (written left comparison right) asText).toOption

/-- What is left of a written condition without the blanks around it. -/
theorem exists_trim_written (operand : IsLeftOperand left) (comparison : Comparison)
    (visible : Text.trim right ≠ []) :
    ∃ before, Text.AllBlank before ∧ Text.trim (written left comparison right).toList =
      left ++ ' ' :: (comparison.sign ++ ' ' :: (before ++ Text.trim right)) := by
  obtain ⟨before, after, blankBefore, blankAfter, whole⟩ := Text.exists_blanks_around right
  refine ⟨before, blankBefore, ?_⟩
  have parts : (written left comparison right).toList =
      (left ++ ' ' :: (comparison.sign ++ ' ' :: (before ++ Text.trim right))) ++ after := by
    conv_lhs => rw [written, String.toList_ofList, whole]
    simp
  rw [parts, Text.trim_append_right _ blankAfter]
  apply Text.trim_eq_self
  · intro c first
    apply @Text.isBlank_of_head?_trim left c
    rwa [operand.trimmed, ← List.head?_append_of_ne_nil _ operand.nonempty]
  · intro c last
    apply @Text.isBlank_of_getLast?_trim right c
    have ends : left ++ ' ' :: (comparison.sign ++ ' ' :: (before ++ Text.trim right)) =
        (left ++ ' ' :: (comparison.sign ++ ' ' :: before)) ++ Text.trim right := by simp
    rwa [ends, List.getLast?_append_of_ne_nil _ visible] at last

theorem readBoolean_eq_none {text : String} (blank : ' ' ∈ Text.trim text.toList) :
    readBoolean text = none := by
  rw [Option.eq_none_iff_forall_ne_some]
  intro truth reads
  rw [readBoolean_eq_some_iff, Text.sameIgnoringCase, Text.toList_trimmed, beq_iff_eq] at reads
  have member := List.mem_map_of_mem (f := Text.lowerAscii) blank
  rw [reads] at member
  cases truth with
  | false => exact absurd member (by decide)
  | true => exact absurd member (by decide)

/-- The truth value of a written condition is that of its comparison between its operands. -/
theorem truth?_eq (operand : IsLeftOperand left) (visible : Text.trim right ≠ []) :
    truth? asText left right comparison =
      match comparison with
      | .contains => some (Text.occurs (Text.trim right) left)
      | .lacks => some (!Text.occurs (Text.trim right) left)
      | other => other.holds (compareOperands asText left (Text.trim right)) := by
  obtain ⟨before, blank, expression⟩ := exists_trim_written operand comparison visible
  have noTruth : readBoolean (String.ofList (Text.trim (written left comparison right).toList)) =
      none := by
    apply readBoolean_eq_none
    rw [String.toList_ofList, Text.trim_trim, expression]
    simp
  have space : Text.AllBlank [' '] := List.forall_mem_singleton.mpr (by decide)
  have inFront : Text.trim (left ++ [' ']) = left := by
    rw [Text.trim_append_right left space, operand.trimmed]
  have behind : Text.trim (' ' :: (before ++ Text.trim right)) = Text.trim right := by
    rw [← List.singleton_append, Text.trim_append_left space, Text.trim_append_left blank,
      Text.trim_trim]
  rw [truth?, evaluate]
  dsimp only
  rw [noTruth, expression, split?_append operand.noSign]
  dsimp only
  rw [inFront, behind, if_neg (not_or.mpr ⟨operand.nonempty, visible⟩)]
  cases comparison with
  | contains | lacks => rfl
  | atMost | atLeast | equal | unequal | below | above =>
      dsimp only
      split
      · next holds => rw [holds]; rfl
      · next holds => rw [holds]; rfl

/-! ## How the comparisons agree -/

/-- The comparisons of two operands agree with one another, also about whether there is an
answer. -/
structure Agrees (truth? : Comparison → Option Bool) : Prop where
  unequal : truth? .unequal = (truth? .equal).map (!·)
  atMost : truth? .atMost =
    (truth? .below).bind fun below => (truth? .equal).map fun equal => below || equal
  atLeast : truth? .atLeast =
    (truth? .above).bind fun above => (truth? .equal).map fun equal => above || equal

/-- Exactly one of three comparisons holds. -/
inductive IsOrdered (truth? : Comparison → Option Bool) : Prop where
  | below (holds : truth? .below = some true) (notEqual : truth? .equal = some false)
      (notAbove : truth? .above = some false)
  | equal (notBelow : truth? .below = some false) (holds : truth? .equal = some true)
      (notAbove : truth? .above = some false)
  | above (notBelow : truth? .below = some false) (notEqual : truth? .equal = some false)
      (holds : truth? .above = some true)

/-- The operands are different, and the comparisons that need an order have no answer. -/
structure IsUnordered (truth? : Comparison → Option Bool) : Prop where
  notEqual : truth? .equal = some false
  below : truth? .below = none
  atMost : truth? .atMost = none
  above : truth? .above = none
  atLeast : truth? .atLeast = none

/-- All comparisons by order are read off one order. -/
def ReadsOff (order : Option Ordering) (truth? : Comparison → Option Bool) : Prop :=
  ∀ comparison, comparison ≠ .contains → comparison ≠ .lacks →
    truth? comparison = comparison.holds order

namespace ReadsOff

variable {truth? : Comparison → Option Bool} {order : Option Ordering}

theorem agrees (reads : ReadsOff order truth?) : Agrees truth? where
  unequal := by
    rw [reads .unequal nofun nofun, reads .equal nofun nofun]
    rfl
  atMost := by
    rw [reads .atMost nofun nofun, reads .below nofun nofun, reads .equal nofun nofun]
    rcases order with _ | _ | _ | _ <;> rfl
  atLeast := by
    rw [reads .atLeast nofun nofun, reads .above nofun nofun, reads .equal nofun nofun]
    rcases order with _ | _ | _ | _ <;> rfl

theorem isOrdered {order : Ordering} (reads : ReadsOff (some order) truth?) :
    IsOrdered truth? := by
  have below := reads .below nofun nofun
  have equal := reads .equal nofun nofun
  have above := reads .above nofun nofun
  cases order with
  | lt => exact .below below equal above
  | eq => exact .equal below equal above
  | gt => exact .above below equal above

theorem isUnordered (reads : ReadsOff none truth?) : IsUnordered truth? where
  notEqual := reads .equal nofun nofun
  below := reads .below nofun nofun
  atMost := reads .atMost nofun nofun
  above := reads .above nofun nofun
  atLeast := reads .atLeast nofun nofun

end ReadsOff

theorem readsOff_truth? (operand : IsLeftOperand left) (visible : Text.trim right ≠ []) :
    ReadsOff (compareOperands asText left (Text.trim right)) (truth? asText left right) := by
  intro comparison notContains notLacks
  rw [truth?_eq operand visible]
  cases comparison with
  | contains => exact absurd rfl notContains
  | lacks => exact absurd rfl notLacks
  | atMost | atLeast | equal | unequal | below | above => rfl

/-- Operands are compared as texts if that is asked for or one of them is no number. -/
theorem compareOperands_of_text (texts : asText = true ∨ Decimal.readFloat left = none ∨
    Decimal.readFloat right = none) :
    compareOperands asText left right = some (compareTexts left right) := by
  simp only [compareOperands]
  split
  · next l r numberLeft numberRight => simp [numberLeft, numberRight] at texts
  · rfl

/-- A condition means what is written, whatever stands on the right of its sign.  The right operand
occurs in the left one or not.  The operands are compared as texts by equality and by the
lexicographic order of code points, unless both are numbers and may be compared as such; numbers
that have no order are different, and every comparison that needs an order has no answer.  In all
modes the comparisons agree with one another. -/
theorem written_means (asText : Bool) (operand : IsLeftOperand left)
    (visible : Text.trim right ≠ []) :
    (truth? asText left right .contains = some (decide (Text.trim right <:+: left)) ∧
      truth? asText left right .lacks = some (decide (¬Text.trim right <:+: left))) ∧
    Agrees (truth? asText left right) ∧
    (asText = true ∨ Decimal.readFloat left = none ∨ Decimal.readFloat (Text.trim right) = none →
      IsOrdered (truth? asText left right) ∧
        truth? asText left right .equal = some (decide (left = Text.trim right)) ∧
        truth? asText left right .below = some (decide (left < Text.trim right))) ∧
    ∀ l r : Float, asText = false → Decimal.readFloat left = some l →
      Decimal.readFloat (Text.trim right) = some r →
        (compareNumbers l r = none → IsUnordered (truth? asText left right)) ∧
        ∀ order, compareNumbers l r = some order →
          IsOrdered (truth? asText left right) ∧
            truth? asText left right .equal = some (order == .eq) ∧
            truth? asText left right .below = some (order == .lt) := by
  have reads : ReadsOff _ (truth? asText left right) := readsOff_truth? operand visible
  have found : Text.occurs (Text.trim right) left = decide (Text.trim right <:+: left) := by
    rw [Bool.eq_iff_iff, Text.occurs_iff_infix, decide_eq_true_iff]
  refine ⟨⟨?_, ?_⟩, reads.agrees, ?_, ?_⟩
  · rw [truth?_eq operand visible, ← found]
  · rw [truth?_eq operand visible, decide_not, ← found]
  · intro texts
    rw [compareOperands_of_text texts] at reads
    refine ⟨reads.isOrdered, ?_, ?_⟩
    · rw [reads .equal nofun nofun, Comparison.holds, Option.some_inj, Bool.eq_iff_iff, beq_iff_eq,
        Option.some_inj, compareTexts_eq_eq_iff, decide_eq_true_iff]
    · rw [reads .below nofun nofun, Comparison.holds, Option.map_some, Option.some_inj,
        Bool.eq_iff_iff, beq_iff_eq, compareTexts_eq_lt_iff, decide_eq_true_iff]
  · rintro l r rfl numberLeft numberRight
    simp only [compareOperands, numberLeft, numberRight] at reads
    refine ⟨fun none => ?_, fun order some => ?_⟩
    · rw [none] at reads
      exact reads.isUnordered
    · rw [some] at reads
      exact ⟨reads.isOrdered, reads .equal nofun nofun, reads .below nofun nofun⟩

theorem written_means_nested :
    IsLeftOperand "a = b!".toList ∧
      written "a = b!".toList .unequal " a = b! <= c ".toList = "a = b! !=  a = b! <= c " ∧
      truth? false "a = b!".toList " a = b! <= c ".toList .unequal = some true ∧
      truth? false "a = b!".toList " a = b! <= c ".toList .below = some true ∧
      truth? false "a = b!".toList " a = b! <= c ".toList .contains = some false ∧
      truth? false "10".toList "9".toList .atMost = some false ∧
      truth? true "10".toList "9".toList .atMost = some true := by
  have operand : IsLeftOperand "a = b!".toList := by
    refine ⟨by decide, by decide +kernel, fun comparison => ?_⟩
    cases comparison <;> decide
  have visible : Text.trim " a = b! <= c ".toList ≠ [] := by decide +kernel
  obtain ⟨⟨contains, -⟩, agrees, texts, -⟩ := written_means false operand visible
  obtain ⟨-, equal, below⟩ := texts (.inr (.inl (by decide +kernel)))
  have ten : IsLeftOperand "10".toList := by
    refine ⟨by decide, by decide +kernel, fun comparison => ?_⟩
    cases comparison <;> decide
  have nine : Text.trim "9".toList ≠ [] := by decide +kernel
  have higher : compareNumbers 10 9 = some .gt := by decide +kernel
  obtain ⟨-, inNumbers, -, numbers⟩ := written_means false ten nine
  obtain ⟨-, notSame, notLower⟩ :=
    (numbers 10 9 rfl (by decide +kernel) (by decide +kernel)).2 .gt higher
  obtain ⟨-, inTexts, same, -⟩ := written_means true ten nine
  obtain ⟨-, other, lower⟩ := same (.inl rfl)
  refine ⟨operand, by decide +kernel, ?_, ?_, ?_, ?_, ?_⟩
  · rw [agrees.unequal, equal]
    decide +kernel
  · rw [below]
    decide +kernel
  · rw [contains]
    decide +kernel
  · rw [inNumbers.atMost, notSame, notLower]
    rfl
  · rw [inTexts.atMost, other, lower]
    decide +kernel

end Condition

end Workflow
