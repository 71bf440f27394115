import Workflow.Builtin.Control

/-!
# Whole sequences

A loop takes at most one value more of a sequence than a run may start passes.  What it takes is
the beginning of the whole sequence, which may be endless: the two agree on every pass that a run
can ask for.
-/

namespace Workflow.Builtin.Loop

/-- The values of a loop by their numbers.  There may be no last one. -/
abbrev Supply := Nat → Option Value

/-- The number that a sequence comes to with a step. -/
def sequenceAt (start increment : Float) (step : Nat) : Float :=
  start + increment * Float.ofNat step

/-- The whole of a sequence, which goes on as long as nothing in it lies behind its end. -/
def wholeSequence (start last increment : Float) : Supply := fun step =>
  let integral := Decimal.isIntegral start && Decimal.isIntegral increment
  if ∀ earlier ≤ step, isPast increment last (sequenceAt start increment earlier) = false then
    some (sequenceValue integral (sequenceAt start increment step))
  else none

/-- The values that a loop with validated parameters would take if nothing limited them. -/
def supply (parameters : ParameterSet) (workspace : Workspace) : Except Error Supply :=
  match ParameterSet.float? parameters "SequenceStart",
      ParameterSet.float? parameters "SequenceEnd" with
  | some start, some last =>
      let increment := (ParameterSet.float? parameters "SequenceIncrement").getD 1.0
      .ok (wholeSequence start last increment)
  | _, _ =>
      let listed := match ParameterSet.text? parameters "ListProperty" with
        | some name => propertyValues workspace name
        | none => columnValues workspace parameters
      listed.map fun values number => values[number]?

section

variable {start last increment : Float} {number : Nat}

theorem wholeSequence_of_open (within : ∀ earlier ≤ number,
      isPast increment last (sequenceAt start increment earlier) = false) :
    wholeSequence start last increment number =
      some (sequenceValue (Decimal.isIntegral start && Decimal.isIntegral increment)
        (sequenceAt start increment number)) :=
  if_pos within

theorem wholeSequence_of_past {step : Nat} (behind : step ≤ number)
    (past : isPast increment last (sequenceAt start increment step) = true) :
    wholeSequence start last increment number = none := by
  refine if_neg fun within => ?_
  rw [within step behind] at past
  cases past

/-- The values that are found from a step on are those of the whole sequence, as far as they are
looked for. -/
theorem getElem?_sequenceFrom (count step : Nat) (found : Array Value) (sized : found.size = step)
    (within : ∀ earlier < step, isPast increment last (sequenceAt start increment earlier) = false)
    (same : ∀ number < step, found[number]? = wholeSequence start last increment number)
    (reached : number < step + count) :
    (sequenceFrom start last increment (Decimal.isIntegral start && Decimal.isIntegral increment)
      count step found)[number]? = wholeSequence start last increment number := by
  induction count generalizing step found with
  | zero => exact same number reached
  | succ count ih =>
      simp only [sequenceFrom]
      split
      · next past =>
          by_cases before : number < step
          · exact same number before
          · have behind : step ≤ number := Nat.le_of_not_lt before
            rw [wholeSequence_of_past behind past]
            exact Array.getElem?_eq_none (sized ▸ behind)
      · next going =>
          have within : ∀ earlier ≤ step,
              isPast increment last (sequenceAt start increment earlier) = false := by
            intro earlier before
            rcases Nat.lt_or_eq_of_le before with before | rfl
            · exact within earlier before
            · exact Bool.eq_false_iff.mpr going
          refine ih (step + 1) _ (by rw [Array.size_push, sized])
            (fun earlier before => within earlier (Nat.le_of_lt_succ before)) ?_ (by omega)
          intro number before
          rw [Array.getElem?_push, sized]
          split
          · next last =>
              rw [last, wholeSequence_of_open within]
              rfl
          · exact same number (by omega)

end

theorem getElem?_sequence (start last increment : Float) {limit number : Nat}
    (asked : number ≤ limit) :
    (sequence start last increment limit)[number]? = wholeSequence start last increment number :=
  getElem?_sequenceFrom (limit + 1) 0 #[] rfl (fun _ before => absurd before (Nat.not_lt_zero _))
    (fun _ before => absurd before (Nat.not_lt_zero _)) (by omega)

/-- What a loop takes is what it would take if nothing limited it, as far as it is asked for. -/
theorem values_agrees (parameters : ParameterSet) (workspace : Workspace) (limit : Nat) :
    (∃ error, values parameters workspace limit = .error error ∧
      supply parameters workspace = .error error) ∨
    ∃ capped whole, values parameters workspace limit = .ok capped ∧
      supply parameters workspace = .ok whole ∧
      ∀ number ≤ limit, capped[number]? = whole number := by
  have listed (result : Except Error (Array Value)) :
      (∃ error, result = .error error ∧
        result.map (fun values number => values[number]?) = (.error error : Except Error Supply)) ∨
      ∃ capped whole, result = .ok capped ∧
        result.map (fun values number => values[number]?) = (.ok whole : Except Error Supply) ∧
        ∀ number ≤ limit, capped[number]? = whole number := by
    cases result with
    | error error => exact .inl ⟨error, rfl, rfl⟩
    | ok capped => exact .inr ⟨capped, _, rfl, rfl, fun _ _ => rfl⟩
  simp only [values, supply]
  cases ParameterSet.float? parameters "SequenceStart" with
  | none => exact listed _
  | some start =>
      cases ParameterSet.float? parameters "SequenceEnd" with
      | none => exact listed _
      | some last => exact .inr ⟨_, _, rfl, rfl, fun _ => getElem?_sequence start last _⟩

end Workflow.Builtin.Loop
