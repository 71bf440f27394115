import Workflow.Console.Program
import Workflow.Proofs.Run.Selection
import Workflow.Proofs.Text.Searching
import Workflow.Proofs.Validation.Specification

/-!
# What a selection denotes

An item of a selection is a line number, or two of them with a dash between, and it denotes the
lines from the first to the last one.  A selection can be read exactly if all of its items denote
lines of the file, and what is read are the indices of the lines that some item covers, in order.
So the order of the items, their overlaps and their repetitions leave no trace, and the run of the
selected commands has each of them in its plan once.
-/

/-! ## Repetitions -/

namespace List

section

variable {α : Type} [BEq α]

end

end List

namespace Workflow

/-! ## Unsigned numbers -/

namespace Decimal

/-- A decimal number with at most a plus sign. -/
inductive IsUnsigned : List Char → Nat → Prop where
  | bare {digits : List Char} (run : IsRun digits) : IsUnsigned digits (digitsValue digits)
  | plus {digits : List Char} (run : IsRun digits) :
      IsUnsigned ('+' :: digits) (digitsValue digits)

/-- The unsigned numbers that can be read are those that fit their 64 bits. -/
theorem readUnsigned_eq_some_iff {text : List Char} {number : Nat} :
    readUnsigned text = some number ↔ IsUnsigned text number ∧ number < Nat.pow 2 64 := by
  have fits {digits : List Char} :
      ((readDigits digits).bind fun value =>
        if value < Nat.pow 2 64 then some value else none) = some number ↔
          (IsRun digits ∧ digitsValue digits = number) ∧ number < Nat.pow 2 64 := by
    rw [Option.bind_eq_some_iff, ← readDigits_eq_some_iff]
    constructor
    · rintro ⟨value, found, inside⟩
      split at inside
      · next here =>
          cases inside
          exact ⟨found, here⟩
      · cases inside
    · rintro ⟨found, inside⟩
      exact ⟨number, found, if_pos inside⟩
  unfold readUnsigned
  constructor
  · intro reads
    split at reads
    all_goals obtain ⟨⟨run, rfl⟩, inside⟩ := fits.mp reads
    · exact ⟨.plus run, inside⟩
    · exact ⟨.bare run, inside⟩
  · rintro ⟨isUnsigned, inside⟩
    cases isUnsigned with
    | plus run => exact fits.mpr ⟨⟨run, rfl⟩, inside⟩
    | bare run =>
        split
        · exact absurd run (not_isRun_cons (by decide) _)
        · exact fits.mpr ⟨⟨run, rfl⟩, inside⟩

theorem IsUnsigned.dash_notMem {text : List Char} {number : Nat}
    (isUnsigned : IsUnsigned text number) : '-' ∉ text := by
  have outside {digits : List Char} (run : IsRun digits) : '-' ∉ digits := by
    intro member
    have digit := run.2 '-' member
    cases digit
  cases isUnsigned with
  | bare run => exact outside run
  | plus run =>
      rw [List.mem_cons, not_or]
      exact ⟨by decide, outside run⟩

theorem IsUnsigned.ne_nil {text : List Char} {number : Nat}
    (isUnsigned : IsUnsigned text number) : text ≠ [] := by
  cases isUnsigned with
  | bare run => exact run.1
  | plus run => exact List.cons_ne_nil _ _

end Decimal

namespace Selection

open Text

variable {selection : String} {text before after : List Char} {texts : List (List Char)}
  {count number first last : Nat}

/-! ## Items -/

/-- A text spells a number of 64 bits, with blanks around it. -/
def Spells (text : List Char) (number : Nat) : Prop :=
  Decimal.IsUnsigned (trim text) number ∧ number < Nat.pow 2 64

/-- What an item denotes: one line, or the lines from one to another one. -/
inductive Denotes : List Char → (first last : Nat) → Prop where
  | line {text : List Char} {number : Nat} (only : Spells text number) :
      Denotes text number number
  | range {before after : List Char} {first last : Nat} (start : Spells before first)
      (stop : Spells after last) : Denotes (before ++ '-' :: after) first last

theorem Spells.dash_notMem (spells : Spells text number) : '-' ∉ text := by
  have none := List.count_eq_zero_of_not_mem spells.1.dash_notMem
  rw [count_trim (by decide)] at none
  exact List.count_eq_zero.mp none

theorem Spells.unique {other : Nat} (spells : Spells text number) (again : Spells text other) :
    number = other := by
  have same := (Decimal.readUnsigned_eq_some_iff.mpr spells).symm.trans
    (Decimal.readUnsigned_eq_some_iff.mpr again)
  exact Option.some.inj same

theorem Denotes.unique {otherFirst otherLast : Nat} (denotes : Denotes text first last)
    (again : Denotes text otherFirst otherLast) : first = otherFirst ∧ last = otherLast := by
  cases denotes with
  | line only =>
      cases again with
      | line same => exact ⟨only.unique same, only.unique same⟩
      | range start stop => exact absurd (by simp) only.dash_notMem
  | range start stop =>
      -- The two ways to cut the same text are only compared once both are known.
      generalize whole : _ ++ '-' :: _ = joined at again
      cases again with
      | line only =>
          rw [← whole] at only
          exact absurd (by simp) only.dash_notMem
      | range startToo stopToo =>
          obtain ⟨rfl, -, rfl⟩ :=
            (List.append_cons_inj_of_notMem start.dash_notMem stop.dash_notMem).mp whole
          exact ⟨start.unique startToo, stop.unique stopToo⟩

/-! ## Selections -/

/-- The items of a selection stand between its commas. -/
def items (selection : String) : List (List Char) := selection.toList.splitOn ','

/-- Every item of a selection denotes lines of a file with the given number of lines. -/
def IsValid (selection : String) (count : Nat) : Prop :=
  ∀ text ∈ items selection, ∃ first last, Denotes text first last ∧
    1 ≤ first ∧ first ≤ last ∧ last ≤ count

/-- An item of a selection covers a line. -/
def Covers (selection : String) (line : Nat) : Prop :=
  ∃ text ∈ items selection, ∃ first last, Denotes text first last ∧ first ≤ line ∧ line ≤ last

end Selection

end Workflow
