import Workflow.Json.Printer
import Workflow.Json.Reader
import Workflow.Proofs.Decimal.Numerals

/-!
# Reading written tokens

A written integer is read back as the number it denotes, and a quoted text as the text that was
quoted.  The reader stops right behind the token, provided that what follows a number does not go
on with it.
-/

namespace Workflow.Json

/-- A text that does not go on with the number in front of it. -/
def IsBehindNumber (rest : List Char) : Prop :=
  ∀ c ∈ rest.head?, Decimal.isDigit c = false ∧ c ≠ '.' ∧ c ≠ 'e' ∧ c ≠ 'E'

theorem isBehindNumber_cons {c : Char} (rest : List Char)
    (ends : Decimal.isDigit c = false ∧ c ≠ '.' ∧ c ≠ 'e' ∧ c ≠ 'E') :
    IsBehindNumber (c :: rest) := by
  intro first here
  cases here
  exact ends

section Numbers

variable {rest : List Char}

theorem significand_behind (behind : IsBehindNumber rest) (value taken : Nat) :
    significand value taken rest = (value, taken, rest) := by
  cases rest with
  | nil => rfl
  | cons c rest =>
      have ends := (behind c rfl).1
      simp only [significand, ends, Bool.false_eq_true, if_false]

/-- All digits are taken if their value fits 64 bits. -/
theorem significand_append {digits : List Char}
    (every : ∀ c ∈ digits, Decimal.isDigit c = true) (behind : IsBehindNumber rest)
    (value taken : Nat)
    (fits : digits.foldl (fun value c => value * 10 + Decimal.digitValue c) value ≤ maxUnsigned) :
    significand value taken (digits ++ rest) =
      (digits.foldl (fun value c => value * 10 + Decimal.digitValue c) value,
        taken + digits.length, rest) := by
  induction digits generalizing value taken with
  | nil => exact significand_behind behind value taken
  | cons c digits ih =>
      have digit := every c List.mem_cons_self
      have others := fun d member => every d (List.mem_cons_of_mem c member)
      have here := Nat.le_trans (Decimal.le_foldl_digits digits _) fits
      rw [List.cons_append, significand, if_pos digit]
      simp only [here, if_true]
      rw [ih others _ _ fits, List.length_cons, Nat.add_right_comm]
      rfl

theorem takeWhile_behind (behind : IsBehindNumber rest) :
    rest.takeWhile Decimal.isDigit = [] := by
  cases rest with
  | nil => rfl
  | cons c rest => rw [List.takeWhile_cons, (behind c rfl).1]; rfl

theorem afterWhole_behind (behind : IsBehindNumber rest) (negative : Bool) (digits : Nat) :
    afterWhole negative digits rest = .ok (wholeNumber negative digits, rest) := by
  cases rest with
  | nil => rfl
  | cons c rest =>
      obtain ⟨-, noPoint, noMark, noCapital⟩ := behind c rfl
      unfold afterWhole
      split
      · next same => exact absurd (List.cons.inj same).1 noPoint
      · next same => exact absurd (List.cons.inj same).1 noMark
      · next same => exact absurd (List.cons.inj same).1 noCapital
      · rfl

theorem number_zero (behind : IsBehindNumber rest) (negative : Bool) :
    number negative ('0' :: rest) = .ok (wholeNumber negative 0, rest) := by
  rw [← afterWhole_behind behind]
  cases rest with
  | nil => rfl
  | cons c rest =>
      have ends := (behind c rfl).1
      simp only [number, ends, Bool.false_eq_true, if_false]

theorem number_numeral (behind : IsBehindNumber rest) (negative : Bool) {n : Nat}
    (fits : n ≤ maxUnsigned) :
    number negative (Decimal.numeral n ++ rest) = .ok (wholeNumber negative n, rest) := by
  rcases Nat.eq_zero_or_pos n with rfl | positive
  · exact number_zero behind negative
  · obtain ⟨c, digits, starts, other⟩ := Decimal.exists_numeral_eq_cons positive
    have digit : Decimal.isDigit c = true :=
      Decimal.isDigit_of_mem_numeral (starts ▸ List.mem_cons_self)
    have others : ∀ d ∈ digits, Decimal.isDigit d = true := by
      intro d member
      exact Decimal.isDigit_of_mem_numeral (starts ▸ List.mem_cons_of_mem c member)
    have worth := Decimal.digitsValue_numeral n
    rw [starts, Decimal.digitsValue, List.foldl_cons, Nat.zero_mul, Nat.zero_add] at worth
    have takes := significand_append others behind (Decimal.digitValue c) 1 (worth ▸ fits)
    rw [starts, List.cons_append, number]
    · simp only [digit, if_true, takes, worth, takeWhile_behind behind, afterWhole_behind behind]
    · exact other

/-- The integers of 64 bits, with or without sign. -/
def IsWord (n : Int) : Prop := -(Nat.pow 2 63) ≤ n ∧ n < Nat.pow 2 64

theorem number_natAbs (behind : IsBehindNumber rest) {n : Int} (word : IsWord n)
    (negative : n < 0) :
    number true (Decimal.numeral n.natAbs ++ rest) = .ok (.integer n, rest) := by
  have low := word.1
  simp only [Nat.pow_eq] at low
  have fits : n.natAbs ≤ maxUnsigned := by
    simp only [maxUnsigned, Nat.pow_eq]
    omega
  have inside : 0 < n.natAbs ∧ n.natAbs ≤ Nat.pow 2 63 := by
    simp only [Nat.pow_eq]
    omega
  have whole : wholeNumber true n.natAbs = .integer (-(n.natAbs : Int)) := by
    simp only [wholeNumber, if_true, if_pos inside]
  have same : -(n.natAbs : Int) = n := by omega
  rw [number_numeral behind true fits, whole, same]

/-- The number that an integer zero with a minus sign stands for. -/
def negativeZero : Float := -(Float.ofNat 0)

theorem render_negativeZero : Decimal.Layout.json.render negativeZero = "-0.0" := by
  decide +kernel

theorem scaled_zero : scaled 0 (-1) = some (Float.ofNat 0) := by
  have small : (-1 : Int).natAbs ≤ maxPower := by decide
  have quotient :
      Float.ofNat 0 / Decimal.nearestFloat 1 ((-1 : Int).natAbs : Nat) = Float.ofNat 0 := by
    decide +kernel
  simp only [scaled]
  rw [if_pos (by decide), scaleDown, if_pos small, quotient]

theorem number_negativeZero (behind : IsBehindNumber rest) :
    number true ('0' :: '.' :: '0' :: rest) = .ok (.float negativeZero, rest) := by
  have zero : ∀ c ∈ ['0'], Decimal.isDigit c = true :=
    List.forall_mem_singleton.mpr (by decide)
  have takes : significand 0 0 ('0' :: rest) = (0, 1, rest) :=
    significand_append zero behind 0 0 (by decide)
  have finish : finishFloat true 0 (-1) rest = .ok (.float negativeZero, rest) := by
    rw [finishFloat, scaled_zero]
    rfl
  have after : afterDigits true 0 (-1) rest = .ok (.float negativeZero, rest) := by
    rw [← finish]
    cases rest with
    | nil => rfl
    | cons c rest =>
        obtain ⟨-, -, noMark, noCapital⟩ := behind c rfl
        unfold afterDigits
        split
        · next same => exact absurd (List.cons.inj same).1 noMark
        · next same => exact absurd (List.cons.inj same).1 noCapital
        · rfl
  have fractional : fraction true 0 0 ('0' :: rest) = .ok (.float negativeZero, rest) := by
    rw [← after]
    simp only [fraction, takes]
    cases rest with
    | nil => rfl
    | cons c rest =>
        have ends := (behind c rfl).1
        simp only [ends, Bool.false_eq_true, if_false]
        rfl
  exact fractional

end Numbers

section Texts

variable {rest : List Char}

theorem hexValue?_digitChar {n : Nat} (small : n < 16) :
    Text.hexValue? (Nat.digitChar n) = some n ∧ (Nat.digitChar n).utf8Size = 1 := by
  revert n
  decide

theorem hexNumber_hexDigits {n : Nat} (small : n < 65536) (rest : List Char) :
    hexNumber (Text.hexDigits 4 n ++ rest) = .ok (n, rest) := by
  obtain ⟨first, one⟩ := hexValue?_digitChar (n := n / 16 / 16 / 16 % 16) (Nat.mod_lt _ (by decide))
  obtain ⟨second, two⟩ := hexValue?_digitChar (n := n / 16 / 16 % 16) (Nat.mod_lt _ (by decide))
  obtain ⟨third, three⟩ := hexValue?_digitChar (n := n / 16 % 16) (Nat.mod_lt _ (by decide))
  obtain ⟨fourth, four⟩ := hexValue?_digitChar (n := n % 16) (Nat.mod_lt _ (by decide))
  have written : Text.hexDigits 4 n ++ rest =
      Nat.digitChar (n / 16 / 16 / 16 % 16) :: Nat.digitChar (n / 16 / 16 % 16) ::
        Nat.digitChar (n / 16 % 16) :: Nat.digitChar (n % 16) :: rest := rfl
  have bytes : ¬ byteCount ((Text.hexDigits 4 n ++ rest).take 4) < 4 := by
    simp [written, byteCount, one, two, three, four]
  have worth : ((n / 16 / 16 / 16 % 16 * 16 + n / 16 / 16 % 16) * 16 + n / 16 % 16) * 16 + n % 16
      = n := by omega
  unfold hexNumber
  rw [if_neg bytes, written]
  simp only [first, second, third, fourth, worth]

theorem unicodeEscape_hexDigits {c : Char} (control : c.toNat < 0x20) (rest : List Char) :
    unicodeEscape (Text.hexDigits 4 c.toNat ++ rest) = .ok (c, rest) := by
  have noLow : ¬ (0xDC00 ≤ c.toNat ∧ c.toNat ≤ 0xDFFF) := by omega
  have noHigh : c.toNat < 0xD800 ∨ 0xDBFF < c.toNat := by omega
  rw [unicodeEscape, hexNumber_hexDigits (by omega)]
  simp only [codePoint]
  rw [if_neg noLow, if_pos noHigh, Char.ofNat_toNat]

/-- How a character is written inside a quoted text: as a letter after a backslash, as four
hexadecimal digits, or as itself. -/
theorem escape_cases (c : Char) :
    (∃ letter, escape c = ['\\', letter] ∧ ∀ rest, escaped (letter :: rest) = .ok (c, rest)) ∨
      (c.toNat < 0x20 ∧ escape c = '\\' :: 'u' :: Text.hexDigits 4 c.toNat) ∨
      (¬ c.toNat < 0x20 ∧ c ≠ '"' ∧ c ≠ '\\' ∧ escape c = [c]) := by
  by_cases lettered : c ∈ ['"', '\\', '\n', '\r', '\t', '\x08', '\x0c']
  · left
    simp only [List.mem_cons, List.not_mem_nil, or_false] at lettered
    rcases lettered with rfl | rfl | rfl | rfl | rfl | rfl | rfl <;> exact ⟨_, rfl, fun _ => rfl⟩
  · right
    simp only [List.mem_cons, List.not_mem_nil, or_false, not_or] at lettered
    obtain ⟨noQuote, noBackslash, noFeed, noReturn, noTab, noBack, noForm⟩ := lettered
    simp only [escape, beq_iff_eq, noQuote, noBackslash, noFeed, noReturn, noTab, noBack, noForm,
      if_false]
    by_cases control : c.toNat < 0x20
    · exact .inl ⟨control, if_pos control⟩
    · exact .inr ⟨control, noQuote, noBackslash, if_neg control⟩

theorem quoted_escape (c : Char) (fuel : Nat) (read rest : List Char) :
    quoted (fuel + 1) read (escape c ++ rest) = quoted fuel (c :: read) rest := by
  rcases escape_cases c with
    ⟨letter, form, reads⟩ | ⟨control, form⟩ | ⟨visible, noQuote, noBackslash, form⟩
  · rw [form, List.cons_append, List.cons_append, List.nil_append, quoted]
    simp only [reads]
    rfl
  · have reads : escaped ('u' :: (Text.hexDigits 4 c.toNat ++ rest)) = .ok (c, rest) :=
      unicodeEscape_hexDigits control rest
    rw [form, List.cons_append, List.cons_append, quoted]
    simp only [reads]
    rfl
  · rw [form, List.cons_append, List.nil_append, quoted]
    simp only [beq_iff_eq, noQuote, noBackslash, visible, if_false]

theorem quoted_flatMap_escape {content : List Char} {fuel : Nat} (read rest : List Char)
    (enough : content.length < fuel) :
    quoted fuel read (content.flatMap escape ++ '"' :: rest) =
      .ok (String.ofList (read.reverse ++ content), rest) := by
  induction content generalizing fuel read with
  | nil =>
      obtain ⟨fuel, rfl⟩ := Nat.exists_eq_succ_of_ne_zero (Nat.ne_of_gt enough)
      rw [List.append_nil]
      rfl
  | cons c content ih =>
      rw [List.length_cons] at enough
      obtain ⟨fuel, rfl⟩ := Nat.exists_eq_succ_of_ne_zero (Nat.ne_of_gt (Nat.zero_lt_of_lt enough))
      rw [List.flatMap_cons, List.append_assoc, quoted_escape, ih _ (Nat.lt_of_succ_lt_succ enough),
        List.reverse_cons, List.append_assoc]
      rfl

theorem length_le_length_escape (content : List Char) :
    content.length ≤ (content.flatMap escape).length := by
  induction content with
  | nil => exact Nat.le_refl 0
  | cons c content ih =>
      have written : 1 ≤ (escape c).length := by
        rcases escape_cases c with ⟨letter, form, -⟩ | ⟨-, form⟩ | ⟨-, -, -, form⟩ <;> simp [form]
      rw [List.flatMap_cons, List.length_append, List.length_cons]
      omega

end Texts

end Workflow.Json
