import Workflow.Text.Search
import Workflow.Text.Blank
import Mathlib.Data.List.TakeWhile

/-!
# Laws of trimming and cutting

Trimming removes exactly the blanks at both ends of a text: blanks added there do not show, and
what is left neither starts nor ends with one.  A text that is cut at the first character of
some kind is put together again from its pieces, and only from those.
-/

namespace Workflow.Text

/-- Only blanks stand in the text. -/
def AllBlank (text : List Char) : Prop := ∀ c ∈ text, isBlank c = true

/-- Only ASCII blanks stand in the text. -/
def AllAsciiBlank (text : List Char) : Prop := ∀ c ∈ text, isAsciiBlank c = true

theorem AllAsciiBlank.allBlank {text : List Char} (blank : AllAsciiBlank text) : AllBlank text :=
  fun c member => isBlank_of_isAsciiBlank (blank c member)

@[simp] theorem allAsciiBlank_nil : AllAsciiBlank [] := by
  simp [AllAsciiBlank]

theorem allAsciiBlank_takeWhile (text : List Char) :
    AllAsciiBlank (text.takeWhile isAsciiBlank) := by
  intro c member
  exact List.mem_takeWhile_imp member

/-! ## Trimming -/

theorem trimStart_eq_nil_iff {text : List Char} : trimStart text = [] ↔ AllBlank text := by
  rw [trimStart, List.dropWhile_eq_nil_iff]
  rfl

theorem trimEnd_eq_nil_iff {text : List Char} : trimEnd text = [] ↔ AllBlank text := by
  simp [trimEnd, AllBlank]

theorem trimStart_append_of_allBlank {before : List Char} (blank : AllBlank before)
    (text : List Char) : trimStart (before ++ text) = trimStart text := by
  exact List.dropWhile_append_of_pos blank

theorem trimEnd_append_of_allBlank (text : List Char) {after : List Char}
    (blank : AllBlank after) : trimEnd (text ++ after) = trimEnd text := by
  have reversed : ∀ c ∈ after.reverse, isBlank c = true := by
    intro c member
    exact blank c (List.mem_reverse.mp member)
  rw [trimEnd, List.reverse_append, List.dropWhile_append_of_pos reversed]
  rfl

theorem trimEnd_prefix (text : List Char) : trimEnd text <+: text := by
  rw [trimEnd, ← List.reverse_suffix, List.reverse_reverse]
  exact List.dropWhile_suffix isBlank

theorem trim_append_left {before : List Char} (blank : AllBlank before) (text : List Char) :
    trim (before ++ text) = trim text := by
  rw [trim, trimStart_append_of_allBlank blank, trim]

theorem trim_append_right (text : List Char) {after : List Char} (blank : AllBlank after) :
    trim (text ++ after) = trim text := by
  by_cases textBlank : AllBlank text
  · have bothBlank : AllBlank (text ++ after) := by
      intro c member
      rcases List.mem_append.mp member with inText | inAfter
      · exact textBlank c inText
      · exact blank c inAfter
    rw [trim, trim, trimStart_eq_nil_iff.mpr bothBlank, trimStart_eq_nil_iff.mpr textBlank]
  · have stays : trimStart (text ++ after) = trimStart text ++ after := by
      have rest : trimStart text ≠ [] := mt trimStart_eq_nil_iff.mp textBlank
      rw [trimStart, List.dropWhile_append, if_neg (by simpa [trimStart] using rest)]
      rfl
    rw [trim, stays, trimEnd_append_of_allBlank _ blank, trim]

/-- Nothing is left of a text exactly when it is blank. -/
theorem trim_eq_nil_iff {text : List Char} : trim text = [] ↔ AllBlank text := by
  constructor
  · intro empty
    have startBlank : AllBlank (trimStart text) := trimEnd_eq_nil_iff.mp empty
    intro c member
    rw [← List.takeWhile_append_dropWhile (p := isBlank) (l := text)] at member
    rcases List.mem_append.mp member with inFront | inRest
    · exact List.mem_takeWhile_imp inFront
    · exact startBlank c inRest
  · intro blank
    rw [trim, trimStart_eq_nil_iff.mpr blank]
    rfl

theorem exists_blanks_around (text : List Char) :
    ∃ before after, AllBlank before ∧ AllBlank after ∧ text = before ++ (trim text ++ after) := by
  refine ⟨text.takeWhile isBlank, ((trimStart text).reverse.takeWhile isBlank).reverse,
    fun c member => List.mem_takeWhile_imp member, ?_, ?_⟩
  · intro c member
    exact List.mem_takeWhile_imp (List.mem_reverse.mp member)
  · have whole := List.takeWhile_append_dropWhile (p := isBlank) (l := (trimStart text).reverse)
    have ending : trim text ++ ((trimStart text).reverse.takeWhile isBlank).reverse =
        trimStart text := by
      rw [trim, trimEnd, ← List.reverse_append, whole, List.reverse_reverse]
    rw [ending, trimStart, List.takeWhile_append_dropWhile]

theorem isBlank_of_head?_trim {text : List Char} {c : Char} (first : (trim text).head? = some c) :
    isBlank c = false := by
  have start : (trimStart text).head? = some c := by
    obtain ⟨rest, whole⟩ : trim text <+: trimStart text := trimEnd_prefix (trimStart text)
    rw [← whole]
    cases left : trim text with
    | nil => rw [left] at first; cases first
    | cons d others => rw [left] at first; simpa using first
  have kept := List.head?_dropWhile_not isBlank text
  rw [trimStart] at start
  rw [start] at kept
  simpa using kept

theorem isBlank_of_getLast?_trim {text : List Char} {c : Char}
    (last : (trim text).getLast? = some c) : isBlank c = false := by
  rw [trim, trimEnd, List.getLast?_reverse] at last
  have kept := List.head?_dropWhile_not isBlank (trimStart text).reverse
  rw [last] at kept
  simpa using kept

theorem trim_eq_self {text : List Char} (first : ∀ c, text.head? = some c → isBlank c = false)
    (last : ∀ c, text.getLast? = some c → isBlank c = false) : trim text = text := by
  have start : trimStart text = text := by
    cases text with
    | nil => rfl
    | cons c rest => simp [trimStart, first c rfl]
  have ending : trimEnd text = text := by
    rw [trimEnd]
    cases reversed : text.reverse with
    | nil => simpa using reversed.symm
    | cons c rest =>
        have final : text.getLast? = some c := by
          rw [← List.head?_reverse, reversed]
          rfl
        rw [List.dropWhile_cons_of_neg (by simp [last c final]), ← reversed, List.reverse_reverse]
  rw [trim, start, ending]

@[simp] theorem trim_trim (text : List Char) : trim (trim text) = trim text :=
  trim_eq_self (fun _ first => isBlank_of_head?_trim first)
    (fun _ last => isBlank_of_getLast?_trim last)

theorem eq_nil_of_trim_append {blanks text : List Char} (blank : AllBlank blanks)
    (trimmed : trim (blanks ++ text) = blanks ++ text) : blanks = [] := by
  cases blanks with
  | nil => rfl
  | cons c others =>
      have first : (trim (c :: others ++ text)).head? = some c := by
        rw [trimmed]
        rfl
      have visible := isBlank_of_head?_trim first
      rw [blank c (by simp)] at visible
      cases visible

theorem eq_nil_of_append_trim {text blanks : List Char} (blank : AllBlank blanks)
    (trimmed : trim (text ++ blanks) = text ++ blanks) : blanks = [] := by
  cases last : blanks.getLast? with
  | none => exact List.getLast?_eq_none_iff.mp last
  | some c =>
      have ending : (trim (text ++ blanks)).getLast? = some c := by
        rw [trimmed, List.getLast?_append, last]
        rfl
      have visible := isBlank_of_getLast?_trim ending
      rw [blank c (List.mem_of_mem_getLast? last)] at visible
      cases visible

/-! ## Cutting at the first character of some kind -/

/-- A text is cut at the first separator. -/
theorem splitOnce_eq_some_iff {isSeparator : Char → Bool} {text before after : List Char} :
    splitOnce isSeparator text = some (before, after) ↔
      ∃ separator, isSeparator separator = true ∧ (∀ c ∈ before, isSeparator c = false) ∧
        text = before ++ separator :: after := by
  induction text generalizing before with
  | nil => simp [splitOnce]
  | cons c text ih =>
      by_cases here : isSeparator c = true
      · simp only [splitOnce, if_pos here, Option.some.injEq, Prod.mk.injEq]
        constructor
        · rintro ⟨rfl, rfl⟩
          exact ⟨c, here, by simp, rfl⟩
        · rintro ⟨separator, isOne, none, whole⟩
          cases before with
          | nil =>
              simp only [List.nil_append, List.cons.injEq] at whole
              exact ⟨rfl, whole.2⟩
          | cons first rest =>
              simp only [List.cons_append, List.cons.injEq] at whole
              have notOne := none first (by simp)
              rw [← whole.1, here] at notOne
              cases notOne
      · simp only [splitOnce, if_neg here, Option.map_eq_some_iff, Prod.exists, Prod.mk.injEq]
        constructor
        · rintro ⟨inner, rest, found, rfl, rfl⟩
          obtain ⟨separator, isOne, none, whole⟩ := ih.mp found
          refine ⟨separator, isOne, ?_, by simp [whole]⟩
          intro d member
          rcases List.mem_cons.mp member with rfl | inInner
          · simpa using here
          · exact none d inInner
        · rintro ⟨separator, isOne, none, whole⟩
          cases before with
          | nil =>
              simp only [List.nil_append, List.cons.injEq] at whole
              rw [whole.1] at here
              exact absurd isOne here
          | cons first rest =>
              simp only [List.cons_append, List.cons.injEq] at whole
              obtain ⟨rfl, whole⟩ := whole
              refine ⟨rest, after, ih.mpr ⟨separator, isOne, ?_, whole⟩, rfl, rfl⟩
              intro d member
              exact none d (List.mem_cons_of_mem _ member)

/-- A run of characters of some kind ends where another character follows. -/
theorem takeWhile_append_cons {accept : Char → Bool} {run : List Char}
    (accepted : ∀ c ∈ run, accept c = true) {next : Char} (other : accept next = false)
    (rest : List Char) : (run ++ next :: rest).takeWhile accept = run := by
  rw [List.takeWhile_append_of_pos accepted, List.takeWhile_cons_of_neg (by simp [other]),
    List.append_nil]

theorem dropWhile_append_cons {accept : Char → Bool} {run : List Char}
    (accepted : ∀ c ∈ run, accept c = true) {next : Char} (other : accept next = false)
    (rest : List Char) : (run ++ next :: rest).dropWhile accept = next :: rest := by
  rw [List.dropWhile_append_of_pos accepted, List.dropWhile_cons_of_neg (by simp [other])]

end Workflow.Text
