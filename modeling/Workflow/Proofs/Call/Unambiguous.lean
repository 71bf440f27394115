import Workflow.Proofs.Call.Reading

/-!
# Calls are written unambiguously

Every part of a valid written form can be recovered from its text: a key ends at the first mark,
a value in quotes at its second quote, and a name where it is followed by a blank or by the
opening parenthesis.  So two valid forms with the same text are equal.
-/

namespace Workflow.Call

open Text

/-- What stands before the first character of some kind is determined by the whole. -/
theorem append_cons_unique {accept : Char → Bool} {front other : List Char} {c d : Char}
    {rest behind : List Char} (frontAccepted : ∀ e ∈ front, accept e = true)
    (otherAccepted : ∀ e ∈ other, accept e = true) (cRefused : accept c = false)
    (dRefused : accept d = false) (same : front ++ c :: rest = other ++ d :: behind) :
    front = other ∧ c = d ∧ rest = behind := by
  have fronts : front = other := by
    rw [← takeWhile_append_cons frontAccepted cRefused rest, same,
      takeWhile_append_cons otherAccepted dRefused behind]
  subst fronts
  have rests := List.append_cancel_left same
  rw [List.cons.injEq] at rests
  exact ⟨rfl, rests⟩

theorem WrittenValue.quoted_ne_bare {before content after written : List Char}
    (quotedValid : (WrittenValue.quoted before content after).IsValid)
    (bareValid : (WrittenValue.bare written).IsValid) :
    (WrittenValue.quoted before content after).text ≠ (WrittenValue.bare written).text := by
  intro same
  simp only [WrittenValue.text] at same
  apply bareValid.2.2.1
  rw [← same, skipBlanks_append quotedValid.1, skipBlanks_cons (by decide)]
  rfl

theorem WrittenValue.eq_of_text_eq {left right : WrittenValue} (leftValid : left.IsValid)
    (rightValid : right.IsValid) (same : left.text = right.text) : left = right := by
  cases left with
  | bare written =>
      cases right with
      | bare other =>
          rw [WrittenValue.text, WrittenValue.text] at same
          rw [same]
      | quoted before content after =>
          exact absurd same.symm (quoted_ne_bare rightValid leftValid)
  | quoted before content after =>
      cases right with
      | bare other => exact absurd same (quoted_ne_bare leftValid rightValid)
      | quoted otherBefore otherContent otherAfter =>
          have unquoted {text : List Char} (none : '"' ∉ text) :
              ∀ c ∈ text, (c != '"') = true := by
            intro c member
            have other : c ≠ '"' := fun same => none (same ▸ member)
            simpa using other
          simp only [WrittenValue.text] at same
          obtain ⟨rfl, -, quotes⟩ := append_cons_unique leftValid.1 rightValid.1
            (by decide) (by decide) same
          obtain ⟨rfl, -, rfl⟩ := append_cons_unique (unquoted leftValid.2.1)
            (unquoted rightValid.2.1) (by decide) (by decide) quotes
          rfl

theorem WrittenParameter.eq_of_text_eq {left right : WrittenParameter} (leftValid : left.IsValid)
    (rightValid : right.IsValid) (same : left.text = right.text) : left = right := by
  obtain ⟨noEquals, noComma, noClose, -, leftValueValid⟩ := leftValid
  obtain ⟨noEquals', noComma', noClose', -, rightValueValid⟩ := rightValid
  simp only [WrittenParameter.text] at same
  obtain ⟨keys, -, values⟩ := append_cons_unique
    (mem_iff_endsKey.mpr ⟨noEquals, noComma, noClose⟩)
    (mem_iff_endsKey.mpr ⟨noEquals', noComma', noClose'⟩) (by decide) (by decide) same
  have valuesEqual := WrittenValue.eq_of_text_eq leftValueValid rightValueValid values
  exact WrittenParameter.ext keys valuesEqual

/-- A parameter and what follows it are determined by both together. -/
theorem WrittenParameter.cut_unique {left right : WrittenParameter} {c d : Char}
    {rest behind : List Char} (leftValid : left.IsValid) (rightValid : right.IsValid)
    (cEnds : endsValue c = true) (dEnds : endsValue d = true)
    (same : left.text ++ c :: rest = right.text ++ d :: behind) :
    left = right ∧ c :: rest = d :: behind := by
  have leftRead := readParameter_text leftValid cEnds rest
  have rightRead := readParameter_text rightValid dEnds behind
  rw [same, rightRead] at leftRead
  simp only [Except.ok.injEq, Prod.mk.injEq] at leftRead
  obtain ⟨-, behinds⟩ := leftRead
  rw [behinds] at same
  exact ⟨eq_of_text_eq leftValid rightValid (List.append_cancel_right same), behinds.symm⟩

theorem WrittenParameter.eq_of_joined_eq {left right : WrittenParameter}
    {lefts rights : List WrittenParameter} (leftValid : ∀ written ∈ left :: lefts, written.IsValid)
    (rightValid : ∀ written ∈ right :: rights, written.IsValid)
    (same : joined left lefts ++ [')'] = joined right rights ++ [')']) :
    left = right ∧ lefts = rights := by
  have headValid := leftValid left (by simp)
  have otherValid := rightValid right (by simp)
  induction lefts generalizing left right rights with
  | nil =>
      cases rights with
      | nil =>
          obtain ⟨heads, -⟩ := cut_unique headValid otherValid (by decide) (by decide) same
          exact ⟨heads, rfl⟩
      | cons second rights =>
          simp only [joined, List.append_assoc, List.cons_append] at same
          obtain ⟨-, separators⟩ := cut_unique headValid otherValid (by decide) (by decide) same
          simp at separators
  | cons next lefts ih =>
      cases rights with
      | nil =>
          simp only [joined, List.append_assoc, List.cons_append] at same
          obtain ⟨-, separators⟩ := cut_unique headValid otherValid (by decide) (by decide) same
          simp at separators
      | cons second rights =>
          simp only [joined, List.append_assoc, List.cons_append] at same
          obtain ⟨heads, rests⟩ := cut_unique headValid otherValid (by decide) (by decide) same
          rw [List.cons.injEq] at rests
          have leftsValid : ∀ written ∈ next :: lefts, written.IsValid := by
            intro written member
            exact leftValid written (List.mem_cons_of_mem _ member)
          have rightsValid : ∀ written ∈ second :: rights, written.IsValid := by
            intro written member
            exact rightValid written (List.mem_cons_of_mem _ member)
          obtain ⟨seconds, tails⟩ := ih leftsValid rightsValid rests.2
            (leftsValid next (by simp)) (rightsValid second (by simp))
          exact ⟨heads, by rw [seconds, tails]⟩

theorem WrittenList.blank_ne_filled {blanks : List Char} (blank : AllAsciiBlank blanks)
    (first : WrittenParameter) (others : List WrittenParameter) :
    (WrittenList.blank blanks).text ≠ (WrittenList.filled first others).text := by
  intro same
  obtain ⟨tail, start⟩ := exists_joined_eq first others
  have member : '=' ∈ blanks := by
    rw [show blanks = (WrittenList.filled first others).text from same, WrittenList.text, start]
    simp
  exact absurd (blank _ member) (by decide)

theorem WrittenList.eq_of_text_eq {left right : WrittenList} (leftValid : left.IsValid)
    (rightValid : right.IsValid) (same : left.text = right.text) : left = right := by
  cases left with
  | blank blanks =>
      cases right with
      | blank other => rw [show blanks = other from same]
      | filled first others => exact absurd same (blank_ne_filled leftValid first others)
  | filled first others =>
      cases right with
      | blank other => exact absurd same.symm (blank_ne_filled rightValid first others)
      | filled second rest =>
          obtain ⟨heads, tails⟩ := WrittenParameter.eq_of_joined_eq leftValid.1 rightValid.1
            (congrArg (· ++ [')']) same)
          rw [heads, tails]

theorem WrittenCall.eq_of_text_eq {left right : WrittenCall} (leftValid : left.IsValid)
    (rightValid : right.IsValid) (same : left.text = right.text) : left = right := by
  obtain ⟨leftNamed, leftBlank, leftListValid⟩ := leftValid
  obtain ⟨rightNamed, rightBlank, rightListValid⟩ := rightValid
  have closed {name gap : List Char} (named : isName name = true) (blank : AllBlank gap) :
      ∀ c ∈ name ++ gap, (c != '(') = true := by
    intro c member
    have other : c ≠ '(' := fun same => openParenthesis_notMem named blank (same ▸ member)
    simpa using other
  simp only [WrittenCall.text] at same
  rw [← List.append_assoc, ← List.append_assoc] at same
  obtain ⟨fronts, -, lists⟩ := append_cons_unique (closed leftNamed leftBlank)
    (closed rightNamed rightBlank) (by decide) (by decide) same
  have names : left.name = right.name := by
    rw [← trim_name_append leftNamed leftBlank, fronts, trim_name_append rightNamed rightBlank]
  rw [names] at fronts
  have listsEqual := WrittenList.eq_of_text_eq leftListValid rightListValid
    (List.append_cancel_right lists)
  exact WrittenCall.ext names (List.append_cancel_left fronts) listsEqual

end Workflow.Call
