import Mathlib.Data.List.Forall2
import Workflow.Proofs.Call.Reading
import Workflow.Proofs.Text.Searching

/-!
# Blanks between the tokens of a call

The tokens of a call can be written with other blanks between them.  Around the name, the
parentheses, the keys, the equals signs, the commas and the values without quotes all blanks are the
same.  Next to a quote, and where no parameter stands between the parentheses, only ASCII blanks are
skipped: a call with any other blank there is refused.
-/

namespace Workflow

namespace Text

variable {c : Char} {text other : List Char}

theorem mem_trim_iff (visible : isBlank c = false) : c ∈ trim text ↔ c ∈ text := by
  rw [← List.count_pos_iff, ← List.count_pos_iff, count_trim visible]

theorem mem_iff_of_trim_eq (visible : isBlank c = false) (same : trim other = trim text) :
    c ∈ other ↔ c ∈ text := by
  rw [← mem_trim_iff visible, same, mem_trim_iff visible]

end Text

namespace Call

open Text

/-! ## The same tokens with other blanks -/

namespace WrittenValue

/-- A value is written again with other blanks around it. -/
inductive Respaced : WrittenValue → WrittenValue → Prop where
  | quoted {before content after front back : List Char} (front_blank : AllBlank front)
      (back_blank : AllBlank back) :
      Respaced (.quoted before content after) (.quoted front content back)
  | bare {written spaced : List Char} (same : trim spaced = trim written) :
      Respaced (.bare written) (.bare spaced)

/-- Only ASCII blanks stand next to quotes. -/
def IsPlain : WrittenValue → Prop
  | .quoted before _ after => AllAsciiBlank before ∧ AllAsciiBlank after
  | .bare _ => True

/-- A value is valid up to the kind of the blanks next to its quotes. -/
def IsLoose : WrittenValue → Prop
  | .quoted before content after => AllBlank before ∧ '"' ∉ content ∧ AllBlank after
  | .bare written => (bare written).IsValid

variable {written spaced : WrittenValue}

theorem isValid_iff : written.IsValid ↔ written.IsLoose ∧ written.IsPlain := by
  cases written with
  | bare written => exact (and_iff_left trivial).symm
  | quoted before content after =>
      constructor
      · rintro ⟨front, unquoted, back⟩
        exact ⟨⟨front.allBlank, unquoted, back.allBlank⟩, front, back⟩
      · rintro ⟨⟨-, unquoted, -⟩, front, back⟩
        exact ⟨front, unquoted, back⟩

theorem Respaced.content_eq (respaced : written.Respaced spaced) :
    spaced.content = written.content := by
  cases respaced with
  | quoted => rfl
  | bare same => exact same

theorem Respaced.isLoose (respaced : written.Respaced spaced) (valid : written.IsValid) :
    spaced.IsLoose := by
  cases respaced with
  | quoted front back => exact ⟨front, valid.2.1, back⟩
  | bare same =>
      obtain ⟨noComma, noClose, -, unquoted⟩ := valid
      rw [← same] at unquoted
      refine ⟨?_, ?_, ?_, unquoted⟩
      · rwa [mem_iff_of_trim_eq (by decide) same]
      · rwa [mem_iff_of_trim_eq (by decide) same]
      · intro first
        apply unquoted
        rw [mem_trim_iff (by decide)]
        exact (List.dropWhile_sublist _).subset (List.mem_of_mem_head? first)

end WrittenValue

namespace WrittenParameter

/-- A parameter is written again with other blanks between its tokens. -/
structure Respaced (written spaced : WrittenParameter) : Prop where
  key : trim spaced.key = trim written.key
  value : written.value.Respaced spaced.value

/-- A parameter is valid up to the kind of the blanks next to quotes. -/
def IsLoose (written : WrittenParameter) : Prop :=
  '=' ∉ written.key ∧ ',' ∉ written.key ∧ ')' ∉ written.key ∧ trim written.key ≠ [] ∧
    written.value.IsLoose

variable {written spaced : WrittenParameter}

theorem isValid_iff : written.IsValid ↔ written.IsLoose ∧ written.value.IsPlain := by
  simp only [IsValid, IsLoose, WrittenValue.isValid_iff, and_assoc]

theorem Respaced.meaning_eq (respaced : written.Respaced spaced) :
    spaced.meaning = written.meaning := by
  rw [meaning, meaning, respaced.key, respaced.value.content_eq]

theorem Respaced.isLoose (respaced : written.Respaced spaced) (valid : written.IsValid) :
    spaced.IsLoose := by
  obtain ⟨noEquals, noComma, noClose, named, value⟩ := valid
  refine ⟨?_, ?_, ?_, ?_, respaced.value.isLoose value⟩
  · rwa [mem_iff_of_trim_eq (by decide) respaced.key]
  · rwa [mem_iff_of_trim_eq (by decide) respaced.key]
  · rwa [mem_iff_of_trim_eq (by decide) respaced.key]
  · rwa [respaced.key]

theorem map_meaning_eq {left right : List WrittenParameter}
    (each : List.Forall₂ Respaced left right) : right.map meaning = left.map meaning := by
  induction each with
  | nil => rfl
  | cons own _ ih => rw [List.map_cons, List.map_cons, own.meaning_eq, ih]

theorem isLoose_of_mem {left right : List WrittenParameter}
    (each : List.Forall₂ Respaced left right) (valid : ∀ written ∈ left, written.IsValid) :
    ∀ spaced ∈ right, spaced.IsLoose := by
  induction each with
  | nil => exact List.forall_mem_nil _
  | cons own _ ih =>
      obtain ⟨first, others⟩ := List.forall_mem_cons.mp valid
      exact List.forall_mem_cons.mpr ⟨own.isLoose first, ih others⟩

end WrittenParameter

namespace WrittenList

/-- A parameter list is written again with other blanks between its tokens. -/
inductive Respaced : WrittenList → WrittenList → Prop where
  | blank {blanks spaced : List Char} (all_blank : AllBlank spaced) :
      Respaced (.blank blanks) (.blank spaced)
  | filled {first spaced : WrittenParameter} {others rest : List WrittenParameter}
      (each : List.Forall₂ WrittenParameter.Respaced (first :: others) (spaced :: rest)) :
      Respaced (.filled first others) (.filled spaced rest)

/-- Only ASCII blanks stand next to quotes, and in the place of parameters. -/
def IsPlain : WrittenList → Prop
  | .blank blanks => AllAsciiBlank blanks
  | .filled first others => ∀ written ∈ first :: others, written.value.IsPlain

/-- A parameter list is valid up to the kind of the blanks that have to be plain. -/
def IsLoose : WrittenList → Prop
  | .blank blanks => AllBlank blanks
  | .filled first others =>
      (∀ written ∈ first :: others, written.IsLoose) ∧
        (((first :: others).map WrittenParameter.meaning).map Prod.fst).Nodup

variable {written spaced : WrittenList}

theorem isValid_iff : written.IsValid ↔ written.IsLoose ∧ written.IsPlain := by
  cases written with
  | blank blanks => exact ⟨fun plain => ⟨plain.allBlank, plain⟩, And.right⟩
  | filled first others =>
      simp only [IsValid, IsLoose, IsPlain, WrittenParameter.isValid_iff, forall_and]
      exact and_right_comm

theorem Respaced.meaning_eq (respaced : written.Respaced spaced) :
    spaced.meaning = written.meaning := by
  cases respaced with
  | blank => rfl
  | filled each => exact WrittenParameter.map_meaning_eq each

theorem Respaced.isLoose (respaced : written.Respaced spaced) (valid : written.IsValid) :
    spaced.IsLoose := by
  cases respaced with
  | blank all_blank => exact all_blank
  | filled each =>
      obtain ⟨allValid, distinct⟩ := valid
      refine ⟨WrittenParameter.isLoose_of_mem each allValid, ?_⟩
      rwa [WrittenParameter.map_meaning_eq each]

end WrittenList

namespace WrittenCall

/-- A call is written again with other blanks between its tokens. -/
structure Respaced (written spaced : WrittenCall) : Prop where
  name : spaced.name = written.name
  gap : AllBlank spaced.gap
  list : written.list.Respaced spaced.list

/-- A call is valid up to the kind of the blanks that have to be plain. -/
def IsLoose (written : WrittenCall) : Prop :=
  isName written.name = true ∧ AllBlank written.gap ∧ written.list.IsLoose

variable {written spaced : WrittenCall}

theorem isValid_iff : written.IsValid ↔ written.IsLoose ∧ written.list.IsPlain := by
  simp only [IsValid, IsLoose, WrittenList.isValid_iff, and_assoc]

theorem Respaced.isLoose (respaced : written.Respaced spaced) (valid : written.IsValid) :
    spaced.IsLoose :=
  ⟨respaced.name ▸ valid.1, respaced.gap, respaced.list.isLoose valid.2.2⟩

theorem exists_name_eq_cons (named : isName written.name = true) :
    ∃ c rest, written.name = c :: rest ∧ isNameCharacter c = true := by
  obtain ⟨notEmpty, inName⟩ := Bool.and_eq_true_iff.mp named
  obtain ⟨c, rest, name⟩ := List.exists_cons_of_ne_nil (bne_iff_ne.mp notEmpty)
  exact ⟨c, rest, name, List.all_eq_true.mp inName c (name ▸ List.mem_cons_self)⟩

/-- A call starts with its name and ends with a parenthesis. -/
theorem trim_text (named : isName written.name = true) : trim written.text = written.text := by
  obtain ⟨c, rest, name, inName⟩ := exists_name_eq_cons named
  apply trim_eq_self
  · intro d first
    rw [text, name] at first
    cases first
    exact isBlank_of_isNameCharacter inName
  · intro d last
    have close : written.text.getLast? = some ')' := by
      rw [text, List.getLast?_eq_some_iff]
      exact ⟨written.name ++ (written.gap ++ '(' :: written.list.text), by simp⟩
    rw [close] at last
    cases last
    decide

end WrittenCall

/-! ## Blanks that are not skipped -/

theorem endsKey_of_isBlank {c : Char} (blank : isBlank c = true) : endsKey c = false := by
  by_contra ends
  simp only [endsKey, Bool.not_eq_false, Bool.or_eq_true, beq_iff_eq] at ends
  rcases ends with (rfl | rfl) | rfl <;> exact absurd blank (by decide)

theorem endsValue_of_isBlank {c : Char} (blank : isBlank c = true) : endsValue c = false := by
  by_contra ends
  simp only [endsValue, Bool.not_eq_false, Bool.or_eq_true, beq_iff_eq] at ends
  rcases ends with rfl | rfl <;> exact absurd blank (by decide)

theorem cons_ne_of_isBlank {c d : Char} (blank : isBlank c = true) (visible : isBlank d = false)
    (rest behind : List Char) : c :: rest ≠ d :: behind := by
  intro same
  rw [(List.cons.inj same).1, visible] at blank
  cases blank

/-- Skipping stops at the first blank that is not an ASCII blank. -/
theorem exists_skipBlanks_eq {blanks : List Char} (blank : AllBlank blanks)
    (other : ¬AllAsciiBlank blanks) (rest : List Char) :
    ∃ c more, isBlank c = true ∧ AllBlank more ∧
      skipBlanks (blanks ++ rest) = c :: (more ++ rest) := by
  obtain ⟨front, skipped, whole⟩ := exists_blanks_before blanks
  cases left : skipBlanks blanks with
  | nil =>
      rw [left, List.append_nil] at whole
      exact absurd (whole ▸ skipped) other
  | cons c more =>
      have stays := List.head?_dropWhile_not isAsciiBlank blanks
      rw [← skipBlanks, left] at stays
      rw [left] at whole
      refine ⟨c, more, blank c (by simp [whole]), fun d member => blank d (by simp [whole, member]),
        ?_⟩
      rw [whole, List.append_assoc, skipBlanks_append skipped, List.cons_append,
        skipBlanks_cons (by simpa using stays)]

/-- A quote behind such a blank belongs to a value without quotes. -/
theorem readValue_of_not_plain_before {before : List Char} (key : String) (blank : AllBlank before)
    (other : ¬AllAsciiBlank before) (rest : List Char) :
    readValue key (skipBlanks (before ++ '"' :: rest)) = .error (.strayQuote key) := by
  obtain ⟨c, more, cBlank, moreBlank, skips⟩ := exists_skipBlanks_eq blank other ('"' :: rest)
  have inValue : ∀ d ∈ c :: more, (!endsValue d) = true := by
    intro d member
    have dBlank : isBlank d = true := by
      rcases List.mem_cons.mp member with rfl | inMore
      · exact cBlank
      · exact moreBlank d inMore
    rw [endsValue_of_isBlank dBlank]
    rfl
  have quoted : '"' ∈ trim ((c :: (more ++ '"' :: rest)).takeWhile fun d => !endsValue d) := by
    rw [mem_trim_iff (by decide), ← List.cons_append, List.takeWhile_append_of_pos inValue,
      List.takeWhile_cons_of_pos (by decide)]
    simp
  rw [skips]
  unfold readValue
  split
  · next start => exact absurd start (cons_ne_of_isBlank cBlank (by decide) _ _)
  · exact if_pos (List.contains_iff_mem.mpr quoted)

/-- Behind a closing quote such a blank stands where a separator should. -/
theorem exists_readValue_of_not_plain_after {before content after : List Char} (key : String)
    (front : AllAsciiBlank before) (unquoted : '"' ∉ content) (blank : AllBlank after)
    (other : ¬AllAsciiBlank after) (rest : List Char) :
    ∃ c behind, isBlank c = true ∧
      readValue key (skipBlanks (before ++ '"' :: (content ++ '"' :: (after ++ rest)))) =
        .ok (String.ofList content, c :: behind) := by
  obtain ⟨c, more, cBlank, -, skips⟩ := exists_skipBlanks_eq blank other rest
  have cut : splitOnce (· == '"') (content ++ '"' :: (after ++ rest)) =
      some (content, after ++ rest) := by
    refine splitOnce_eq_some_iff.mpr ⟨'"', rfl, ?_, rfl⟩
    intro d member
    exact beq_false_of_ne (ne_of_mem_of_not_mem member unquoted)
  refine ⟨c, more ++ rest, cBlank, ?_⟩
  rw [skipBlanks_append front, skipBlanks_cons (by decide), readValue, cut]
  simp only [skips]

/-- A value that is not plain is refused, or a blank is left behind it. -/
theorem readValue_of_not_plain {written : WrittenValue} (key : String) (loose : written.IsLoose)
    (other : ¬written.IsPlain) (rest : List Char) :
    (∃ fault, readValue key (skipBlanks (written.text ++ rest)) = .error fault) ∨
      ∃ value c behind, isBlank c = true ∧
        readValue key (skipBlanks (written.text ++ rest)) = .ok (value, c :: behind) := by
  cases written with
  | bare written => exact absurd trivial other
  | quoted before content after =>
      obtain ⟨front, unquoted, back⟩ := loose
      simp only [WrittenValue.text, List.append_assoc, List.cons_append]
      by_cases plain : AllAsciiBlank before
      · have otherAfter : ¬AllAsciiBlank after := fun plainAfter => other ⟨plain, plainAfter⟩
        obtain ⟨c, behind, blank, reads⟩ :=
          exists_readValue_of_not_plain_after key plain unquoted back otherAfter rest
        exact .inr ⟨_, c, behind, blank, reads⟩
      · exact .inl ⟨_, readValue_of_not_plain_before key front plain _⟩

/-- So is a parameter with such a value. -/
theorem readParameter_of_not_plain {written : WrittenParameter} (loose : written.IsLoose)
    (other : ¬written.value.IsPlain) (rest : List Char) :
    (∃ fault, readParameter (written.text ++ rest) = .error fault) ∨
      ∃ found c behind, isBlank c = true ∧
        readParameter (written.text ++ rest) = .ok (found, c :: behind) := by
  obtain ⟨noEquals, noComma, noClose, named, value⟩ := loose
  have inKey := mem_iff_endsKey.mpr ⟨noEquals, noComma, noClose⟩
  have outside : (!endsKey '=') = false := by decide
  rw [readParameter, WrittenParameter.text, List.append_assoc, List.cons_append,
    takeWhile_append_cons inKey outside, dropWhile_append_cons inKey outside]
  simp only [if_neg named]
  obtain ⟨fault, refused⟩ | ⟨found, c, behind, blank, reads⟩ :=
    readValue_of_not_plain (String.ofList (trim written.key)) value other rest
  · exact .inl ⟨fault, by rw [refused]⟩
  · exact .inr ⟨_, c, behind, blank, by rw [reads]⟩

/-- A blank is no separator behind the value of a parameter. -/
theorem exists_readParameters_of_not_plain_first (known : OrderedMap String)
    {written : WrittenParameter} (loose : written.IsLoose) (other : ¬written.value.IsPlain)
    (rest : List Char) :
    ∃ fault, readParameters known (written.text ++ rest) = .error fault := by
  rw [readParameters_eq]
  obtain ⟨fault, refused⟩ | ⟨⟨key, value⟩, c, behind, blank, reads⟩ :=
    readParameter_of_not_plain loose other rest
  · exact ⟨fault, by rw [refused]⟩
  · rw [reads]
    dsimp only
    split
    · exact ⟨_, rfl⟩
    · split
      · next start => exact absurd start (cons_ne_of_isBlank blank (by decide) _ _)
      · next start => exact absurd start (cons_ne_of_isBlank blank (by decide) _ _)
      · exact ⟨_, rfl⟩
      · exact ⟨_, rfl⟩

theorem exists_readParameters_of_not_plain (known : OrderedMap String) {first : WrittenParameter}
    {others : List WrittenParameter} (loose : ∀ written ∈ first :: others, written.IsLoose)
    (other : ¬∀ written ∈ first :: others, written.value.IsPlain) (rest : List Char) :
    ∃ fault, readParameters known (WrittenParameter.joined first others ++ ')' :: rest) =
      .error fault := by
  -- The parameters before the first one that is not plain are read, and only add to what is known.
  induction others generalizing known first with
  | nil =>
      have firstOther : ¬first.value.IsPlain := by simpa using other
      exact exists_readParameters_of_not_plain_first known (loose first (by simp)) firstOther _
  | cons second others ih =>
      obtain ⟨firstLoose, othersLoose⟩ := List.forall_mem_cons.mp loose
      rw [WrittenParameter.joined, List.append_assoc]
      by_cases plain : first.value.IsPlain
      · have valid : first.IsValid := WrittenParameter.isValid_iff.mpr ⟨firstLoose, plain⟩
        have othersOther : ¬∀ written ∈ second :: others, written.value.IsPlain :=
          fun all => other (List.forall_mem_cons.mpr ⟨plain, all⟩)
        obtain ⟨fault, refused⟩ :=
          ih (known.insert first.meaning.1 first.meaning.2) othersLoose othersOther
        rw [List.cons_append, readParameters_eq, readParameter_text valid (by decide)]
        dsimp only
        split
        · exact ⟨_, rfl⟩
        · exact ⟨fault, (readParameters_skipBlanks _ _).trans refused⟩
      · exact exists_readParameters_of_not_plain_first known firstLoose plain _

theorem exists_readParameterList_of_not_plain {list : WrittenList} (loose : list.IsLoose)
    (other : ¬list.IsPlain) (rest : List Char) :
    ∃ fault, readParameterList (list.text ++ ')' :: rest) = .error fault := by
  cases list with
  | blank blanks =>
      obtain ⟨c, more, cBlank, moreBlank, skips⟩ := exists_skipBlanks_eq loose other (')' :: rest)
      have allBlank : AllBlank (c :: more) := List.forall_mem_cons.mpr ⟨cBlank, moreBlank⟩
      have inKey : ∀ d ∈ c :: more, (!endsKey d) = true := by
        intro d member
        rw [endsKey_of_isBlank (allBlank d member)]
        rfl
      have outside : (!endsKey ')') = false := by decide
      refine ⟨.emptyKey, ?_⟩
      rw [WrittenList.text, readParameterList, skips]
      split
      · next start => exact absurd start (cons_ne_of_isBlank cBlank (by decide) _ _)
      · rw [readParameters_eq, readParameter, ← List.cons_append,
          takeWhile_append_cons inKey outside, dropWhile_append_cons inKey outside]
        simp only [trim_eq_nil_iff.mpr allBlank, if_pos]
        rfl
  | filled first others =>
      obtain ⟨allLoose, -⟩ := loose
      obtain ⟨tail, start⟩ := exists_joined_eq first others
      have noClose : ')' ∉ first.key := (allLoose first (by simp)).2.2.1
      rw [WrittenList.text, readParameterList]
      split
      · next closing =>
          rw [start, List.append_assoc, List.cons_append] at closing
          exact absurd closing (skipBlanks_key_ne_close noClose _ _)
      · rw [readParameters_skipBlanks]
        exact exists_readParameters_of_not_plain .empty allLoose other rest

/-- A call is refused for what its parameter list is refused for. -/
theorem read_text_of_error {written : WrittenCall} {fault : CallFault}
    (named : isName written.name = true) (blank : AllBlank written.gap)
    (refused : readParameterList (written.list.text ++ [')']) = .error fault) :
    read written.text = .error fault := by
  rw [read, splitOnce_text named blank]
  simp only [trim_name_append named blank, if_pos named, refused]

theorem exists_read_of_not_plain {written : WrittenCall} (loose : written.IsLoose)
    (other : ¬written.list.IsPlain) : ∃ fault, read written.text = .error fault := by
  obtain ⟨named, blank, listLoose⟩ := loose
  obtain ⟨fault, refused⟩ := exists_readParameterList_of_not_plain listLoose other []
  exact ⟨fault, read_text_of_error named blank refused⟩

end Call

end Workflow
