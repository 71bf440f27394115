import Workflow.Proofs.Call.WrittenForm
import Workflow.Proofs.OrderedMap

/-!
# What reading a call accepts

The readers of values, parameters and parameter lists accept exactly the texts of valid written
forms, and what they return is the meaning of the form.  `read_text` and `exists_written_of_read`
put this together for whole calls.
-/

namespace Workflow.Call

open Text

/-! ## Blanks between tokens -/

theorem endsKey_of_isAsciiBlank {c : Char} (blank : isAsciiBlank c = true) :
    endsKey c = false := by
  simp only [isAsciiBlank, Bool.or_eq_true, beq_iff_eq] at blank
  rcases blank with (((rfl | rfl) | rfl) | rfl) | rfl <;> decide

theorem endsValue_of_isAsciiBlank {c : Char} (blank : isAsciiBlank c = true) :
    endsValue c = false := by
  simp only [isAsciiBlank, Bool.or_eq_true, beq_iff_eq] at blank
  rcases blank with (((rfl | rfl) | rfl) | rfl) | rfl <;> decide

theorem exists_blanks_before (text : List Char) :
    ∃ blanks, AllAsciiBlank blanks ∧ text = blanks ++ skipBlanks text :=
  ⟨text.takeWhile isAsciiBlank, allAsciiBlank_takeWhile text,
    (List.takeWhile_append_dropWhile).symm⟩

theorem skipBlanks_append {blanks : List Char} (blank : AllAsciiBlank blanks)
    (text : List Char) : skipBlanks (blanks ++ text) = skipBlanks text :=
  List.dropWhile_append_of_pos blank

theorem skipBlanks_cons {c : Char} (other : isAsciiBlank c = false) (text : List Char) :
    skipBlanks (c :: text) = c :: text :=
  List.dropWhile_cons_of_neg (by simp [other])

theorem trim_skipBlanks (text : List Char) : trim (skipBlanks text) = trim text := by
  obtain ⟨blanks, blank, whole⟩ := exists_blanks_before text
  conv_rhs => rw [whole]
  rw [trim_append_left blank.allBlank]

theorem readParameter_append {blanks : List Char} (blank : AllAsciiBlank blanks)
    (text : List Char) : readParameter (blanks ++ text) = readParameter text := by
  have inKey : ∀ c ∈ blanks, (!endsKey c) = true := by
    intro c member
    rw [endsKey_of_isAsciiBlank (blank c member)]
    rfl
  rw [readParameter, readParameter, List.takeWhile_append_of_pos inKey,
    List.dropWhile_append_of_pos inKey, trim_append_left blank.allBlank]

theorem readParameter_skipBlanks (text : List Char) :
    readParameter (skipBlanks text) = readParameter text := by
  obtain ⟨blanks, blank, whole⟩ := exists_blanks_before text
  conv_rhs => rw [whole]
  rw [readParameter_append blank]

/-! ## Values -/

theorem mem_iff_endsValue {text : List Char} :
    (∀ c ∈ text, (!endsValue c) = true) ↔ ',' ∉ text ∧ ')' ∉ text := by
  constructor
  · intro inside
    constructor <;> intro member <;> exact absurd (inside _ member) (by decide)
  · rintro ⟨noComma, noClose⟩ c member
    have notComma : c ≠ ',' := fun same => noComma (same ▸ member)
    have notClose : c ≠ ')' := fun same => noClose (same ▸ member)
    simp [endsValue, notComma, notClose]

theorem mem_iff_endsKey {text : List Char} :
    (∀ c ∈ text, (!endsKey c) = true) ↔ '=' ∉ text ∧ ',' ∉ text ∧ ')' ∉ text := by
  constructor
  · intro inside
    refine ⟨?_, ?_, ?_⟩ <;> intro member <;> exact absurd (inside _ member) (by decide)
  · rintro ⟨noEquals, noComma, noClose⟩ c member
    have notEquals : c ≠ '=' := fun same => noEquals (same ▸ member)
    have notComma : c ≠ ',' := fun same => noComma (same ▸ member)
    have notClose : c ≠ ')' := fun same => noClose (same ▸ member)
    simp [endsKey, notEquals, notComma, notClose]

theorem readValue_text {written : WrittenValue} (valid : written.IsValid) {separator : Char}
    (ends : endsValue separator = true) (key : String) (rest : List Char) :
    readValue key (skipBlanks (written.text ++ separator :: rest)) =
      .ok (String.ofList written.content, separator :: rest) := by
  have notBlank : isAsciiBlank separator = false := by
    cases blank : isAsciiBlank separator with
    | false => rfl
    | true => rw [endsValue_of_isAsciiBlank blank] at ends; cases ends
  cases written with
  | quoted before content after =>
      obtain ⟨beforeBlank, unquoted, afterBlank⟩ := valid
      have cut : splitOnce (· == '"') (content ++ '"' :: (after ++ separator :: rest)) =
          some (content, after ++ separator :: rest) := by
        refine splitOnce_eq_some_iff.mpr ⟨'"', rfl, ?_, rfl⟩
        intro c member
        have other : c ≠ '"' := fun same => unquoted (same ▸ member)
        simpa using other
      simp only [WrittenValue.text, List.append_assoc, List.cons_append]
      rw [skipBlanks_append beforeBlank, skipBlanks_cons (by decide), readValue, cut]
      simp only [skipBlanks_append afterBlank, skipBlanks_cons notBlank]
      rfl
  | bare written =>
      obtain ⟨noComma, noClose, noQuote, unquoted⟩ := valid
      have inside := mem_iff_endsValue.mpr ⟨noComma, noClose⟩
      have outside : (!endsValue separator) = false := by rw [ends]; rfl
      obtain ⟨blanks, blank, whole⟩ := exists_blanks_before written
      have start : skipBlanks (written ++ separator :: rest) =
          skipBlanks written ++ separator :: rest := by
        conv_lhs => rw [whole, List.append_assoc, skipBlanks_append blank]
        cases skipped : skipBlanks written with
        | nil => exact skipBlanks_cons notBlank rest
        | cons c others =>
            have stays := List.head?_dropWhile_not isAsciiBlank written
            rw [show written.dropWhile isAsciiBlank = c :: others from skipped] at stays
            exact skipBlanks_cons (by simpa using stays) _
      have inRest : ∀ c ∈ skipBlanks written, (!endsValue c) = true := by
        intro c member
        exact inside c ((List.dropWhile_sublist _).subset member)
      simp only [WrittenValue.text, start, readValue]
      split
      · next found =>
          exfalso
          apply noQuote
          cases skipped : skipBlanks written with
          | nil =>
              rw [skipped, List.nil_append, List.cons.injEq] at found
              rw [found.1] at ends
              exact absurd ends (by decide)
          | cons c others =>
              rw [skipped, List.cons_append, List.cons.injEq] at found
              rw [found.1]
              rfl
      · rw [takeWhile_append_cons inRest outside, dropWhile_append_cons inRest outside,
          trim_skipBlanks]
        simp [unquoted, WrittenValue.content]

/-- A run at the front of a text without leading blanks starts like the text. -/
theorem head?_skipBlanks_takeWhile {accept : Char → Bool} {text : List Char} {c : Char}
    (first : (skipBlanks ((skipBlanks text).takeWhile accept)).head? = some c) :
    (skipBlanks text).head? = some c := by
  have stays := List.head?_dropWhile_not isAsciiBlank text
  rw [← skipBlanks] at stays
  cases skipped : skipBlanks text with
  | nil =>
      rw [skipped, List.takeWhile_nil] at first
      cases first
  | cons d others =>
      rw [skipped] at first stays
      by_cases accepted : accept d = true
      · rw [List.takeWhile_cons_of_pos accepted, skipBlanks_cons (by simpa using stays)] at first
        simpa using first
      · rw [List.takeWhile_cons_of_neg accepted] at first
        cases first

/-- A value without quotes, read up to its end, is valid with any blanks in front. -/
theorem bare_isValid {blanks text : List Char} (blank : AllAsciiBlank blanks)
    (noQuote : (skipBlanks text).head? ≠ some '"')
    (unquoted : '"' ∉ trim ((skipBlanks text).takeWhile fun c => !endsValue c)) :
    (WrittenValue.bare (blanks ++ (skipBlanks text).takeWhile fun c => !endsValue c)).IsValid := by
  have inside := mem_iff_endsValue.mp
    (fun c member => List.mem_takeWhile_imp (l := skipBlanks text) member)
  refine ⟨?_, ?_, ?_, ?_⟩
  · intro member
    rcases List.mem_append.mp member with inBlanks | inValue
    · exact absurd (blank _ inBlanks) (by decide)
    · exact inside.1 inValue
  · intro member
    rcases List.mem_append.mp member with inBlanks | inValue
    · exact absurd (blank _ inBlanks) (by decide)
    · exact inside.2 inValue
  · rw [skipBlanks_append blank]
    exact fun first => noQuote (head?_skipBlanks_takeWhile first)
  · rwa [trim_append_left blank.allBlank]

theorem exists_written_of_readValue {key value : String} {text rest : List Char}
    (read : readValue key (skipBlanks text) = .ok (value, rest)) :
    ∃ written : WrittenValue, written.IsValid ∧ text = written.text ++ rest ∧
      value = String.ofList written.content := by
  obtain ⟨blanks, blank, whole⟩ := exists_blanks_before text
  unfold readValue at read
  split at read
  · next inner start =>
      split at read
      · cases read
      · next content after cut =>
          cases read
          obtain ⟨quote, isQuote, unquoted, inQuotes⟩ := splitOnce_eq_some_iff.mp cut
          obtain ⟨afterBlanks, afterBlank, afterWhole⟩ := exists_blanks_before after
          rw [beq_iff_eq] at isQuote
          refine ⟨.quoted blanks content afterBlanks, ⟨blank, ?_, afterBlank⟩, ?_, rfl⟩
          · intro member
            exact absurd (unquoted _ member) (by decide)
          · rw [whole, start, inQuotes, isQuote]
            conv_lhs => rw [afterWhole]
            simp [WrittenValue.text]
  · next noQuote =>
      dsimp only at read
      split at read
      · cases read
      · next unquoted =>
          cases read
          have taken := List.takeWhile_append_dropWhile (p := fun c => !endsValue c)
            (l := skipBlanks text)
          refine ⟨.bare (blanks ++ (skipBlanks text).takeWhile fun c => !endsValue c),
            bare_isValid blank ?_ (by simpa using unquoted), ?_, ?_⟩
          · intro first
            obtain ⟨inner, start⟩ := List.head?_eq_some_iff.mp first
            exact noQuote inner start
          · rw [WrittenValue.text, List.append_assoc, taken]
            exact whole
          · rw [WrittenValue.content, trim_append_left blank.allBlank]

/-! ## Parameters -/

/-- A valid parameter in front of a separator is read. -/
theorem readParameter_text {written : WrittenParameter} (valid : written.IsValid)
    {separator : Char} (ends : endsValue separator = true) (rest : List Char) :
    readParameter (written.text ++ separator :: rest) =
      .ok (written.meaning, separator :: rest) := by
  obtain ⟨noEquals, noComma, noClose, named, valueValid⟩ := valid
  have inKey := mem_iff_endsKey.mpr ⟨noEquals, noComma, noClose⟩
  have outside : (!endsKey '=') = false := by decide
  rw [readParameter, WrittenParameter.text, List.append_assoc, List.cons_append,
    takeWhile_append_cons inKey outside, dropWhile_append_cons inKey outside]
  simp only [if_neg named, readValue_text valueValid ends]
  rfl

theorem exists_written_of_readParameter {found : String × String} {text rest : List Char}
    (read : readParameter text = .ok (found, rest)) :
    ∃ written : WrittenParameter, written.IsValid ∧ text = written.text ++ rest ∧
      found = written.meaning := by
  have whole := List.takeWhile_append_dropWhile (p := fun c => !endsKey c) (l := text)
  have inside := mem_iff_endsKey.mp (fun c member => List.mem_takeWhile_imp (l := text) member)
  unfold readParameter at read
  split at read
  · cases read
  · next after split =>
      dsimp only at read
      split at read
      · cases read
      · next named =>
          split at read
          · cases read
          · next value readAfter valueRead =>
              cases read
              obtain ⟨written, valid, afterWhole, meant⟩ := exists_written_of_readValue valueRead
              refine ⟨⟨text.takeWhile fun c => !endsKey c, written⟩,
                ⟨inside.1, inside.2.1, inside.2.2, named, valid⟩, ?_, ?_⟩
              · rw [WrittenParameter.text, List.append_assoc, List.cons_append, ← afterWhole,
                  ← split, whole]
              · rw [WrittenParameter.meaning, meant]
  · dsimp only at read
    split at read <;> cases read

/-! ## Parameter lists -/

/-- The parameters of a text are its first one and, behind a comma, those of the rest. -/
theorem readParameters_eq (known : OrderedMap String) (text : List Char) :
    readParameters known text =
      match readParameter text with
      | .error fault => .error fault
      | .ok ((key, value), rest) =>
          if known.contains key then .error (.duplicateKey key)
          else
            match rest with
            | ',' :: rest => readParameters (known.insert key value) (skipBlanks rest)
            | ')' :: rest => .ok (known.insert key value, rest)
            | [] => .error .missingClose
            | _ => .error (.separatorExpected key) := by
  rw [readParameters]
  split
  · next fault read => rw [read]
  · next key value rest read =>
      conv_rhs => rw [read]
      dsimp only
      split
      · rfl
      · cases rest with
        | nil => rfl
        | cons c others =>
            by_cases comma : c = ','
            · subst comma
              rfl
            · by_cases closing : c = ')'
              · subst closing
                rfl
              · have last : afterComma? (c :: others) = none := by simp [afterComma?, comma]
                split
                · next start found =>
                    rw [last] at found
                    cases found
                · simp [endOfList, comma, closing]

theorem readParameters_skipBlanks (known : OrderedMap String) (text : List Char) :
    readParameters known (skipBlanks text) = readParameters known text := by
  rw [readParameters_eq, readParameters_eq known text, readParameter_skipBlanks]

/-- A key that is to follow others is new to them. -/
theorem not_contains_of_nodup {known : OrderedMap String} {key : String} {keys : List String}
    (distinct : (known.entries.map Prod.fst ++ key :: keys).Nodup) :
    known.contains key = false := by
  rw [Bool.eq_false_iff, ne_eq, OrderedMap.contains_iff_mem_keys]
  intro present
  rw [List.nodup_append] at distinct
  exact distinct.2.2 key present key (by simp) rfl

theorem readParameters_joined (known : OrderedMap String) {first : WrittenParameter}
    {others : List WrittenParameter} (valid : ∀ written ∈ first :: others, written.IsValid)
    (distinct : (known.entries.map Prod.fst ++
      ((first :: others).map WrittenParameter.meaning).map Prod.fst).Nodup)
    (rest : List Char) :
    ∃ map, readParameters known (WrittenParameter.joined first others ++ ')' :: rest) =
        .ok (map, rest) ∧
      map.entries = known.entries ++ (first :: others).map WrittenParameter.meaning := by
  induction others generalizing known first with
  | nil =>
      have absent := not_contains_of_nodup distinct
      have added := OrderedMap.entries_insert_of_not_contains absent first.meaning.2
      refine ⟨known.insert first.meaning.1 first.meaning.2, ?_, by simpa using added⟩
      rw [WrittenParameter.joined, readParameters_eq,
        readParameter_text (valid first (by simp)) (by decide)]
      simp [absent]
  | cons second others ih =>
      have absent := not_contains_of_nodup distinct
      have added := OrderedMap.entries_insert_of_not_contains absent first.meaning.2
      have restValid : ∀ written ∈ second :: others, written.IsValid := by
        intro written member
        exact valid written (List.mem_cons_of_mem _ member)
      obtain ⟨map, read, entries⟩ :=
        ih (known.insert first.meaning.1 first.meaning.2) restValid
          (by simpa [added] using distinct)
      refine ⟨map, ?_, by simp [entries, added]⟩
      rw [WrittenParameter.joined, List.append_assoc, List.cons_append, readParameters_eq,
        readParameter_text (valid first (by simp)) (by decide)]
      simpa [absent, readParameters_skipBlanks] using read

/-- Whatever is read as parameters has valid written forms. -/
theorem exists_written_of_readParameters {known map : OrderedMap String} {text rest : List Char}
    (read : readParameters known text = .ok (map, rest)) :
    ∃ first others, (∀ written ∈ first :: others, WrittenParameter.IsValid written) ∧
      text = WrittenParameter.joined first others ++ ')' :: rest ∧
      map.entries = known.entries ++ (first :: others).map WrittenParameter.meaning := by
  induction size : text.length using Nat.strong_induction_on generalizing known text with
  | _ size ih =>
      rw [readParameters_eq] at read
      split at read
      · cases read
      · next key value after parameterRead =>
          obtain ⟨written, valid, whole, meant⟩ := exists_written_of_readParameter parameterRead
          have shorter := length_readParameter parameterRead
          split at read
          · cases read
          · next absent =>
              have added := OrderedMap.entries_insert_of_not_contains
                (by simpa using absent : known.contains key = false) value
              split at read
              · next behind =>
                  rw [readParameters_skipBlanks] at read
                  rw [List.length_cons] at shorter
                  obtain ⟨second, others, othersValid, behindWhole, entries⟩ :=
                    ih behind.length (by omega) read rfl
                  refine ⟨written, second :: others, ?_, ?_, ?_⟩
                  · intro one member
                    rcases List.mem_cons.mp member with rfl | inOthers
                    · exact valid
                    · exact othersValid one inOthers
                  · rw [whole, behindWhole, WrittenParameter.joined]
                    simp
                  · rw [entries, added, meant]
                    simp
              · next behind =>
                  cases read
                  refine ⟨written, [], ?_, ?_, ?_⟩
                  · intro one member
                    rw [List.mem_singleton.mp member]
                    exact valid
                  · rw [whole, WrittenParameter.joined]
                  · rw [added, meant]
                    rfl
              · cases read
              · cases read

theorem exists_joined_eq (first : WrittenParameter) (others : List WrittenParameter) :
    ∃ tail, WrittenParameter.joined first others = first.key ++ '=' :: tail := by
  cases others with
  | nil => exact ⟨first.value.text, rfl⟩
  | cons second others =>
      exact ⟨first.value.text ++ ',' :: WrittenParameter.joined second others, by
        simp [WrittenParameter.joined, WrittenParameter.text]⟩

/-- Behind leading blanks a parameter does not start with a closing parenthesis. -/
theorem skipBlanks_key_ne_close {key : List Char} (noClose : ')' ∉ key) (tail rest : List Char) :
    skipBlanks (key ++ '=' :: tail) ≠ ')' :: rest := by
  intro start
  obtain ⟨blanks, blank, whole⟩ := exists_blanks_before key
  rw [whole, List.append_assoc, skipBlanks_append blank] at start
  cases skipped : skipBlanks key with
  | nil =>
      rw [skipped, List.nil_append, skipBlanks_cons (by decide)] at start
      simp at start
  | cons c others =>
      have stays := List.head?_dropWhile_not isAsciiBlank key
      rw [← skipBlanks, skipped] at stays
      rw [skipped, List.cons_append, skipBlanks_cons (by simpa using stays),
        List.cons.injEq] at start
      apply noClose
      rw [whole, skipped, start.1]
      simp

theorem readParameterList_text {list : WrittenList} (valid : list.IsValid) (rest : List Char) :
    ∃ map, readParameterList (list.text ++ ')' :: rest) = .ok (map, rest) ∧
      map.entries = list.meaning := by
  cases list with
  | blank blanks =>
      refine ⟨.empty, ?_, rfl⟩
      rw [WrittenList.text, readParameterList, skipBlanks_append valid,
        skipBlanks_cons (by decide)]
      rfl
  | filled first others =>
      obtain ⟨allValid, distinct⟩ := valid
      obtain ⟨map, read, entries⟩ :=
        readParameters_joined .empty allValid (by simpa using distinct) rest
      refine ⟨map, ?_, entries⟩
      obtain ⟨tail, start⟩ := exists_joined_eq first others
      have noClose : ')' ∉ first.key := (allValid first (by simp)).2.2.1
      rw [WrittenList.text, readParameterList]
      split
      · next closing =>
          rw [start, List.append_assoc, List.cons_append] at closing
          exact absurd closing (skipBlanks_key_ne_close noClose _ _)
      · rw [readParameters_skipBlanks]
        exact read

theorem exists_written_of_readParameterList {map : OrderedMap String} {text rest : List Char}
    (read : readParameterList text = .ok (map, rest)) :
    ∃ list : WrittenList, list.IsValid ∧ text = list.text ++ ')' :: rest ∧
      map.entries = list.meaning := by
  obtain ⟨blanks, blank, whole⟩ := exists_blanks_before text
  simp only [readParameterList] at read
  split at read
  · next closing =>
      cases read
      exact ⟨.blank blanks, blank, by rw [WrittenList.text, ← closing]; exact whole, rfl⟩
  · rw [readParameters_skipBlanks] at read
    obtain ⟨first, others, valid, textWhole, entries⟩ := exists_written_of_readParameters read
    rw [OrderedMap.entries_empty, List.nil_append] at entries
    refine ⟨.filled first others, ⟨valid, ?_⟩, textWhole, entries⟩
    rw [← entries]
    exact map.distinct

/-! ## Calls -/

theorem isBlank_of_isNameCharacter {c : Char} (inName : isNameCharacter c = true) :
    isBlank c = false := by
  simp only [isNameCharacter, isAsciiAlphanumeric, Bool.or_eq_true, Bool.and_eq_true,
    decide_eq_true_eq, beq_iff_eq, Char.le_def, UInt32.le_iff_toNat_le] at inName
  simp only [isBlank, inRanges, blankRanges, List.any_cons, List.any_nil]
  simp only [Bool.or_false, Bool.or_eq_false_iff, Bool.and_eq_false_iff, decide_eq_false_iff_not]
  rcases inName with ((lower | upper) | digit) | rfl
  · simp at lower; omega
  · simp at upper; omega
  · simp at digit; omega
  · decide

theorem notMem_of_all {accept : Char → Bool} {text : List Char} (all : text.all accept = true)
    {c : Char} (refused : accept c = false) : c ∉ text := by
  intro member
  rw [List.all_eq_true.mp all c member] at refused
  cases refused

theorem trim_name_append {name gap : List Char} (named : isName name = true)
    (blank : AllBlank gap) : trim (name ++ gap) = name := by
  obtain ⟨-, inName⟩ := Bool.and_eq_true_iff.mp named
  have visible : ∀ c ∈ name, isBlank c = false := by
    intro c member
    exact isBlank_of_isNameCharacter (List.all_eq_true.mp inName c member)
  rw [trim_append_right name blank]
  apply trim_eq_self
  · intro c first
    exact visible c (List.mem_of_mem_head? first)
  · intro c last
    exact visible c (List.mem_of_mem_getLast? last)

theorem openParenthesis_notMem {name gap : List Char} (named : isName name = true)
    (blank : AllBlank gap) : '(' ∉ name ++ gap := by
  intro member
  rcases List.mem_append.mp member with inName | inGap
  · exact notMem_of_all (Bool.and_eq_true_iff.mp named).2 (by decide) inName
  · exact absurd (blank _ inGap) (by decide)

theorem splitOnce_text {written : WrittenCall} (named : isName written.name = true)
    (blank : AllBlank written.gap) :
    splitOnce (· == '(') written.text =
      some (written.name ++ written.gap, written.list.text ++ [')']) := by
  refine splitOnce_eq_some_iff.mpr ⟨'(', rfl, ?_, by simp [WrittenCall.text]⟩
  intro c member
  have other : c ≠ '(' := fun same => openParenthesis_notMem named blank (same ▸ member)
  simpa using other

/-- The text of a valid call is read as what it means. -/
theorem read_text {written : WrittenCall} (valid : written.IsValid) :
    ∃ parameters, read written.text = .ok ⟨String.ofList written.name, parameters⟩ ∧
      parameters.entries = written.list.meaning := by
  obtain ⟨named, blank, listValid⟩ := valid
  obtain ⟨parameters, listRead, entries⟩ := readParameterList_text listValid []
  refine ⟨parameters, ?_, entries⟩
  rw [read, splitOnce_text named blank]
  simp only [trim_name_append named blank, if_pos named, listRead, trim_nil]

theorem exists_written_of_read {line : List Char} {call : Call} (trimmed : trim line = line)
    (lineRead : read line = .ok call) :
    ∃ written : WrittenCall, written.IsValid ∧ written.text = line ∧
      String.ofList written.name = call.name ∧
      written.list.meaning = call.parameters.entries := by
  unfold read at lineRead
  split at lineRead
  · cases lineRead
  · next before rest cut =>
      obtain ⟨parenthesis, isOpen, -, whole⟩ := splitOnce_eq_some_iff.mp cut
      rw [beq_iff_eq] at isOpen
      dsimp only at lineRead
      split at lineRead
      · next named =>
          split at lineRead
          · cases lineRead
          · next parameters behind listRead =>
              split at lineRead
              · next nothing =>
                  cases lineRead
                  obtain ⟨list, listValid, restWhole, entries⟩ :=
                    exists_written_of_readParameterList listRead
                  obtain ⟨front, gap, frontBlank, gapBlank, beforeWhole⟩ :=
                    exists_blanks_around before
                  have front_nil : front = [] := by
                    rw [whole, beforeWhole, List.append_assoc] at trimmed
                    exact eq_nil_of_trim_append frontBlank trimmed
                  have behind_nil : behind = [] := by
                    have ending :
                        line = before ++ parenthesis :: (list.text ++ [')']) ++ behind := by
                      rw [whole, restWhole]
                      simp
                    rw [ending] at trimmed
                    exact eq_nil_of_append_trim (trim_eq_nil_iff.mp nothing) trimmed
                  refine ⟨⟨trim before, gap, list⟩, ⟨named, gapBlank, listValid⟩, ?_, rfl,
                    entries.symm⟩
                  rw [WrittenCall.text, whole, restWhole, behind_nil, isOpen]
                  conv_rhs => rw [beforeWhole, front_nil]
                  simp
              · cases lineRead
      · cases lineRead

end Workflow.Call
