import Workflow.Proofs.Delimited.RoundTrip

/-!
# The lines of delimited text

If no quoted part reaches over the end of a line, a delimited text is read line by line: every line
that is not empty makes one record, which is read as if the line stood alone.  So the records
behind the first few records are those of the lines behind as many lines that are not empty, and
they are those behind as many lines only if none of these is empty or no record follows.
-/

namespace Workflow.Delimited

variable {σ : Type} [BEq σ] {symbols : Symbols σ}

/-- The lines of an input.  A line ends at a carriage return, at a line feed, or at the two of them
in this order; behind the end of the last line there is no further one. -/
def lines (symbols : Symbols σ) : List σ → List (List σ)
  | [] => []
  | symbol :: rest =>
      if symbols.endsLine symbol then
        -- the line feed behind a carriage return ends the line
        if symbol == symbols.carriageReturn && rest.head? == some symbols.lineFeed then
          lines symbols rest
        else [] :: lines symbols rest
      else
        match lines symbols rest with
        | [] => [[symbol]]
        | line :: others => (symbol :: line) :: others

/-- Where the reader is behind a symbol. -/
def behind (symbols : Symbols σ) (mode : Mode) (symbol : σ) : Mode :=
  match move symbols mode symbol with
  | .skip next | .add next => next
  | .endField => .beforeField
  | .endRecord => .beforeRecord

/-- Whether no line of the input ends inside of quotes. -/
def staysInLines (symbols : Symbols σ) : Mode → List σ → Bool
  | _, [] => true
  | mode, symbol :: rest =>
      !(mode = .quoted && symbols.endsLine symbol) &&
        staysInLines symbols (behind symbols mode symbol) rest

/-- Whether every quoted part of the input is closed on the line on which it was opened, except
that the last one may be left open at the end of the input. -/
def isLinewise (symbols : Symbols σ) (input : List σ) : Bool :=
  staysInLines symbols .beforeRecord input

/-- The fields on a line that stands alone. -/
def fieldsOn (symbols : Symbols σ) (line : List σ) : List (List σ) :=
  (records symbols line).headD []

example : lines (.characters ',') "a,b\r\n\r\n\"c\"\rd\n".toList =
    ["a,b".toList, [], "\"c\"".toList, "d".toList] := by decide

example : isLinewise (.characters ',') "a,\"b\"\n\"c".toList = true ∧
    isLinewise (.characters ',') "a,\"b\n\"\n".toList = false := by decide

/-! ## Lines -/

/-- The pieces between line ends are the lines, with empty ones in between. -/
theorem lines_cases {input piece : List σ} {pieces : List (List σ)}
    (split : input.splitOnP symbols.endsLine = piece :: pieces) :
    (lines symbols input = [] ∧ piece = [] ∧ pieces = []) ∨
      ∃ others, lines symbols input = piece :: others ∧
        others.filter (!·.isEmpty) = pieces.filter (!·.isEmpty) := by
  induction input generalizing piece pieces with
  | nil =>
      cases split
      exact .inl ⟨rfl, rfl, rfl⟩
  | cons symbol rest ih =>
      obtain ⟨next, later, behind⟩ :=
        List.exists_cons_of_ne_nil (List.splitOnP_ne_nil symbols.endsLine rest)
      have known := ih behind
      have kept : (lines symbols rest).filter (!·.isEmpty) =
          (next :: later).filter (!·.isEmpty) := by
        obtain ⟨nothing, rfl, rfl⟩ | ⟨others, content, same⟩ := known
        · rw [nothing]
          rfl
        · rw [content, List.filter_cons, List.filter_cons, same]
      rw [List.splitOnP_cons_eq_if_modifyHead, behind] at split
      rw [lines]
      split at split
      · cases split
        rw [if_pos ‹_›]
        split
        · next both =>
            -- the line feed comes next, so that the next piece is empty
            rw [Bool.and_eq_true] at both
            obtain ⟨feed, after, rfl⟩ : ∃ feed after, rest = feed :: after := by
              cases rest with
              | nil => cases both.2
              | cons feed after => exact ⟨feed, after, rfl⟩
            have ends : symbols.endsLine feed = true := by
              rw [Symbols.endsLine, Bool.or_eq_true]
              exact .inr both.2
            rw [List.splitOnP_cons_eq_if_modifyHead, if_pos ends, List.cons.injEq] at behind
            obtain ⟨rfl, rfl⟩ := behind
            obtain ⟨-, -, none⟩ | ⟨others, content, same⟩ := known
            · exact absurd none (List.splitOnP_ne_nil _ _)
            · rw [List.filter_cons_of_neg (by simp), ← same]
              exact .inr ⟨others, content, rfl⟩
        · exact .inr ⟨_, rfl, kept⟩
      · cases split
        rw [if_neg ‹_›]
        obtain ⟨nothing, rfl, rfl⟩ | ⟨others, content, same⟩ := known
        · rw [nothing]
          exact .inr ⟨[], rfl, rfl⟩
        · rw [content]
          exact .inr ⟨others, rfl, same⟩

theorem filter_lines (symbols : Symbols σ) (input : List σ) :
    (lines symbols input).filter (!·.isEmpty) =
      (input.splitOnP symbols.endsLine).filter (!·.isEmpty) := by
  obtain ⟨piece, pieces, split⟩ :=
    List.exists_cons_of_ne_nil (List.splitOnP_ne_nil symbols.endsLine input)
  rw [split]
  obtain ⟨nothing, rfl, rfl⟩ | ⟨others, content, same⟩ := lines_cases split
  · rw [nothing]
    rfl
  · rw [content, List.filter_cons, List.filter_cons, same]

/-- No line holds the end of a line. -/
theorem endsLine_of_mem_lines {input line : List σ} (member : line ∈ lines symbols input) :
    ∀ symbol ∈ line, symbols.endsLine symbol = false := by
  induction input generalizing line with
  | nil => cases member
  | cons symbol rest ih =>
      rw [lines] at member
      split at member
      · split at member
        · exact ih member
        · rcases List.mem_cons.mp member with rfl | member
          · exact List.forall_mem_nil _
          · exact ih member
      · next inside =>
          have inside : symbols.endsLine symbol = false := by simpa using inside
          cases content : lines symbols rest with
          | nil =>
              rw [content, List.mem_singleton] at member
              rw [member, List.forall_mem_singleton]
              exact inside
          | cons first others =>
              rw [content] at member ih
              rcases List.mem_cons.mp member with rfl | member
              · rw [List.forall_mem_cons]
                exact ⟨inside, ih List.mem_cons_self⟩
              · exact ih (List.mem_cons_of_mem _ member)

/-! ## Moves -/

/-- A symbol that ends no line leaves the reader within the record. -/
theorem move_cases {symbol : σ} (inside : symbols.endsLine symbol = false) (mode : Mode) :
    (∃ next, next ≠ .beforeRecord ∧
      (move symbols mode symbol = .skip next ∨ move symbols mode symbol = .add next)) ∨
    move symbols mode symbol = .endField := by
  have plain : plainMove symbols symbol = .add .unquoted ∨
      plainMove symbols symbol = .endField := by
    rw [plainMove, inside]
    split
    · exact .inr rfl
    · exact .inl rfl
  have unquoted : Mode.unquoted ≠ .beforeRecord := by decide
  have quoted : Mode.quoted ≠ .beforeRecord := by decide
  have afterQuote : Mode.afterQuote ≠ .beforeRecord := by decide
  simp only [move, fieldMove]
  cases mode with
  | beforeRecord | beforeField | unquoted | quoted | afterQuote => grind

section

variable [LawfulBEq σ]

/-- The end of a line outside of quotes ends the record at hand, if there is one. -/
theorem move_of_endsLine (delimiter : symbols.endsLine symbols.delimiter = false)
    (quote : symbols.endsLine symbols.quote = false) {mode : Mode} {symbol : σ}
    (ends : symbols.endsLine symbol = true) (outside : mode ≠ .quoted) :
    move symbols mode symbol =
      if mode = .beforeRecord then .skip .beforeRecord else .endRecord := by
  have noDelimiter : (symbol == symbols.delimiter) = false := by
    rw [beq_eq_false_iff_ne]
    rintro rfl
    rw [delimiter] at ends
    cases ends
  have noQuote : (symbol == symbols.quote) = false := by
    rw [beq_eq_false_iff_ne]
    rintro rfl
    rw [quote] at ends
    cases ends
  cases mode with
  | beforeRecord => simp [move, ends]
  | quoted => exact absurd rfl outside
  | beforeField | unquoted | afterQuote =>
      simp [move, fieldMove, plainMove, noDelimiter, noQuote, ends]

theorem behind_of_endsLine (delimiter : symbols.endsLine symbols.delimiter = false)
    (quote : symbols.endsLine symbols.quote = false) {mode : Mode} {symbol : σ}
    (ends : symbols.endsLine symbol = true) (outside : mode ≠ .quoted) :
    behind symbols mode symbol = .beforeRecord := by
  rw [behind, move_of_endsLine delimiter quote ends outside]
  by_cases between : mode = .beforeRecord
  · rw [if_pos between]
  · rw [if_neg between]

end

/-! ## Records -/

/-- The fields of the records do not depend on the input that is taken for their start. -/
theorem map_fields_readFrom_start (symbols : Symbols σ) (mode : Mode) (field : List σ)
    (fields : List (List σ)) (start other input : List σ) :
    (readFrom symbols mode field fields start input).map (·.fields) =
      (readFrom symbols mode field fields other input).map (·.fields) := by
  induction input generalizing mode field fields with
  | nil => cases mode <;> rfl
  | cons symbol rest ih =>
      rw [readFrom, readFrom]
      split
      · exact ih ..
      · exact ih ..
      · exact ih ..
      · rfl

theorem exists_readFrom_of_line {line : List σ}
    (inside : ∀ symbol ∈ line, symbols.endsLine symbol = false) {mode : Mode}
    (begun : mode ≠ .beforeRecord ∨ line ≠ []) (field : List σ) (fields : List (List σ))
    (start : List σ) : ∃ reading, readFrom symbols mode field fields start line = [reading] := by
  induction line generalizing mode field fields with
  | nil =>
      have within : mode ≠ .beforeRecord := begun.resolve_right fun other => other rfl
      rw [readFrom]
      · exact ⟨_, rfl⟩
      · exact within
  | cons symbol rest ih =>
      rw [List.forall_mem_cons] at inside
      obtain ⟨next, within, moves | moves⟩ | moves := move_cases inside.1 mode
      · rw [readFrom_of_skip moves]
        exact ih inside.2 (.inl within) ..
      · rw [readFrom_of_add moves]
        exact ih inside.2 (.inl within) ..
      · have within : Mode.beforeField ≠ .beforeRecord := by decide
        rw [readFrom_of_endField moves]
        exact ih inside.2 (.inl within) ..

/-- A line that is not empty is one record. -/
theorem records_of_line {line : List σ}
    (inside : ∀ symbol ∈ line, symbols.endsLine symbol = false) (filled : line ≠ []) :
    records symbols line = [fieldsOn symbols line] := by
  obtain ⟨reading, reads⟩ := exists_readFrom_of_line inside (.inr filled) [] [] line
  rw [fieldsOn, records, readings, reads]
  rfl

section

variable [LawfulBEq σ] (delimiter : symbols.endsLine symbols.delimiter = false)
  (quote : symbols.endsLine symbols.quote = false)

include delimiter quote

/-- The record at hand goes up to the next end of a line, and behind it there is one piece of the
input after the other. -/
theorem map_fields_readFrom {mode : Mode} {field : List σ} {fields pieces : List (List σ)}
    {input piece : List σ} (split : input.splitOnP symbols.endsLine = piece :: pieces)
    (stays : staysInLines symbols mode input = true)
    (fresh : mode = .beforeRecord → field = [] ∧ fields = []) (start : List σ) :
    (readFrom symbols mode field fields start input).map (·.fields) =
      (readFrom symbols mode field fields start piece).map (·.fields) ++
        pieces.flatMap (records symbols) := by
  induction input generalizing mode field fields piece pieces start with
  | nil =>
      rw [List.splitOnP_nil] at split
      cases split
      rw [List.flatMap_nil, List.append_nil]
  | cons symbol rest ih =>
      obtain ⟨next, later, follows⟩ :=
        List.exists_cons_of_ne_nil (List.splitOnP_ne_nil symbols.endsLine rest)
      rw [List.splitOnP_cons_eq_if_modifyHead, follows] at split
      rw [staysInLines, Bool.and_eq_true] at stays
      obtain ⟨closed, stays⟩ := stays
      split at split
      · next ends =>
          cases split
          have outside : mode ≠ .quoted := by
            rintro rfl
            simp [ends] at closed
          have moves := move_of_endsLine delimiter quote ends outside
          rw [behind_of_endsLine delimiter quote ends outside] at stays
          have others (start : List σ) :
              (readFrom symbols .beforeRecord [] [] start rest).map (·.fields) =
                (next :: later).flatMap (records symbols) := by
            rw [ih follows stays (fun _ => ⟨rfl, rfl⟩), List.flatMap_cons, records, readings,
              map_fields_readFrom_start symbols .beforeRecord [] [] start next]
          by_cases between : mode = .beforeRecord
          · obtain ⟨rfl, rfl⟩ := fresh between
            rw [if_pos between] at moves
            rw [readFrom_of_skip moves, others, between]
            rfl
          · rw [if_neg between] at moves
            rw [readFrom_of_endRecord moves, List.map_cons, others]
            cases mode with
            | beforeRecord => exact absurd rfl between
            | beforeField | unquoted | quoted | afterQuote => rfl
      · next inside =>
          cases split
          obtain ⟨next, within, moves | moves⟩ | moves := move_cases (by simpa using inside) mode
          · rw [behind, moves] at stays
            rw [readFrom_of_skip moves, readFrom_of_skip moves]
            exact ih follows stays (fun here => absurd here within) start
          · rw [behind, moves] at stays
            rw [readFrom_of_add moves, readFrom_of_add moves]
            exact ih follows stays (fun here => absurd here within) start
          · rw [behind, moves] at stays
            rw [readFrom_of_endField moves, readFrom_of_endField moves]
            exact ih follows stays nofun start

/-- The records are those on the lines, one for each that is not empty. -/
theorem records_eq_map_lines {input : List σ} (linewise : isLinewise symbols input = true) :
    records symbols input =
      ((lines symbols input).filter (!·.isEmpty)).map (fieldsOn symbols) := by
  obtain ⟨piece, pieces, split⟩ :=
    List.exists_cons_of_ne_nil (List.splitOnP_ne_nil symbols.endsLine input)
  -- empty pieces have no records
  have filled (content : List (List σ)) : content.flatMap (records symbols) =
      (content.filter (!·.isEmpty)).flatMap (records symbols) := by
    induction content with
    | nil => rfl
    | cons line content ih =>
        cases line with
        | nil => exact ih
        | cons symbol rest =>
            rw [List.filter_cons_of_pos (by rfl), List.flatMap_cons, List.flatMap_cons, ih]
  calc records symbols input
    _ = (piece :: pieces).flatMap (records symbols) := by
        rw [records, readings, map_fields_readFrom delimiter quote split linewise
          (fun _ => ⟨rfl, rfl⟩), List.flatMap_cons, records, readings,
          map_fields_readFrom_start symbols .beforeRecord [] [] input piece]
    _ = ((lines symbols input).filter (!·.isEmpty)).flatMap (records symbols) := by
        rw [filled, ← split, filter_lines]
    _ = ((lines symbols input).filter (!·.isEmpty)).map (fieldsOn symbols) := by
        rw [List.map_eq_flatMap]
        apply List.flatMap_congr
        intro line member
        rw [List.mem_filter] at member
        exact records_of_line (endsLine_of_mem_lines member.1) (by simpa using member.2)

end

/-! ## Lines without quotes -/

section

variable [LawfulBEq σ]

/-- Without quotes the reader does not get into a quoted part. -/
theorem behind_ne_quoted {mode : Mode} {symbol : σ} (outside : mode ≠ .quoted)
    (other : symbol ≠ symbols.quote) : behind symbols mode symbol ≠ .quoted := by
  have noQuote : (symbol == symbols.quote) = false := beq_eq_false_iff_ne.mpr other
  cases mode with
  | quoted => exact absurd rfl outside
  | beforeRecord | beforeField | unquoted | afterQuote =>
      simp only [behind, move, fieldMove, plainMove, noQuote]
      grind

theorem staysInLines_of_notMem {input : List σ} (plain : symbols.quote ∉ input) {mode : Mode}
    (outside : mode ≠ .quoted) : staysInLines symbols mode input = true := by
  induction input generalizing mode with
  | nil => rfl
  | cons symbol rest ih =>
      rw [List.mem_cons, not_or] at plain
      have later := behind_ne_quoted outside fun same => plain.1 same.symm
      rw [staysInLines, ih plain.2 later]
      simp [outside]

/-- A text without quotes is read line by line. -/
theorem isLinewise_of_notMem {input : List σ} (plain : symbols.quote ∉ input) :
    isLinewise symbols input = true :=
  staysInLines_of_notMem plain nofun

/-- A line without quotes is cut at its delimiters. -/
theorem readFrom_of_notMem {line : List σ}
    (inside : ∀ symbol ∈ line, symbols.endsLine symbol = false) (plain : symbols.quote ∉ line)
    {mode : Mode} (within : mode = .beforeField ∨ mode = .unquoted) (field : List σ)
    (fields : List (List σ)) (start : List σ) :
    readFrom symbols mode field fields start line =
      [⟨start, fields.reverse ++
        (line.splitOn symbols.delimiter).modifyHead (field.reverse ++ ·)⟩] := by
  induction line generalizing mode field fields with
  | nil => rcases within with rfl | rfl <;> simp [readFrom]
  | cons symbol rest ih =>
      rw [List.mem_cons, not_or] at plain
      rw [List.forall_mem_cons] at inside
      have noQuote : (symbol == symbols.quote) = false :=
        beq_eq_false_iff_ne.mpr fun same => plain.1 same.symm
      have moves : move symbols mode symbol = plainMove symbols symbol := by
        rcases within with rfl | rfl <;> simp [move, fieldMove, noQuote]
      rw [plainMove, inside.1] at moves
      rw [List.splitOn_cons_eq_if_modifyHead]
      split at moves
      · have same : (rest.splitOn symbols.delimiter).modifyHead ([].reverse ++ ·) =
            rest.splitOn symbols.delimiter := congrFun List.modifyHead_id _
        rw [readFrom_of_endField moves, ih inside.2 plain.2 (.inl rfl), if_pos ‹_›, same,
          List.modifyHead_cons, List.append_nil, List.reverse_cons, List.append_assoc,
          List.singleton_append]
      · rw [readFrom_of_add moves, ih inside.2 plain.2 (.inr rfl), if_neg ‹_›]
        simp [List.modifyHead_modifyHead, Function.comp_def]

theorem fieldsOn_of_notMem {line : List σ}
    (inside : ∀ symbol ∈ line, symbols.endsLine symbol = false) (plain : symbols.quote ∉ line)
    (filled : line ≠ []) : fieldsOn symbols line = line.splitOn symbols.delimiter := by
  obtain ⟨symbol, rest, rfl⟩ := List.exists_cons_of_ne_nil filled
  rw [fieldsOn, records, readings, readFrom_beforeRecord (inside symbol List.mem_cons_self),
    readFrom_of_notMem inside plain (.inl rfl)]
  exact congrFun List.modifyHead_id _

end

/-! ## Counting lines -/

/-- To skip a number of elements after some were left out skips more than before, unless none of
the first elements is left out or nothing is kept of the others. -/
theorem map_drop_filter_eq_iff {α β : Type} (keeps : α → Bool) (result : α → β) (count : Nat)
    (content : List α) :
    ((content.filter keeps).drop count).map result =
        ((content.drop count).filter keeps).map result ↔
      (∀ element ∈ content.take count, keeps element = true) ∨
        ∀ element ∈ content.drop count, keeps element = false := by
  have whole : content.filter keeps =
      (content.take count).filter keeps ++ (content.drop count).filter keeps := by
    rw [← List.filter_append, List.take_append_drop]
  have few : ((content.take count).filter keeps).length ≤ (content.take count).length :=
    List.length_filter_le keeps _
  have most : (content.take count).length ≤ count := List.length_take_le count content
  have skips : (content.filter keeps).drop count =
      ((content.drop count).filter keeps).drop
        (count - ((content.take count).filter keeps).length) := by
    rw [whole, List.drop_append, List.drop_of_length_le (Nat.le_trans few most), List.nil_append]
  have nothing : (content.drop count).filter keeps = [] ↔
      ∀ element ∈ content.drop count, keeps element = false := by
    simp [List.filter_eq_nil_iff]
  rw [skips, ← nothing, ← List.length_filter_eq_length_iff]
  constructor
  · intro same
    have sizes := congrArg List.length same
    rw [List.length_map, List.length_map, List.length_drop] at sizes
    by_cases none : (content.drop count).filter keeps = []
    · exact .inr none
    · have some := List.length_pos_iff.mpr none
      exact .inl (by omega)
  · rintro (all | none)
    · by_cases long : count ≤ content.length
      · have enough : count - ((content.take count).filter keeps).length = 0 := by
          rw [all, List.length_take_of_le long, Nat.sub_self]
        rw [enough, List.drop_zero]
      · rw [List.drop_of_length_le (Nat.le_of_not_le long), List.filter_nil, List.drop_nil]
    · rw [none, List.drop_nil]

end Workflow.Delimited
