import Workflow.Delimited.Reader
import Workflow.Delimited.Writer
import Mathlib.Data.List.Basic

/-!
# Reading delimited text that was written

A field that holds a symbol with a meaning of its own is written in quotes and with its quotes
doubled, so that the reader takes all of its symbols for themselves.  A record of which nothing
would be seen is written as a quoted field, and so no record looks like an empty line.  What was
written is therefore read back, whatever the fields hold.
-/

namespace Workflow.Delimited

variable {σ : Type} [BEq σ] {symbols : Symbols σ}

/-! ## One symbol -/

section

variable {mode next : Mode} {symbol : σ}

theorem readFrom_of_skip (moves : move symbols mode symbol = .skip next) (field : List σ)
    (fields : List (List σ)) (start rest : List σ) :
    readFrom symbols mode field fields start (symbol :: rest) =
      readFrom symbols next field fields start rest := by
  rw [readFrom, moves]

theorem readFrom_of_add (moves : move symbols mode symbol = .add next) (field : List σ)
    (fields : List (List σ)) (start rest : List σ) :
    readFrom symbols mode field fields start (symbol :: rest) =
      readFrom symbols next (symbol :: field) fields start rest := by
  rw [readFrom, moves]

theorem readFrom_of_endField (moves : move symbols mode symbol = .endField) (field : List σ)
    (fields : List (List σ)) (start rest : List σ) :
    readFrom symbols mode field fields start (symbol :: rest) =
      readFrom symbols .beforeField [] (field.reverse :: fields) start rest := by
  rw [readFrom, moves]

theorem readFrom_of_endRecord (moves : move symbols mode symbol = .endRecord) (field : List σ)
    (fields : List (List σ)) (start rest : List σ) :
    readFrom symbols mode field fields start (symbol :: rest) =
      ⟨start, (field.reverse :: fields).reverse⟩ ::
        readFrom symbols .beforeRecord [] [] rest rest := by
  rw [readFrom, moves]

theorem move_of_plain (plain : symbols.needsQuotes symbol = false) :
    move symbols .unquoted symbol = .add .unquoted ∧
      move symbols .beforeField symbol = .add .unquoted := by
  simp only [Symbols.needsQuotes, Bool.or_eq_false_iff] at plain
  obtain ⟨⟨noDelimiter, noQuote⟩, noEnd⟩ := plain
  simp [move, fieldMove, plainMove, noDelimiter, noQuote, noEnd]

theorem readFrom_plain {field : List σ} (read : List σ) (fields : List (List σ))
    (start rest : List σ)
    (plain : field.any symbols.needsQuotes = false) :
    readFrom symbols .unquoted read fields start (field ++ rest) =
      readFrom symbols .unquoted (field.reverse ++ read) fields start rest := by
  induction field generalizing read with
  | nil => rfl
  | cons symbol field ih =>
      rw [List.any_cons, Bool.or_eq_false_iff] at plain
      rw [List.cons_append, readFrom_of_add (move_of_plain plain.1).1, ih _ plain.2,
        List.reverse_cons, List.append_assoc, List.singleton_append]

/-- A symbol that ends no line is read in front of a record as in front of a field. -/
theorem readFrom_beforeRecord (noEnd : symbols.endsLine symbol = false) (start rest : List σ) :
    readFrom symbols .beforeRecord [] [] start (symbol :: rest) =
      readFrom symbols .beforeField [] [] start (symbol :: rest) := by
  have same : move symbols .beforeRecord symbol = move symbols .beforeField symbol := by
    simp [move, noEnd]
  rw [readFrom, readFrom, same]

end

/-! ## How a written record starts -/

/-- A record with the given first field may start with a symbol: with a quote, with the delimiter,
or with a symbol of the field that needs no quotes. -/
def Symbols.Starts (symbols : Symbols σ) (field : List σ) (symbol : σ) : Prop :=
  symbol = symbols.quote ∨ symbol = symbols.delimiter ∨
    (field.head? = some symbol ∧ symbols.needsQuotes symbol = false)

theorem exists_writeField_eq_cons (symbols : Symbols σ) (symbol : σ) (field : List σ) :
    ∃ first rest, writeField symbols (symbol :: field) = first :: rest ∧
      symbols.Starts (symbol :: field) first := by
  rw [writeField]
  split
  · exact ⟨symbols.quote, _, rfl, .inl rfl⟩
  · next plain =>
      rw [List.any_cons, Bool.or_eq_true, not_or] at plain
      exact ⟨symbol, field, rfl, .inr (.inr ⟨rfl, by simpa using plain.1⟩)⟩

/-- The fields of a record make up an empty line only if the record has one field, which is empty.
-/
theorem line_cases (symbols : Symbols σ) (field : List σ) (others : List (List σ)) :
    (field = [] ∧ others = [] ∧
      [symbols.delimiter].intercalate ((field :: others).map (writeField symbols)) = []) ∨
    ∃ symbol rest,
      [symbols.delimiter].intercalate ((field :: others).map (writeField symbols)) =
        symbol :: rest ∧ symbols.Starts field symbol := by
  have front : ∃ rest,
      [symbols.delimiter].intercalate ((field :: others).map (writeField symbols)) =
        writeField symbols field ++ rest ∧
      (others = [] ∧ rest = [] ∨ rest.head? = some symbols.delimiter) := by
    cases others with
    | nil => exact ⟨[], by simp, .inl ⟨rfl, rfl⟩⟩
    | cons next others =>
        rw [List.map_cons, List.map_cons, List.intercalate_cons_cons, List.append_assoc]
        exact ⟨_, rfl, .inr rfl⟩
  obtain ⟨rest, line, alone⟩ := front
  rw [line]
  cases field with
  | cons symbol field =>
      obtain ⟨first, more, written, starts⟩ := exists_writeField_eq_cons symbols symbol field
      rw [written]
      exact .inr ⟨first, more ++ rest, rfl, starts⟩
  | nil =>
      rcases alone with ⟨none, nothing⟩ | delimited
      · rw [nothing]
        exact .inl ⟨rfl, none, rfl⟩
      · obtain ⟨more, rfl⟩ := List.head?_eq_some_iff.mp delimited
        exact .inr ⟨symbols.delimiter, more, rfl, .inr (.inl rfl)⟩

theorem exists_writeRecord_eq_cons (symbols : Symbols σ) (field : List σ)
    (others : List (List σ)) :
    ∃ symbol rest, writeRecord symbols (field :: others) = symbol :: rest ∧
      symbols.Starts field symbol := by
  rw [writeRecord]
  obtain ⟨-, -, line⟩ | ⟨symbol, rest, line, starts⟩ := line_cases symbols field others
  · rw [line]
    exact ⟨symbols.quote, [symbols.quote], rfl, .inl rfl⟩
  · rw [line]
    exact ⟨symbol, rest, rfl, starts⟩

/-! ## Symbols that cannot be confused -/

/-- Neither the delimiter nor the quote can be taken for another symbol with a meaning. -/
structure Symbols.AreDistinct (symbols : Symbols σ) : Prop where
  delimiter_ne_quote : symbols.delimiter ≠ symbols.quote
  delimiter : symbols.endsLine symbols.delimiter = false
  quote : symbols.endsLine symbols.quote = false

theorem Symbols.AreDistinct.endsLine_of_starts (distinct : symbols.AreDistinct) {field : List σ}
    {symbol : σ} (starts : symbols.Starts field symbol) : symbols.endsLine symbol = false := by
  rcases starts with rfl | rfl | ⟨-, plain⟩
  · exact distinct.quote
  · exact distinct.delimiter
  · simp only [Symbols.needsQuotes, Bool.or_eq_false_iff] at plain
    exact plain.2

variable [LawfulBEq σ]

theorem Symbols.endsLine_lineFeed (symbols : Symbols σ) :
    symbols.endsLine symbols.lineFeed = true := by
  simp [endsLine]

theorem Symbols.AreDistinct.lineFeed_ne_delimiter (distinct : symbols.AreDistinct) :
    symbols.lineFeed ≠ symbols.delimiter := by
  intro same
  have ends := symbols.endsLine_lineFeed
  rw [same, distinct.delimiter] at ends
  cases ends

theorem Symbols.AreDistinct.lineFeed_ne_quote (distinct : symbols.AreDistinct) :
    symbols.lineFeed ≠ symbols.quote := by
  intro same
  have ends := symbols.endsLine_lineFeed
  rw [same, distinct.quote] at ends
  cases ends

/-- Where the reader is behind a written field. -/
def Mode.IsBehindField (mode : Mode) : Prop :=
  mode = .beforeField ∨ mode = .unquoted ∨ mode = .afterQuote

theorem Mode.IsBehindField.move_delimiter {mode : Mode} (behind : mode.IsBehindField)
    (distinct : symbols.AreDistinct) : move symbols mode symbols.delimiter = .endField := by
  have other := distinct.delimiter_ne_quote
  rcases behind with rfl | rfl | rfl <;> simp [move, fieldMove, plainMove, other]

theorem Mode.IsBehindField.move_lineFeed {mode : Mode} (behind : mode.IsBehindField)
    (distinct : symbols.AreDistinct) : move symbols mode symbols.lineFeed = .endRecord := by
  have noDelimiter := distinct.lineFeed_ne_delimiter
  have noQuote := distinct.lineFeed_ne_quote
  rcases behind with rfl | rfl | rfl <;>
    simp [move, fieldMove, plainMove, symbols.endsLine_lineFeed, noDelimiter, noQuote]

/-! ## Fields -/

/-- Inside of quotes every symbol stands for itself, up to the closing quote. -/
theorem readFrom_doubled (symbols : Symbols σ) (field read : List σ) (fields : List (List σ))
    (start rest : List σ) :
    readFrom symbols .quoted read fields start
        (field.flatMap (fun symbol =>
          if symbol == symbols.quote then [symbols.quote, symbols.quote] else [symbol]) ++
            symbols.quote :: rest) =
      readFrom symbols .afterQuote (field.reverse ++ read) fields start rest := by
  induction field generalizing read with
  | nil => exact readFrom_of_skip (by simp [move]) ..
  | cons symbol field ih =>
      rw [List.flatMap_cons, List.append_assoc, List.reverse_cons, List.append_assoc,
        List.singleton_append, ← ih]
      by_cases isQuote : symbol = symbols.quote
      · have closes : move symbols .quoted symbol = .skip .afterQuote := by simp [move, isQuote]
        have opens : move symbols .afterQuote symbol = .add .quoted := by simp [move, isQuote]
        rw [if_pos (by simpa using isQuote), ← isQuote]
        exact (readFrom_of_skip closes ..).trans (readFrom_of_add opens ..)
      · have inside : move symbols .quoted symbol = .add .quoted := by simp [move, isQuote]
        rw [if_neg (by simpa using isQuote)]
        exact readFrom_of_add inside ..

theorem readFrom_quoteField (field : List σ) (fields : List (List σ)) (start rest : List σ) :
    readFrom symbols .beforeField [] fields start (quoteField symbols field ++ rest) =
      readFrom symbols .afterQuote field.reverse fields start rest := by
  have opens : move symbols .beforeField symbols.quote = .skip .quoted := by
    simp [move, fieldMove]
  have body := readFrom_doubled symbols field [] fields start rest
  rw [List.append_nil] at body
  rw [quoteField, List.cons_append, List.append_assoc, List.singleton_append,
    readFrom_of_skip opens]
  exact body

theorem exists_readFrom_writeField (symbols : Symbols σ) (field : List σ) (fields : List (List σ))
    (start rest : List σ) :
    ∃ mode : Mode, mode.IsBehindField ∧
      readFrom symbols .beforeField [] fields start (writeField symbols field ++ rest) =
        readFrom symbols mode field.reverse fields start rest := by
  by_cases plain : field.any symbols.needsQuotes = false
  · rw [writeField, if_neg (by simp [plain])]
    cases field with
    | nil => exact ⟨.beforeField, .inl rfl, rfl⟩
    | cons symbol field =>
        rw [List.any_cons, Bool.or_eq_false_iff] at plain
        refine ⟨.unquoted, .inr (.inl rfl), ?_⟩
        rw [List.cons_append, readFrom_of_add (move_of_plain plain.1).2, List.reverse_cons]
        exact readFrom_plain [symbol] fields start rest plain.2
  · rw [writeField, if_pos (by simpa using plain)]
    exact ⟨.afterQuote, .inr (.inr rfl), readFrom_quoteField field fields start rest⟩

/-! ## Records -/

/-- The fields of a line are read as they were written, behind those already read. -/
theorem readFrom_line (distinct : symbols.AreDistinct) (field : List σ)
    (others fields : List (List σ)) (start rest : List σ) :
    readFrom symbols .beforeField [] fields start
        ([symbols.delimiter].intercalate ((field :: others).map (writeField symbols)) ++
          symbols.lineFeed :: rest) =
      ⟨start, fields.reverse ++ field :: others⟩ ::
        readFrom symbols .beforeRecord [] [] rest rest := by
  induction others generalizing field fields with
  | nil =>
      obtain ⟨mode, behind, reads⟩ := exists_readFrom_writeField symbols field fields
        start (symbols.lineFeed :: rest)
      rw [List.map_singleton, List.intercalate_singleton, reads,
        readFrom_of_endRecord (behind.move_lineFeed distinct), List.reverse_reverse,
        List.reverse_cons]
  | cons next others ih =>
      obtain ⟨mode, behind, reads⟩ := exists_readFrom_writeField symbols field fields
        start (symbols.delimiter :: ([symbols.delimiter].intercalate
          ((next :: others).map (writeField symbols)) ++ symbols.lineFeed :: rest))
      rw [List.map_cons, List.map_cons, List.intercalate_cons_cons, List.append_assoc,
        List.append_assoc, List.singleton_append, ← List.map_cons, reads,
        readFrom_of_endField (behind.move_delimiter distinct), List.reverse_reverse, ih,
        List.reverse_cons, List.append_assoc, List.singleton_append]

/-- A written record is read as it was. -/
theorem readFrom_writeRecord (distinct : symbols.AreDistinct) (field : List σ)
    (others : List (List σ)) (start rest : List σ) :
    readFrom symbols .beforeRecord [] [] start
        (writeRecord symbols (field :: others) ++ symbols.lineFeed :: rest) =
      ⟨start, field :: others⟩ :: readFrom symbols .beforeRecord [] [] rest rest := by
  obtain ⟨symbol, tail, whole, starts⟩ := exists_writeRecord_eq_cons symbols field others
  rw [whole, List.cons_append, readFrom_beforeRecord (distinct.endsLine_of_starts starts),
    ← List.cons_append, ← whole]
  obtain ⟨rfl, rfl, line⟩ | ⟨first, more, line, -⟩ := line_cases symbols field others
  · -- an empty line is written as an empty field in quotes
    have quoted : writeRecord symbols [[]] = quoteField symbols [] := by
      rw [writeRecord, line]
      rfl
    have behind : Mode.afterQuote.IsBehindField := .inr (.inr rfl)
    rw [quoted, readFrom_quoteField, readFrom_of_endRecord (behind.move_lineFeed distinct)]
    rfl
  · have written : writeRecord symbols (field :: others) =
        [symbols.delimiter].intercalate ((field :: others).map (writeField symbols)) := by
      rw [writeRecord, line]
    rw [written]
    exact readFrom_line distinct field others [] start rest

/-- What was written is read back, if every record has a field. -/
theorem records_write (distinct : symbols.AreDistinct) {content : List (List (List σ))}
    (filled : ∀ record ∈ content, record ≠ []) :
    records symbols (write symbols content) = content := by
  have reads (start : List σ) :
      (readFrom symbols .beforeRecord [] [] start (write symbols content)).map (·.fields) =
        content := by
    induction content generalizing start with
    | nil => rfl
    | cons record content ih =>
        obtain ⟨field, others, rfl⟩ := List.exists_cons_of_ne_nil (filled _ List.mem_cons_self)
        have ih := ih fun record member => filled record (List.mem_cons_of_mem _ member)
        rw [write, List.flatMap_cons, ← write, List.append_assoc, List.singleton_append,
          readFrom_writeRecord distinct, List.map_cons, ih]
  exact reads _

end Workflow.Delimited
