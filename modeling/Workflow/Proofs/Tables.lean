import Workflow.Table
import Workflow.Proofs.FileSystem
import Workflow.Proofs.Delimited.RoundTrip

/-!
# Tables in files

A table that comes from a file has cells in every row and a column for every cell.  A table of
this shape survives the way into a file and back: the reader finds the records that were written,
takes the first of them for the names of the columns, and needs no further names.
-/

namespace Workflow

/-! ## Records -/

namespace Delimited

variable {σ : Type} [BEq σ]

theorem fields_ne_nil_of_mem_readFrom {symbols : Symbols σ} {mode : Mode} {field : List σ}
    {fields : List (List σ)} {start input : List σ} {reading : Reading σ}
    (member : reading ∈ readFrom symbols mode field fields start input) : reading.fields ≠ [] := by
  induction input generalizing mode field fields start with
  | nil =>
      cases mode with
      | beforeRecord => cases member
      | beforeField | unquoted | quoted | afterQuote =>
          rw [readFrom, List.mem_singleton] at member
          · simp [member]
          · intro same
            cases same
  | cons symbol rest ih =>
      rw [readFrom] at member
      split at member
      · exact ih member
      · exact ih member
      · exact ih member
      · rcases List.mem_cons.mp member with rfl | member
        · simp
        · exact ih member

end Delimited

namespace Table

variable {table : Table} {files : FileSystem} {path : FilePath} {id : String} {delimiter : UInt8}

/-- Every row has a cell, and every cell has a column. -/
structure IsCovered (table : Table) : Prop where
  filled : ∀ row ∈ table.rows, row ≠ []
  covered : ∀ row ∈ table.rows, row.length ≤ table.columns.length

/-! ## Tables that are read -/

theorem length_of_decodeCells {cell : Nat} {fields : List (List UInt8)} {cells : List String}
    (decoded : decodeCells cell fields = .ok cells) : cells.length = fields.length := by
  induction fields generalizing cell cells with
  | nil =>
      cases decoded
      rfl
  | cons bytes rest ih =>
      rw [decodeCells] at decoded
      split at decoded
      · cases others : decodeCells (cell + 1) rest with
        | error problem =>
            rw [others] at decoded
            cases decoded
        | ok tail =>
            rw [others] at decoded
            cases decoded
            exact congrArg (· + 1) (ih others)
      · cases decoded

theorem ne_nil_of_decodeRecords {bytes : List UInt8} {number : Nat}
    {readings : List (Delimited.Reading UInt8)} {records : List (List String)}
    (filled : ∀ reading ∈ readings, reading.fields ≠ [])
    (decoded : decodeRecords bytes number readings = .ok records) :
    ∀ record ∈ records, record ≠ [] := by
  induction readings generalizing number records with
  | nil =>
      cases decoded
      simp
  | cons reading rest ih =>
      rw [decodeRecords] at decoded
      split at decoded
      · next cells own =>
          cases others : decodeRecords bytes (number + 1) rest with
          | error problem =>
              rw [others] at decoded
              cases decoded
          | ok tail =>
              rw [others] at decoded
              cases decoded
              intro record member
              rcases List.mem_cons.mp member with rfl | member
              · intro empty
                have fields := filled reading List.mem_cons_self
                have count := length_of_decodeCells own
                rw [empty, List.length_nil, eq_comm, List.length_eq_zero_iff] at count
                exact fields count
              · exact ih (fun reading member => filled reading (List.mem_cons_of_mem _ member))
                  others record member
      · cases decoded

theorem ne_nil_of_readRecords {content : ByteArray} {records : List (List String)}
    (found : readRecords content delimiter = .ok records) : ∀ record ∈ records, record ≠ [] := by
  rw [readRecords] at found
  split at found
  · cases found
    intro record member
    rw [List.mem_map] at member
    obtain ⟨fields, member, rfl⟩ := member
    rw [Delimited.records, List.mem_map] at member
    obtain ⟨reading, member, rfl⟩ := member
    rw [ne_eq, List.map_eq_nil_iff]
    exact Delimited.fields_ne_nil_of_mem_readFrom member
  · exact ne_nil_of_decodeRecords
      (fun reading member => Delimited.fields_ne_nil_of_mem_readFrom member) found

theorem width_le_iff {rows : List (List String)} {width bound : Nat} :
    rows.foldl (fun width row => max width row.length) width ≤ bound ↔
      width ≤ bound ∧ ∀ row ∈ rows, row.length ≤ bound := by
  induction rows generalizing width with
  | nil => simp
  | cons row rows ih => rw [List.foldl_cons, ih, Nat.max_le, List.forall_mem_cons, and_assoc]

theorem isCovered_ofRecords {headerLines : Nat} {records : List (List String)}
    (filled : ∀ record ∈ records, record ≠ []) : (ofRecords id headerLines records).IsCovered where
  filled row member := filled row (List.mem_of_mem_drop member)
  covered row member := by
    have wide : row.length ≤
        (records.drop headerLines).foldl (fun width row => max width row.length) 0 :=
      (width_le_iff.mp (Nat.le_refl _)).2 row member
    simp only [ofRecords, spareNames, List.length_append, List.length_map, List.length_range']
      at wide ⊢
    omega

/-- A table that was read is the one of the records of its file. -/
theorem exists_readRecords_of_read {headerLines : Nat} {content : ByteArray}
    (stored : files.read path = .ok content)
    (found : read files path id delimiter headerLines = .ok table) :
    ∃ records, readRecords content delimiter = .ok records ∧
      table = { ofRecords id headerLines records with source := some path } := by
  cases listed : readRecords content delimiter with
  | error problem =>
      simp only [read, stored, listed, Except.mapError, bind, Except.bind] at found
      cases found
  | ok records =>
      simp only [read, stored, listed, Except.mapError, bind, Except.bind] at found
      cases found
      exact ⟨records, rfl, rfl⟩

theorem isCovered_of_read {headerLines : Nat}
    (found : read files path id delimiter headerLines = .ok table) :
    table.id = id ∧ table.IsCovered := by
  rw [read] at found
  cases stored : files.read path with
  | error reason =>
      rw [stored] at found
      cases found
  | ok content =>
      cases listed : readRecords content delimiter with
      | error problem =>
          simp only [stored, listed, Except.mapError, bind, Except.bind] at found
          cases found
      | ok records =>
          simp only [stored, listed, Except.mapError, bind, Except.bind] at found
          cases found
          have shape : (ofRecords id headerLines records).IsCovered :=
            isCovered_ofRecords (ne_nil_of_readRecords listed)
          exact ⟨rfl, shape.filled, shape.covered⟩

/-! ## Tables that are written -/

/-- The byte is an ASCII character that has no other meaning in delimited text. -/
structure IsDelimiter (delimiter : UInt8) : Prop where
  ascii : delimiter < 0x80
  ne_quote : delimiter ≠ 0x22
  ne_carriageReturn : delimiter ≠ 0x0D
  ne_lineFeed : delimiter ≠ 0x0A

namespace IsDelimiter

theorem toNat_character (isDelimiter : IsDelimiter delimiter) :
    (Char.ofNat delimiter.toNat).toNat = delimiter.toNat := by
  have small : delimiter.toNat < 0x80 := isDelimiter.ascii
  have valid : delimiter.toNat.isValidChar := .inl (Nat.lt_trans small (by decide))
  rw [Char.ofNat, dif_pos valid]
  rfl

theorem character_ne (isDelimiter : IsDelimiter delimiter) (character : Char) {other : UInt8}
    (different : delimiter ≠ other) (meaning : character.toNat = other.toNat) :
    Char.ofNat delimiter.toNat ≠ character := by
  intro same
  have numbers := congrArg Char.toNat same
  rw [isDelimiter.toNat_character, meaning] at numbers
  exact different (UInt8.toNat_inj.mp numbers)

theorem areDistinct (isDelimiter : IsDelimiter delimiter) :
    (Delimited.Symbols.characters (Char.ofNat delimiter.toNat)).AreDistinct where
  delimiter_ne_quote := isDelimiter.character_ne '"' isDelimiter.ne_quote rfl
  delimiter := by
    have noReturn := isDelimiter.character_ne '\r' isDelimiter.ne_carriageReturn rfl
    have noFeed := isDelimiter.character_ne '\n' isDelimiter.ne_lineFeed rfl
    simp [Delimited.Symbols.endsLine, Delimited.Symbols.characters, noReturn, noFeed]
  quote := rfl

end IsDelimiter

/-- The characters of a table in a file: a record of its column names and one for each row. -/
def characters (table : Table) (delimiter : Char) : List Char :=
  Delimited.write (.characters delimiter)
    ((table.columns :: table.rows).map (·.map String.toList))

theorem toBytes_of_ascii (ascii : delimiter < 0x80) :
    (⟨(table.toBytes delimiter).toArray⟩ : ByteArray) =
      (String.ofList (table.characters (Char.ofNat delimiter.toNat))).toUTF8 := by
  rw [toBytes, if_pos ascii]
  rfl

/-- No mark of the byte order is seen in front of what was written. -/
theorem withoutMark_characters (isDelimiter : IsDelimiter delimiter) (named : table.columns ≠ [])
    (unmarked : ∀ column, table.columns.head? = some column →
      column.toList.head? ≠ some '\uFEFF') :
    withoutMark (table.characters (Char.ofNat delimiter.toNat)) =
      table.characters (Char.ofNat delimiter.toNat) := by
  obtain ⟨first, others, columns⟩ := List.exists_cons_of_ne_nil named
  obtain ⟨symbol, rest, written, starts⟩ := Delimited.exists_writeRecord_eq_cons
    (.characters (Char.ofNat delimiter.toNat)) first.toList (others.map String.toList)
  have front : ∃ tail, table.characters (Char.ofNat delimiter.toNat) = symbol :: tail := by
    rw [characters, columns, List.map_cons, Delimited.write, List.flatMap_cons, List.map_cons,
      written]
    exact ⟨_, rfl⟩
  -- the text starts with a quote, with the delimiter or with the first column's own character
  have noMark : symbol ≠ '\uFEFF' := by
    rintro rfl
    rcases starts with quote | delimits | ⟨own, -⟩
    · exact absurd quote (show '\uFEFF' ≠ '"' by decide)
    · have number := congrArg Char.toNat delimits
      have small : delimiter.toNat < 0x80 := isDelimiter.ascii
      rw [show (Delimited.Symbols.characters (Char.ofNat delimiter.toNat)).delimiter =
        Char.ofNat delimiter.toNat from rfl, isDelimiter.toNat_character] at number
      rw [← number] at small
      exact absurd small (by decide)
    · exact unmarked first (by rw [columns]; rfl) own
  obtain ⟨tail, whole⟩ := front
  rw [whole, withoutMark.eq_2]
  rintro more same
  exact noMark (List.cons.inj same).1

/-- A file with the text of a table has the records of the table. -/
theorem readRecords_characters (isDelimiter : IsDelimiter delimiter) (covered : table.IsCovered)
    (named : table.columns ≠ [])
    (unmarked : ∀ column, table.columns.head? = some column →
      column.toList.head? ≠ some '\uFEFF') :
    readRecords (String.ofList (table.characters (Char.ofNat delimiter.toNat))).toUTF8 delimiter =
      .ok (table.columns :: table.rows) := by
  have decoded (text : String) : String.fromUTF8? text.toUTF8 = some text := by
    rw [String.fromUTF8?, String.toUTF8_eq_toByteArray, dif_pos text.isValidUTF8]
    rfl
  have filled : ∀ record ∈ (table.columns :: table.rows).map (·.map String.toList),
      record ≠ [] := by
    intro record member
    rw [List.mem_map] at member
    obtain ⟨cells, member, rfl⟩ := member
    rw [ne_eq, List.map_eq_nil_iff]
    rcases List.mem_cons.mp member with rfl | member
    · exact named
    · exact covered.filled cells member
  have back : (table.columns :: table.rows).map
      ((·.map String.ofList) ∘ (·.map String.toList)) = table.columns :: table.rows := by
    have same (cells : List String) :
        ((·.map String.ofList) ∘ (·.map String.toList)) cells = cells := by
      simp
    rw [List.map_congr_left fun cells _ => same cells, List.map_id']
  rw [readRecords, if_pos isDelimiter.ascii, decoded]
  simp only [String.toList_ofList, withoutMark_characters isDelimiter named unmarked]
  rw [characters, Delimited.records_write isDelimiter.areDistinct filled, List.map_map, back]

theorem ofRecords_of_isCovered (covered : table.IsCovered) :
    ofRecords id 1 (table.columns :: table.rows) =
      { id, columns := table.columns, rows := table.rows } := by
  have enough := width_le_iff.mpr ⟨Nat.zero_le _, covered.covered⟩
  have spare : spareNames table.columns.length
      (table.rows.foldl (fun width row => max width row.length) 0) = [] := by
    rw [spareNames, Nat.sub_eq_zero_of_le enough]
    rfl
  simp only [ofRecords, List.drop_one, List.tail_cons, List.headD_cons, Nat.one_ne_zero, if_false,
    spare, List.append_nil]

/-- A table with a named column survives the way into a file and back, wherever it can be written:
all of its columns and rows are read again, cell for cell. -/
theorem exists_read_of_write (covered : table.IsCovered) (named : table.columns ≠ [])
    (unmarked : ∀ column, table.columns.head? = some column →
      column.toList.head? ≠ some '\uFEFF')
    (isDelimiter : IsDelimiter delimiter) {location : Location}
    (writable : files.target path = .ok location) (id : String) :
    ∃ after, table.write files path delimiter = .ok after ∧
      Table.read after path id delimiter 1 =
        .ok { id, columns := table.columns, rows := table.rows, source := some path } := by
  have written : files.write path ⟨(table.toBytes delimiter).toArray⟩ =
      .ok (files.store location ⟨(table.toBytes delimiter).toArray⟩) := by
    rw [FileSystem.write, writable]
    rfl
  have stored := FileSystem.read_of_write written
  refine ⟨files.store location ⟨(table.toBytes delimiter).toArray⟩, ?_, ?_⟩
  · rw [write, written]
    rfl
  · have records := readRecords_characters isDelimiter covered named unmarked
    rw [← toBytes_of_ascii isDelimiter.ascii] at records
    simp only [read, stored, records, Except.mapError, bind, Except.bind]
    rw [ofRecords_of_isCovered covered]

/-- Cells with every symbol that has a meaning in a file, one of them empty and alone in its row. -/
def quotations : Table where
  id := "quotations"
  columns := ["", "said; \"heard\"", "été"]
  rows := [[""], ["a\r\nb", "\"", ";"], ["", ""]]

theorem exists_read_of_write_quotations :
    ∃ after, quotations.write (.empty ["work"] "/home") ⟨"./q.csv"⟩ 0x3B = .ok after ∧
      Table.read after ⟨"./q.csv"⟩ "copy" 0x3B 1 =
        .ok { quotations with id := "copy", source := some ⟨"./q.csv"⟩ } := by
  have covered : quotations.IsCovered := ⟨by decide, by decide⟩
  have semicolon : IsDelimiter 0x3B := ⟨by decide, by decide, by decide, by decide⟩
  have writable : (FileSystem.empty ["work"] "/home").target ⟨"./q.csv"⟩ =
      .ok ["work", "q.csv"] := by decide
  apply exists_read_of_write covered (by decide) _ semicolon writable
  rintro column ⟨⟩
  decide

end Table

end Workflow
