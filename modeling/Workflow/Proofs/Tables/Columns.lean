import Mathlib.Data.List.Nodup
import Workflow.Proofs.Decimal.Numerals
import Workflow.Proofs.Tables

/-!
# Names of columns

A cell is looked up by the name of its column, and of two columns with one name only the first is
found.  A table that was read has a column for every cell, under the names of its header and, for
cells beyond these, under names that are made up.  Names that are made up differ from each other,
but nothing keeps them from a name of the header.
-/

namespace Workflow.Table

variable {files : FileSystem} {path : FilePath} {id column : String} {delimiter : UInt8}
  {headerLines : Nat} {content : ByteArray} {records : List (List String)} {table : Table}

/-- The names in the header of a file, if it has a header. -/
def headerNames (headerLines : Nat) (records : List (List String)) : List String :=
  if headerLines = 0 then [] else records.headD []

/-- The name that is made up for a column, counted from one. -/
def spareName (number : Nat) : String := s!"Column{number}"

/-- Every cell is found under the name of its column, at the place of its row. -/
def IsReachable (table : Table) : Prop :=
  ∀ (row : Nat) (cells : List String), table.rows[row]? = some cells →
    ∀ (place : Nat) (cell : String), cells[place]? = some cell →
      ∃ name values, table.columns[place]? = some name ∧ table.cells? name = some values ∧
        values[row]? = some cell

/-! ## Looking up a column -/

theorem length_of_cells? {values : List String} (found : table.cells? column = some values) :
    values.length = table.rows.length := by
  rw [cells?, Option.map_eq_some_iff] at found
  obtain ⟨index, -, rfl⟩ := found
  exact List.length_map _

theorem columnIndex?_getElem (distinct : table.columns.Nodup) {place : Nat}
    (inside : place < table.columns.length) :
    table.columnIndex? table.columns[place] = some place := by
  refine List.idxOf?_eq_some_iff.mpr ⟨inside, rfl, fun earlier before same => ?_⟩
  have own := (distinct.getElem_inj_iff).mp same
  omega

/-- If the names of the columns are distinct, every cell is found by its column. -/
theorem isReachable_of_nodup (covered : table.IsCovered) (distinct : table.columns.Nodup) :
    table.IsReachable := by
  intro row cells here place cell own
  have inside : place < table.columns.length := by
    have short := covered.covered cells (List.mem_of_getElem? here)
    have within := (List.getElem?_eq_some_iff.mp own).1
    omega
  refine ⟨table.columns[place], table.rows.map (·.getD place ""),
    List.getElem?_eq_getElem inside, ?_, ?_⟩
  · rw [cells?, columnIndex?_getElem distinct inside, Option.map_some]
  · rw [List.getElem?_map, here, Option.map_some, List.getD_eq_getElem?_getD, own,
      Option.getD_some]

/-! ## Names that are made up -/

theorem spareName_injective : Function.Injective spareName := by
  intro number other same
  have digits : Decimal.numeral number = Decimal.numeral other := by
    have texts : number.repr = other.repr := (String.append_right_inj "Column").mp same
    simpa [Decimal.numeral] using congrArg String.toList texts
  rw [← Decimal.digitsValue_numeral number, digits, Decimal.digitsValue_numeral]

theorem nodup_spareNames (named width : Nat) : (spareNames named width).Nodup :=
  List.Nodup.map spareName_injective List.nodup_range'

theorem mem_spareNames_iff {named width : Nat} {name : String} :
    name ∈ spareNames named width ↔
      ∃ number, named < number ∧ number ≤ width ∧ spareName number = name := by
  rw [spareNames, List.mem_map]
  refine exists_congr fun number => ?_
  rw [List.mem_range'_1, ← and_assoc]
  refine and_congr_left fun _ => ?_
  omega

/-- A header with distinct names and the names that are made up behind it are distinct unless one
of the header is made up again. -/
theorem nodup_append_spareNames_iff {header : List String} (distinct : header.Nodup)
    (width : Nat) :
    (header ++ spareNames header.length width).Nodup ↔
      ∀ number, header.length < number → number ≤ width → spareName number ∉ header := by
  rw [List.nodup_append]
  constructor
  · rintro ⟨-, -, apart⟩ number beyond within member
    exact apart _ member _ (mem_spareNames_iff.mpr ⟨number, beyond, within, rfl⟩) rfl
  · intro free
    refine ⟨distinct, nodup_spareNames _ _, fun name member spare made same => ?_⟩
    obtain ⟨number, beyond, within, rfl⟩ := mem_spareNames_iff.mp made
    exact free number beyond within (same ▸ member)

theorem le_width_iff {rows : List (List String)} {number : Nat} (positive : 0 < number) :
    number ≤ rows.foldl (fun width row => max width row.length) 0 ↔
      ∃ row ∈ rows, number ≤ row.length := by
  have short := @width_le_iff rows 0 (number - 1)
  constructor
  · intro reached
    by_contra none
    have bounded := short.mpr ⟨Nat.zero_le _, fun row member => by
      have beyond : ¬number ≤ row.length := fun wide => none ⟨row, member, wide⟩
      omega⟩
    omega
  · rintro ⟨row, member, wide⟩
    exact Nat.le_trans wide ((width_le_iff.mp (Nat.le_refl _)).2 row member)

/-- A table whose header has distinct names has a column for every cell of every row, and each
column that is looked up has one value for every row.  All columns have distinct names, so that
every cell is found by its column, exactly if the header does not have the name that is made up for
a column behind it which some row reaches. -/
theorem columns_nodup_iff (stored : files.read path = .ok content)
    (listed : readRecords content delimiter = .ok records)
    (distinct : (headerNames headerLines records).Nodup)
    (found : Table.read files path id delimiter headerLines = .ok table) :
    (∀ row ∈ table.rows, row.length ≤ table.columns.length) ∧
      (∀ column values, table.cells? column = some values →
        values.length = table.rows.length) ∧
      (table.columns.Nodup ↔ ∀ number, (headerNames headerLines records).length < number →
        (∃ row ∈ table.rows, number ≤ row.length) →
          spareName number ∉ headerNames headerLines records) ∧
      (table.columns.Nodup → table.IsReachable) := by
  have covered := (isCovered_of_read found).2
  refine ⟨covered.covered, fun column values => length_of_cells?, ?_,
    isReachable_of_nodup covered⟩
  obtain ⟨others, again, rfl⟩ := exists_readRecords_of_read stored found
  obtain rfl : records = others := Except.ok.inj (listed.symm.trans again)
  refine (nodup_append_spareNames_iff distinct _).trans (forall_congr' fun number => ?_)
  refine forall_congr' fun beyond => ?_
  rw [le_width_iff (by omega)]
  rfl

/-- A file with a name for the first of three columns, and a row that ends early. -/
def readings : ByteArray := "depth\n1.5,ok,0\n2\n".toUTF8

def readingFiles : FileSystem :=
  { FileSystem.empty ["work"] "/home" with files := [(["work", "r.csv"], readings)] }

theorem columns_nodup_iff_readings :
    ∃ table, Table.read readingFiles ⟨"r.csv"⟩ "T" 0x2C 1 = .ok table ∧
      table.columns = ["depth", "Column2", "Column3"] ∧ table.columns.Nodup ∧
      table.IsReachable ∧ table.cells? "Column2" = some ["ok", ""] := by
  have found : Table.read readingFiles ⟨"r.csv"⟩ "T" 0x2C 1 =
      .ok ⟨"T", ["depth", "Column2", "Column3"], [["1.5", "ok", "0"], ["2"]], some ⟨"r.csv"⟩⟩ := by
    decide +kernel
  have stored : readingFiles.read ⟨"r.csv"⟩ = .ok readings := rfl
  have listed : readRecords readings 0x2C = .ok [["depth"], ["1.5", "ok", "0"], ["2"]] := by
    decide +kernel
  have named := columns_nodup_iff stored listed (by decide) found
  have distinct : ["depth", "Column2", "Column3"].Nodup := by decide
  exact ⟨_, found, rfl, distinct, named.2.2.2 distinct, by decide⟩

/-- A file whose header has the name that is made up for a third column. -/
def renamed : ByteArray := "Column3,b\n1,2,3\n".toUTF8

def renamedFiles : FileSystem :=
  { FileSystem.empty ["work"] "/home" with files := [(["work", "n.csv"], renamed)] }

/-- The third cell of a row is not found by the name of its column, which the first has too. -/
theorem made_up_name_hides_cell :
    readRecords renamed 0x2C = .ok [["Column3", "b"], ["1", "2", "3"]] ∧
      (headerNames 1 [["Column3", "b"], ["1", "2", "3"]]).Nodup ∧
      ∃ table, Table.read renamedFiles ⟨"n.csv"⟩ "T" 0x2C 1 = .ok table ∧
        table.rows = [["1", "2", "3"]] ∧ table.columns = ["Column3", "b", "Column3"] ∧
        table.cells? "Column3" = some ["1"] ∧ ¬table.columns.Nodup ∧ ¬table.IsReachable := by
  have found : Table.read renamedFiles ⟨"n.csv"⟩ "T" 0x2C 1 =
      .ok ⟨"T", ["Column3", "b", "Column3"], [["1", "2", "3"]], some ⟨"n.csv"⟩⟩ := by
    decide +kernel
  refine ⟨by decide +kernel, by decide, _, found, rfl, rfl, by decide, by decide,
    fun reachable => ?_⟩
  obtain ⟨name, values, named, looked, here⟩ := reachable 0 ["1", "2", "3"] rfl 2 "3" rfl
  cases named
  have first : values = ["1"] := Option.some.inj (looked.symm.trans (by decide))
  rw [first] at here
  exact absurd here (by decide)

end Workflow.Table
