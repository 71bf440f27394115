import Workflow.Proofs.Delimited.Encoding
import Workflow.Proofs.Delimited.Lines
import Workflow.Proofs.Tables

/-!
# Header lines

The number of header lines says how many records are no rows, and an empty line is no record.  So
the rows of a table are the records behind the header lines of its file exactly if none of these
lines is empty, or if nothing follows them; otherwise as many rows are lost as there are empty
lines among them.
-/

namespace Workflow.Table

variable {files : FileSystem} {path : FilePath} {id : String} {delimiter : UInt8}
  {headerLines : Nat} {content : ByteArray} {table : Table}

/-- The lines of a file, without a mark of the byte order in front of them. -/
def fileLines (content : ByteArray) (delimiter : UInt8) : List (List UInt8) :=
  Delimited.lines (.bytes delimiter) (withoutByteMark content.data.toList)

/-- The records on some lines of a file, of which the empty ones have none. -/
def recordsOn (delimiter : UInt8) (lines : List (List UInt8)) : List (List (List UInt8)) :=
  (lines.filter (!·.isEmpty)).map (Delimited.fieldsOn (.bytes delimiter))

/-- If every quoted part is closed on its line, the rows of a table are the records on the lines of
its file without the first few of them.  They are the records on the lines behind as many lines
exactly if none of these lines is empty or if all of the others are. -/
theorem rows_follow_header_iff (stored : files.read path = .ok content)
    (linewise : Delimited.isLinewise (.bytes delimiter)
      (withoutByteMark content.data.toList) = true)
    (noReturn : delimiter ≠ 0x0D) (noFeed : delimiter ≠ 0x0A)
    (found : Table.read files path id delimiter headerLines = .ok table) :
    table.rows.map (·.map Text.encode) =
        (recordsOn delimiter (fileLines content delimiter)).drop headerLines ∧
      (table.rows.map (·.map Text.encode) =
          recordsOn delimiter ((fileLines content delimiter).drop headerLines) ↔
        (∀ line ∈ (fileLines content delimiter).take headerLines, line ≠ []) ∨
          ∀ line ∈ (fileLines content delimiter).drop headerLines, line = []) := by
  obtain ⟨records, listed, rfl⟩ := exists_readRecords_of_read stored found
  have inLine : (Delimited.Symbols.bytes delimiter).endsLine delimiter = false := by
    simp [Delimited.Symbols.endsLine, Delimited.Symbols.bytes, noReturn, noFeed]
  have lined : records.map (·.map Text.encode) =
      recordsOn delimiter (fileLines content delimiter) := by
    rw [map_encode_of_readRecords listed,
      Delimited.records_eq_map_lines inLine rfl linewise, recordsOn, fileLines]
  have rows : (records.drop headerLines).map (·.map Text.encode) =
      (recordsOn delimiter (fileLines content delimiter)).drop headerLines := by
    rw [← lined, List.map_drop]
  refine ⟨rows, ?_⟩
  show (records.drop headerLines).map (·.map Text.encode) = _ ↔ _
  rw [rows, recordsOn, recordsOn, ← List.map_drop, Delimited.map_drop_filter_eq_iff]
  simp

/-- A file with two header lines, one of them with a delimiter in quotes, and an empty line behind
its first row. -/
def stations : ByteArray := "\uFEFFid;name\r\n\"a;b\";-\nS1;\"No\"\"rth\"\r\n\r\nS2;\"".toUTF8

def stationFiles : FileSystem :=
  { FileSystem.empty ["work"] "/home" with files := [(["work", "s.csv"], stations)] }

theorem rows_follow_header_iff_stations :
    ∃ table, Table.read stationFiles ⟨"s.csv"⟩ "T" 0x3B 2 = .ok table ∧
      table.rows = [["S1", "No\"rth"], ["S2", ""]] ∧
      table.rows.map (·.map Text.encode) = recordsOn 0x3B ((fileLines stations 0x3B).drop 2) := by
  have found : Table.read stationFiles ⟨"s.csv"⟩ "T" 0x3B 2 =
      .ok ⟨"T", ["id", "name"], [["S1", "No\"rth"], ["S2", ""]], some ⟨"s.csv"⟩⟩ := by
    decide +kernel
  have stored : stationFiles.read ⟨"s.csv"⟩ = .ok stations := rfl
  have linewise : Delimited.isLinewise (.bytes 0x3B)
      (withoutByteMark stations.data.toList) = true := by
    decide +kernel
  refine ⟨_, found, rfl, ?_⟩
  apply (rows_follow_header_iff stored linewise (by decide) (by decide) found).2.mpr
  decide +kernel

/-- A file whose second line is empty. -/
def gapped : ByteArray := "a,b\n\n1,2\n3,4\n".toUTF8

def gappedFiles : FileSystem :=
  { FileSystem.empty ["work"] "/home" with files := [(["work", "g.csv"], gapped)] }

/-- Behind two header lines, of which the second is empty, the first row is lost. -/
theorem empty_header_line_drops_row :
    Delimited.isLinewise (.bytes 0x2C) (withoutByteMark gapped.data.toList) = true ∧
      fileLines gapped 0x2C = ["a,b", "", "1,2", "3,4"].map Text.encode ∧
      ∃ table, Table.read gappedFiles ⟨"g.csv"⟩ "T" 0x2C 2 = .ok table ∧
        table.rows = [["3", "4"]] ∧
        recordsOn 0x2C ((fileLines gapped 0x2C).drop 2) =
          [["1", "2"], ["3", "4"]].map (·.map Text.encode) ∧
        table.rows.map (·.map Text.encode) ≠ recordsOn 0x2C ((fileLines gapped 0x2C).drop 2) := by
  have found : Table.read gappedFiles ⟨"g.csv"⟩ "T" 0x2C 2 =
      .ok ⟨"T", ["a", "b"], [["3", "4"]], some ⟨"g.csv"⟩⟩ := by
    decide +kernel
  exact ⟨by decide +kernel, by decide +kernel, _, found, rfl, by decide +kernel,
    by decide +kernel⟩

end Workflow.Table
