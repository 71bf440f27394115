import Workflow.Delimited.Reader
import Workflow.Delimited.Writer
import Workflow.FileSystem
import Workflow.Text.Utf8

/-!
# Tables

A table holds rows of text cells under named columns.  Tables are read from and written to
delimited files.  A file that is text and has an ASCII delimiter is read character by
character; any other file is read byte by byte, and each of its cells has to be text.
-/

namespace Workflow

/-- Rows of cells under named columns. -/
structure Table where
  id : String
  columns : List String
  rows : List (List String)
  source : Option FilePath := none
  deriving DecidableEq, Repr, Inhabited

namespace Table

/-- The place of the first column with the given name. -/
def columnIndex? (table : Table) (column : String) : Option Nat := table.columns.idxOf? column

/-- The cells of a column from top to bottom; rows that end before it have an empty cell.  None
if there is no such column. -/
def cells? (table : Table) (column : String) : Option (List String) :=
  (table.columnIndex? column).map fun index => table.rows.map fun row => row.getD index ""

end Table

/-- Why a delimited file could not be read or written. -/
inductive DelimitedError where
  | file (reason : FileError)
  /-- A cell that is no text: the number of its record, the line and the byte where reading of
  the record began, the number of the cell and the first byte of it that is no text. -/
  | notText (record line byte cell index : Nat)
  deriving DecidableEq, Repr

/-- The wording of the reason. -/
def DelimitedError.message : DelimitedError → String
  | .file reason => reason.message
  | .notText record line byte cell index =>
      s!"CSV parse error: record {record} (line {line}, field: {cell}, byte: {byte}): " ++
        s!"invalid utf-8: invalid UTF-8 in field {cell} near byte index {index}"

namespace Table

/-- A text without the mark of its byte order at the front. -/
def withoutMark : List Char → List Char
  | '\uFEFF' :: text => text
  | text => text

/-- Bytes without the mark of their order at the front. -/
def withoutByteMark : List UInt8 → List UInt8
  | 0xEF :: 0xBB :: 0xBF :: bytes => bytes
  | bytes => bytes

/-- The texts of the cells of a record, or the number of the first cell that is no text with
the place of its first wrong byte. -/
def decodeCells : (cell : Nat) → List (List UInt8) → Except (Nat × Nat) (List String)
  | _, [] => .ok []
  | cell, bytes :: rest =>
      match Text.decode? bytes with
      | some text => (decodeCells (cell + 1) rest).map (text :: ·)
      | none => .error (cell, Text.validLength bytes)

def decodeRecords (bytes : List UInt8) :
    (record : Nat) → List (Delimited.Reading UInt8) → Except DelimitedError (List (List String))
  | _, [] => .ok []
  | record, reading :: rest =>
      match decodeCells 0 reading.fields with
      | .ok cells => (decodeRecords bytes (record + 1) rest).map (cells :: ·)
      | .error (cell, index) =>
          let place := if record = 0 then 0 else bytes.length - reading.input.length
          .error (.notText record (1 + (bytes.take place).count 0x0A) place cell index)

def readRecords (content : ByteArray) (delimiter : UInt8) :
    Except DelimitedError (List (List String)) :=
  match (if delimiter < 0x80 then String.fromUTF8? content else none) with
  | some text =>
      .ok ((Delimited.records (.characters (Char.ofNat delimiter.toNat))
        (withoutMark text.toList)).map (·.map String.ofList))
  | none =>
      let bytes := content.data.toList
      decodeRecords bytes 0 (Delimited.readings (.bytes delimiter) (withoutByteMark bytes))

/-- Names for the columns beyond those with a name. -/
def spareNames (named width : Nat) : List String :=
  (List.range' (named + 1) (width - named)).map fun n => s!"Column{n}"

/-- The table of a file whose records are given.  The first header record names the columns,
the other header records are dropped, and there are enough columns for every row. -/
def ofRecords (id : String) (headerLines : Nat) (records : List (List String)) : Table :=
  let rows := records.drop headerLines
  let named := if headerLines = 0 then [] else records.headD []
  let width := rows.foldl (fun width row => max width row.length) 0
  { id, rows, columns := named ++ spareNames named.length width }

def read (files : FileSystem) (path : FilePath) (id : String) (delimiter : UInt8)
    (headerLines : Nat) : Except DelimitedError Table := do
  let content ← (files.read path).mapError .file
  let records ← readRecords content delimiter
  .ok { ofRecords id headerLines records with source := some path }

/-- The bytes of a table: a record of its column names and one for each row. -/
def toBytes (table : Table) (delimiter : UInt8) : List UInt8 :=
  let records := table.columns :: table.rows
  if delimiter < 0x80 then
    Text.encode (String.ofList (Delimited.write (.characters (Char.ofNat delimiter.toNat))
      (records.map (·.map String.toList))))
  else Delimited.write (.bytes delimiter) (records.map (·.map Text.encode))

def write (table : Table) (files : FileSystem) (path : FilePath) (delimiter : UInt8) :
    Except DelimitedError FileSystem :=
  (files.write path ⟨(table.toBytes delimiter).toArray⟩).mapError .file

end Table

end Workflow
