import Workflow.Builtin.Existing

/-!
# Commands for tables

Tables are read from and written to delimited files and removed.  The delimiter is one ASCII
character, or a backslash with the letter `t` for a tab.
-/

namespace Workflow.Builtin

def tableId : Parameter := { name := "TableID", type := .identifier, required := true }

namespace Delimiter

/-- The parameter that chooses a delimiter. -/
def parameter : Parameter where
  name := "Delimiter"
  fallback := some ","
  description := some "Single character, or \\t for tab"

/-- The complaint about a text that is no delimiter. -/
def complaint (text : String) : String := s!"Delimiter `{text}` is not a single ASCII character"

/-- The delimiter that the parameters choose, or a complaint. -/
def ofParameters (parameters : ParameterSet) : Except String UInt8 :=
  let text := (ParameterSet.text? parameters "Delimiter").getD ","
  if text.toList = ['\\', 't'] then .ok 0x09
  else
    match text.toList with
    | [c] => if c.toNat < 0x80 then .ok c.toNat.toUInt8 else .error (complaint text)
    | _ => .error (complaint text)

/-- The problem with a text that is no delimiter. -/
def problems (parameters : ParameterSet) : List Problem :=
  match ofParameters parameters with
  | .ok _ => []
  | .error complaint =>
      [⟨some "Delimiter", complaint, "Specify one character such as , or ; or \\t"⟩]

end Delimiter

namespace ReadTable

/-- The policy parameter of the command. -/
def policy : String := "IfTableIDExists"

def definition : Definition where
  name := "ReadTableFromDelimitedFile"
  description := "Read a table from a delimited text file"
  parameters :=
    [{ name := "InputFile", type := .inputFile, required := true },
     tableId,
     Delimiter.parameter,
     { name := "HeaderLines", type := .integer, fallback := some "1",
       description := some "Lines before the data; the first holds column names" },
     ExistsPolicy.parameter policy]

/-- The problem with a negative number of header lines. -/
def headerProblems (parameters : ParameterSet) : List Problem :=
  match ParameterSet.integer? parameters "HeaderLines" with
  | some count =>
      if count < 0 then
        [⟨some "HeaderLines", "HeaderLines may not be negative",
          "Specify 0 or more header lines"⟩]
      else []
  | none => []

def problems (parameters : ParameterSet) : List Problem :=
  Delimiter.problems parameters ++ headerProblems parameters

def headerLines (parameters : ParameterSet) : Nat :=
  ((ParameterSet.integer? parameters "HeaderLines").getD 1).toNat

/-- The table is read and stored. -/
def perform : Action := fun _ parameters scene =>
  .attempt scene (ParameterSet.path parameters "InputFile") fun path =>
    .attempt scene (ParameterSet.text parameters "TableID") fun id =>
      .attempt scene ((Delimiter.ofParameters parameters).mapError Error.complaint) fun delimiter =>
        (ExistsPolicy.ofParameters parameters policy).guard scene "Table" id
          (scene.workspace.tables.contains id) (.tableExists id) fun scene =>
            .attempt scene ((Table.read scene.files path id delimiter
                (headerLines parameters)).mapError (.delimited path)) fun table =>
              .done ((scene.withWorkspace (scene.workspace.addTable table)).inform
                s!"Read table `{id}` with {table.rows.length} rows")

end ReadTable

namespace WriteTable

def definition : Definition where
  name := "WriteTableToDelimitedFile"
  description := "Write a table to a delimited text file"
  parameters :=
    [tableId, { name := "OutputFile", type := .outputFile, required := true },
     Delimiter.parameter]

/-- The table is written. -/
def perform : Action := fun _ parameters scene =>
  .attempt scene (ParameterSet.text parameters "TableID") fun id =>
    .attempt scene (ParameterSet.path parameters "OutputFile") fun path =>
      .attempt scene ((Delimiter.ofParameters parameters).mapError Error.complaint) fun delimiter =>
        .attempt scene (scene.workspace.table id) fun table =>
          .attempt scene ((table.write scene.files path delimiter).mapError (.delimited path))
            fun files =>
              .done ({ scene with files := files }.inform s!"Wrote table `{id}` to {path.text}")

end WriteTable

namespace FreeTable

def definition : Definition where
  name := "FreeTable"
  description := "Remove a table from the processor"
  parameters := [tableId]

/-- The table is removed. -/
def perform : Action := fun _ parameters scene =>
  .attempt scene (ParameterSet.text parameters "TableID") fun id =>
    .attempt scene (scene.workspace.table id) fun _ =>
      .done (scene.withWorkspace
        { scene.workspace with tables := scene.workspace.tables.erase id })

end FreeTable

def tables : List Registration :=
  [⟨ReadTable.definition, .action ReadTable.problems ReadTable.perform⟩,
   ⟨WriteTable.definition, .action Delimiter.problems WriteTable.perform⟩,
   ⟨FreeTable.definition, .action unchecked FreeTable.perform⟩]

end Workflow.Builtin
