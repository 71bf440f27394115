import Workflow.Proofs.Builtin.Storing
import Workflow.Proofs.Run.Acceptance
import Workflow.Proofs.Tables.Grids

/-!
# Delimiters that are given

A table is read with the delimiter that its command gives, unless validation takes it for a blank.
A blank delimiter is not given at all, so that the default is used, and then a grid is only read
back if there is nothing to be cut in it.
-/

namespace Workflow.Builtin

namespace Delimiter

variable {parameters : ParameterSet} {written : String} {c : Char}

/-- A text that is given spells a delimiter: a character stands for itself, and a backslash with
the letter for a tab. -/
inductive Spells : String → Char → Prop where
  | itself (c : Char) : Spells (String.singleton c) c
  | tab : Spells "\\t" '\t'

theorem Spells.expand_eq (spelled : Spells written c) (find : String → Option String) :
    Expansion.expand find written = written := by
  cases spelled with
  | itself => exact Expansion.expand_singleton find c
  | tab => exact Expansion.expand_of_notMem (by decide)

theorem ofNat_toUInt8 (ascii : c.toNat < 0x80) : Char.ofNat c.toNat.toUInt8.toNat = c := by
  have small : c.toNat.toUInt8.toNat = c.toNat := by
    rw [Nat.toUInt8, UInt8.toNat_ofNat', Nat.mod_eq_of_lt (by omega)]
  rw [small, Char.ofNat_toNat]

theorem Spells.ofParameters_eq (spelled : Spells written c) (ascii : c.toNat < 0x80)
    (chosen : ParameterSet.text? parameters "Delimiter" = some written) :
    ofParameters parameters = .ok c.toNat.toUInt8 := by
  rw [ofParameters, chosen]
  cases spelled with
  | itself => simp [ascii]
  | tab => rfl

theorem isDelimiter_of_ascii (ascii : c.toNat < 0x80) (noQuote : c ≠ '"') (noReturn : c ≠ '\r')
    (noFeed : c ≠ '\n') : Table.IsDelimiter c.toNat.toUInt8 := by
  have differs (other : Char) (different : c ≠ other) (small : other.toNat < 0x80) :
      c.toNat.toUInt8 ≠ other.toNat.toUInt8 := by
    intro same
    apply different
    rw [← ofNat_toUInt8 ascii, same, ofNat_toUInt8 small]
  refine ⟨?_, differs '"' noQuote (by decide), differs '\r' noReturn (by decide),
    differs '\n' noFeed (by decide)⟩
  rw [UInt8.lt_iff_toNat_lt, Nat.toUInt8, UInt8.toNat_ofNat', Nat.mod_eq_of_lt (by omega)]
  exact ascii

end Delimiter

namespace ReadTable

/-- The parameters of the command for its file and for the number of its header lines. -/
def fileParameter : Parameter := { name := "InputFile", type := .inputFile, required := true }

def linesParameter : Parameter where
  name := "HeaderLines"
  type := .integer
  fallback := some "1"
  description := some "Lines before the data; the first holds column names"

/-- A command asks for a table with one header line to be read from a file, and writes a text for
the delimiter.  If the id of the table is in use, the policy makes room for it. -/
structure Asks (scene : Scene) (command : Command) (path : FilePath) (id written : String) :
    Prop where
  kind : command.kind = .known definition (.action problems perform)
  known : ∀ name ∈ command.parameters.keys, definition.recognizes name = true
  file : Run.Given scene command fileParameter (.path path)
  named : Run.Given scene command tableId (.text id)
  delimiter : command.parameters.get? "Delimiter" = some written
  oneHeader : Run.Given scene command linesParameter (.integer 1)
  room : ∃ chosen : ExistsPolicy,
    Run.Given scene command (ExistsPolicy.parameter policy) (.text chosen.name) ∧
      (scene.workspace.tables.contains id = false ∨ chosen.replaces = true)

/-- The text that counts for the delimiter: a blank one is replaced by the default. -/
def effective (written : String) : String :=
  if Text.trim written.toList = [] then "," else written

/-- The character at which the file is cut. -/
def effectiveCut (written : String) (c : Char) : Char :=
  if Text.trim written.toList = [] then ',' else c

theorem effectiveCut_ne {c other : Char} (written : String) (own : c ≠ other)
    (standard : ',' ≠ other) : effectiveCut written c ≠ other := by
  rw [effectiveCut]
  split
  · exact standard
  · exact own

theorem ascii_effectiveCut {c : Char} (written : String) (ascii : c.toNat < 0x80) :
    (effectiveCut written c).toNat < 0x80 := by
  rw [effectiveCut]
  split
  · decide
  · exact ascii

theorem spells_effective {written : String} {c : Char} (spelled : Delimiter.Spells written c) :
    Delimiter.Spells (effective written) (effectiveCut written c) := by
  rw [effective, effectiveCut]
  split
  · exact .itself ','
  · exact spelled

namespace Asks

variable {scene : Scene} {command : Command} {path : FilePath} {id written : String} {c : Char}

theorem given_delimiter (asks : Asks scene command path id written)
    (spelled : Delimiter.Spells written c) :
    Run.Given scene command Delimiter.parameter (.text (effective written)) := by
  refine ⟨effective written, Validation.effectiveText?_eq_some_iff.mp ?_, .freeText rfl rfl .text⟩
  have raw : (Run.expanded scene.workspace command).get? "Delimiter" = some written := by
    rw [Run.expanded, OrderedMap.get?_mapValues, asks.delimiter, Option.map_some,
      spelled.expand_eq]
  have named : Delimiter.parameter.name = "Delimiter" := rfl
  rw [Validation.effectiveText?, named, raw, Option.filter_some, effective]
  by_cases blank : Text.trim written.toList = []
  · simp [blank, Delimiter.parameter]
  · simp [blank]

theorem exists_prepare (asks : Asks scene command path id written)
    (spelled : Delimiter.Spells written c) (ascii : c.toNat < 0x80) :
    ∃ (parameters : ParameterSet) (chosen : ExistsPolicy), Run.prepare scene command =
        ({ scene with status := scene.status.promote .validation .success }, some parameters) ∧
      ParameterSet.path? parameters "InputFile" = some path ∧
      ParameterSet.text? parameters "TableID" = some id ∧
      Delimiter.ofParameters parameters = .ok (effectiveCut written c).toNat.toUInt8 ∧
      headerLines parameters = 1 ∧
      ParameterSet.text? parameters policy = some chosen.name ∧
      (scene.workspace.tables.contains id = false ∨ chosen.replaces = true) := by
  obtain ⟨chosen, decides, room⟩ := asks.room
  have cuts := asks.given_delimiter spelled
  have distinct : definition.parameterNames.Nodup := by decide
  have given : ∀ next ∈ [fileParameter, tableId, Delimiter.parameter, linesParameter,
      ExistsPolicy.parameter policy], ∃ value, Run.Given scene command next value := by
    simp only [List.forall_mem_cons]
    exact ⟨⟨_, asks.file⟩, ⟨_, asks.named⟩, ⟨_, cuts⟩, ⟨_, asks.oneHeader⟩, ⟨_, decides⟩,
      List.forall_mem_nil _⟩
  obtain ⟨parameters, validated, held⟩ :=
    Run.exists_validate_of_given distinct asks.known given
  have file := held fileParameter (by decide) _ asks.file
  have named := held tableId (by decide) _ asks.named
  have delimits := held Delimiter.parameter (by decide) _ cuts
  have counts := held linesParameter (by decide) _ asks.oneHeader
  have stores := held (ExistsPolicy.parameter policy) (by decide) _ decides
  have delimiter : Delimiter.ofParameters parameters =
      .ok (effectiveCut written c).toNat.toUInt8 := by
    refine (spells_effective spelled).ofParameters_eq (ascii_effectiveCut written ascii) ?_
    exact congrArg (Option.bind · Value.text?) delimits
  have count : ParameterSet.integer? parameters "HeaderLines" = some 1 :=
    congrArg (Option.bind · Value.integer?) counts
  have fine : problems parameters = [] := by
    simp [problems, Delimiter.problems, delimiter, headerProblems, count]
  refine ⟨parameters, chosen, Run.prepare_of_validated asks.kind validated fine,
    congrArg (Option.bind · Value.path?) file, congrArg (Option.bind · Value.text?) named,
    delimiter, ?_, congrArg (Option.bind · Value.text?) stores, room⟩
  rw [headerLines, count]
  rfl

end Asks

variable {scene : Scene} {command : Command} {path : FilePath} {id written text : String}
  {between : Char} {header : List String} {rows : List (List String)}

/-- The file is cut at the given character, and it does not matter if another one is used, exactly
if the text for the delimiter is not blank or the default has nothing to cut. -/
theorem cuts_at_effectiveCut_iff (spelled : Delimiter.Spells written between) :
    (between = effectiveCut written between ∨
        ∀ row ∈ header :: rows, ∃ cell, row = [cell] ∧
          effectiveCut written between ∉ cell.toList) ↔
      ¬Text.AllBlank written.toList ∨
        ∀ row ∈ header :: rows, ∃ cell, row = [cell] ∧ ',' ∉ cell.toList := by
  rw [effectiveCut, ← Text.trim_eq_nil_iff]
  by_cases blank : Text.trim written.toList = []
  · have other : between ≠ ',' := by
      rintro rfl
      cases spelled with
      | itself => exact absurd blank (by decide)
    simp [blank, other]
  · simp [blank]

/-- A grid with an ASCII character between its cells is read into a table by a command that gives
this character as the delimiter.  The table has the header and the rows of the grid exactly if the
text that is written for the delimiter is not blank, or if every row has a single cell without the
default delimiter. -/
theorem delimiter_used_iff (asks : Asks scene command path id written)
    (spelled : Delimiter.Spells written between) (ascii : between.toNat < 0x80)
    (noQuote : between ≠ '"') (noReturn : between ≠ '\r') (noFeed : between ≠ '\n')
    (grid : Table.IsGrid between text header rows)
    (stored : scene.files.read path = .ok text.toUTF8) (setting : Run.Setting) :
    ∃ table : Table, table.id = id ∧
      (Run.execute setting command scene).workspace = scene.workspace.addTable table ∧
      (table.columns = header ∧ table.rows = rows ↔
        ¬Text.AllBlank written.toList ∨
          ∀ row ∈ header :: rows, ∃ cell, row = [cell] ∧ ',' ∉ cell.toList) := by
  obtain ⟨parameters, chosen, accepted, file, named, delimiter, oneHeader, decides, room⟩ :=
    asks.exists_prepare spelled ascii
  have describes := @Describes.readTable scene parameters _ _ _ _ file named delimiter decides
  rw [← asks.kind] at describes
  have isDelimiter := Delimiter.isDelimiter_of_ascii (ascii_effectiveCut written ascii)
    (effectiveCut_ne written noQuote (by decide)) (effectiveCut_ne written noReturn (by decide))
    (effectiveCut_ne written noFeed (by decide))
  have reads := grid.read_eq noQuote isDelimiter stored id
  rw [Delimiter.ofNat_toUInt8 (ascii_effectiveCut written ascii)] at reads
  have free : (!scene.workspace.tables.contains id || chosen.replaces) = true := by
    rcases room with free | replaces
    · simp [free]
    · simp [replaces]
  refine ⟨{ Table.ofRecords id 1 ((header :: rows).map
    (Table.recut between (effectiveCut written between))) with source := some path }, rfl, ?_,
    (grid.ofRecords_iff id).trans (cuts_at_effectiveCut_iff spelled)⟩
  refine workspace_execute setting accepted describes free ?_
  dsimp only
  rw [oneHeader, reads]
  rfl

/-- A line that reads a table with tabs between its cells. -/
def tabbed : Command where
  name := "ReadTableFromDelimitedFile"
  line := 1
  text := "ReadTableFromDelimitedFile(InputFile=t.tsv,TableID=T,Delimiter=\\t,HeaderLines=1)"
  parameters := .ofList
    [("InputFile", "t.tsv"), ("TableID", "T"), ("Delimiter", "\\t"), ("HeaderLines", "1")]
  kind := .known definition (.action problems perform)

/-- A scene without tables. -/
def sceneOf (name text : String) : Scene where
  workspace := {}
  files := { FileSystem.empty ["work"] "/home" with files := [(["work", name], text.toUTF8)] }
  cancelled := false
  haltOnFailure := false
  exitRequested := false
  status := .fresh

/-- A file whose lines end in different ways, and not all of its cells have a comma. -/
def tabbedText : String := "a,b\tc\r\n1\t2,3\n"

theorem isGrid_tabbedText : Table.IsGrid '\t' tabbedText ["a,b", "c"] [["1", "2,3"]] where
  lines := by decide +kernel
  named := by decide
  rectangular := by decide
  filled := by decide
  plain := by decide
  unmarked := by
    rintro cell ⟨⟩
    decide

theorem asks_tabbed :
    Asks (sceneOf "t.tsv" tabbedText) tabbed ⟨"./t.tsv"⟩ "T" "\\t" where
  kind := rfl
  known := by decide
  file := by
    have resolved : (sceneOf "t.tsv" tabbedText).files.resolve
        (sceneOf "t.tsv" tabbedText).workspace.workingFolder (Text.trimmed "t.tsv") =
          ⟨"./t.tsv"⟩ := by
      decide +kernel
    refine ⟨"t.tsv", Validation.effectiveText?_eq_some_iff.mp (by decide +kernel), ?_⟩
    rw [← resolved]
    exact .trimmed rfl nofun (.inputFile (by decide +kernel))
  named := by
    have trimmed : Text.trimmed "T" = "T" := by decide +kernel
    refine ⟨"T", Validation.effectiveText?_eq_some_iff.mp (by decide +kernel), ?_⟩
    refine .trimmed rfl nofun ?_
    rw [trimmed]
    exact .identifier (by decide) (by decide) (by decide) ⟨'T', by decide, by decide +kernel⟩
  delimiter := by decide
  oneHeader := by
    obtain ⟨digits, fits⟩ := Decimal.readSigned_eq_some_iff.mp
      (show Decimal.readSigned (Text.trimmed "1").toList = some 1 by decide +kernel)
    exact ⟨"1", Validation.effectiveText?_eq_some_iff.mp (by decide +kernel),
      .trimmed rfl nofun (.integer digits fits)⟩
  room := by
    refine ⟨.replace, ⟨"Replace", Validation.effectiveText?_eq_some_iff.mp (by decide +kernel), ?_⟩,
      .inr rfl⟩
    exact .allowed (List.nil_append _).symm (List.forall_mem_nil _) (by decide +kernel) .text

theorem delimiter_used_iff_tabbed :
    ∃ table : Table, table.id = "T" ∧
      (Run.execute alone tabbed (sceneOf "t.tsv" tabbedText)).workspace =
        Workspace.addTable {} table ∧
      table.columns = ["a,b", "c"] ∧ table.rows = [["1", "2,3"]] := by
  have stored : (sceneOf "t.tsv" tabbedText).files.read ⟨"./t.tsv"⟩ = .ok tabbedText.toUTF8 := rfl
  have visible : ¬Text.AllBlank "\\t".toList := by
    intro blank
    exact absurd (blank '\\' (by decide)) (by decide)
  obtain ⟨table, named, stores, same⟩ := delimiter_used_iff asks_tabbed .tab (by decide)
    (by decide) (by decide) (by decide) isGrid_tabbedText stored alone
  exact ⟨table, named, stores, same.mpr (.inl visible)⟩

/-- A line that reads a table with blanks between its cells. -/
def spaced : Command where
  name := "ReadTableFromDelimitedFile"
  line := 1
  text := "ReadTableFromDelimitedFile(InputFile=t.txt,TableID=T,Delimiter=\" \",HeaderLines=1)"
  parameters := .ofList
    [("InputFile", "t.txt"), ("TableID", "T"), ("Delimiter", " "), ("HeaderLines", "1")]
  kind := .known definition (.action problems perform)

/-- A blank that is given as the delimiter is not used. -/
theorem blank_delimiter_not_used :
    spaced.parameters.get? "Delimiter" = some " " ∧ Delimiter.Spells " " ' ' ∧
      Table.IsGrid ' ' "a b\n1 2\n" ["a", "b"] [["1", "2"]] ∧
      (Run.execute alone spaced (sceneOf "t.txt" "a b\n1 2\n")).workspace.tables.get? "T" =
        some ⟨"T", ["a b"], [["1 2"]], some ⟨"./t.txt"⟩⟩ := by
  refine ⟨by decide, .itself ' ', ⟨by decide +kernel, by decide, by decide, by decide, by decide,
    ?_⟩, by decide +kernel⟩
  rintro cell ⟨⟩
  decide

end ReadTable

end Workflow.Builtin
