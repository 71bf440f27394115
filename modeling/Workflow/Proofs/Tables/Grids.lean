import Workflow.Proofs.Delimited.Lines
import Workflow.Proofs.Tables

/-!
# Grids in files

A grid of cells is written to a file with one character between the cells of a row.  The file is
read back as the table of the grid with the same character as the delimiter, and with any other
one only if it does not matter: if every row has a single cell without the delimiter.
-/

namespace Workflow

/-! ## Lines -/

namespace Delimited

variable {σ : Type} [BEq σ] {symbols : Symbols σ}

theorem lines_characters (delimiter other : Char) (text : List Char) :
    lines (.characters delimiter) text = lines (.characters other) text := by
  induction text with
  | nil => rfl
  | cons symbol rest ih =>
      rw [lines, lines, ih]
      rfl

theorem exists_mem_lines {input : List σ} {symbol : σ} (member : symbol ∈ input)
    (inside : symbols.endsLine symbol = false) : ∃ line ∈ lines symbols input, symbol ∈ line := by
  induction input with
  | nil => cases member
  | cons first rest ih =>
      rw [lines]
      split
      · next ends =>
          have later : symbol ∈ rest := by
            rcases List.mem_cons.mp member with rfl | later
            · rw [inside] at ends
              cases ends
            · exact later
          obtain ⟨line, among, here⟩ := ih later
          split
          · exact ⟨line, among, here⟩
          · exact ⟨line, List.mem_cons_of_mem _ among, here⟩
      · rcases List.mem_cons.mp member with rfl | later
        · split
          · exact ⟨_, List.mem_cons_self, List.mem_cons_self⟩
          · exact ⟨_, List.mem_cons_self, List.mem_cons_self⟩
        · obtain ⟨line, among, here⟩ := ih later
          split
          · next nothing =>
              rw [nothing] at among
              cases among
          · next first others content =>
              rw [content] at among
              rcases List.mem_cons.mp among with rfl | among
              · exact ⟨_, List.mem_cons_self, List.mem_cons_of_mem _ here⟩
              · exact ⟨line, List.mem_cons_of_mem _ among, here⟩

theorem exists_lines_cons {symbol : σ} (inside : symbols.endsLine symbol = false)
    (rest : List σ) :
    ∃ line others, lines symbols (symbol :: rest) = (symbol :: line) :: others := by
  rw [lines, inside, if_neg (by decide)]
  split
  · exact ⟨_, _, rfl⟩
  · exact ⟨_, _, rfl⟩

end Delimited

/-- The first piece of a list is the list, if it does not have the separator, or ends there. -/
theorem exists_splitOn_cons {σ : Type} [BEq σ] [LawfulBEq σ] (separator : σ) (content : List σ) :
    ∃ piece pieces, content.splitOn separator = piece :: pieces ∧
      ((content = piece ∧ separator ∉ content) ∨ ∃ rest, content = piece ++ separator :: rest) := by
  induction content with
  | nil => exact ⟨[], [], rfl, .inl ⟨rfl, List.not_mem_nil⟩⟩
  | cons symbol content ih =>
      obtain ⟨piece, pieces, split, ends⟩ := ih
      rw [List.splitOn_cons_eq_if_modifyHead, split]
      split
      · next here =>
          obtain rfl := eq_of_beq here
          exact ⟨[], _, rfl, .inr ⟨content, rfl⟩⟩
      · next other =>
          refine ⟨symbol :: piece, pieces, rfl, ?_⟩
          obtain ⟨rfl, absent⟩ | ⟨rest, rfl⟩ := ends
          · refine .inl ⟨rfl, ?_⟩
            rw [List.mem_cons, not_or]
            refine ⟨?_, absent⟩
            rintro rfl
            exact other (beq_self_eq_true _)
          · exact .inr ⟨rest, rfl⟩

namespace Table

variable {between : Char} {text id : String} {header row : List String}
  {rows : List (List String)} {delimiter : UInt8} {files : FileSystem} {path : FilePath}

/-- The characters of a row with one character between its cells. -/
def joined (between : Char) (row : List String) : List Char :=
  [between].intercalate (row.map String.toList)

/-- The pieces of the line of a row when it is cut somewhere else. -/
def recut (between cut : Char) (row : List String) : List String :=
  ((joined between row).splitOn cut).map String.ofList

/-- The lines of a text are the rows of a grid, with one character between the cells.  No cell is
empty or has a character with another meaning, and the first one does not begin with a mark of the
byte order. -/
structure IsGrid (between : Char) (text : String) (header : List String)
    (rows : List (List String)) : Prop where
  lines : Delimited.lines (.characters between) text.toList = (header :: rows).map (joined between)
  named : header ≠ []
  rectangular : ∀ row ∈ rows, row.length = header.length
  filled : ∀ row ∈ header :: rows, ∀ cell ∈ row, cell ≠ ""
  plain : ∀ row ∈ header :: rows, ∀ cell ∈ row,
    between ∉ cell.toList ∧ '"' ∉ cell.toList ∧ '\r' ∉ cell.toList ∧ '\n' ∉ cell.toList
  unmarked : ∀ cell, header.head? = some cell → cell.toList.head? ≠ some '\uFEFF'

theorem joined_cons_cons (between : Char) (first second : String) (row : List String) :
    joined between (first :: second :: row) =
      first.toList ++ between :: joined between (second :: row) := by
  rw [joined, List.map_cons, List.map_cons, List.intercalate_cons_cons, List.append_assoc,
    List.singleton_append, ← List.map_cons, ← joined]

theorem recut_self (filled : row ≠ []) (plain : ∀ cell ∈ row, between ∉ cell.toList) :
    recut between between row = row := by
  rw [recut, joined, List.splitOn_intercalate]
  · simp
  · simpa using plain
  · simpa using filled

/-- Cut somewhere else, a row begins with its first cell only if it has no other. -/
theorem exists_eq_singleton_of_recut {cut : Char} (other : between ≠ cut) (filled : row ≠ [])
    (same : (recut between cut row).head? = row.head?) :
    ∃ cell, row = [cell] ∧ cut ∉ cell.toList := by
  obtain ⟨piece, pieces, split, ends⟩ := exists_splitOn_cons cut (joined between row)
  obtain ⟨cell, row, rfl⟩ := List.exists_cons_of_ne_nil filled
  obtain rfl : String.ofList piece = cell := by
    rw [recut, split] at same
    exact Option.some.inj same
  cases row with
  | nil =>
      have alone : joined between [String.ofList piece] = piece := by simp [joined]
      rw [alone] at ends
      obtain ⟨-, absent⟩ | ⟨rest, longer⟩ := ends
      · exact ⟨_, rfl, by rwa [String.toList_ofList]⟩
      · simp at longer
  | cons second row =>
      rw [joined_cons_cons, String.toList_ofList] at ends
      obtain ⟨longer, -⟩ | ⟨rest, same⟩ := ends
      · simp at longer
      · simp only [List.append_cancel_left_eq, List.cons.injEq] at same
        exact absurd same.1 other

theorem recut_singleton {cut : Char} {cell : String} (absent : cut ∉ cell.toList) :
    recut between cut [cell] = [cell] := by
  have alone : joined between [cell] = cell.toList := by simp [joined]
  rw [recut, alone, List.splitOn_eq_singleton absent]
  simp

theorem mem_joined {c : Char} (member : c ∈ joined between row) :
    c = between ∨ ∃ cell ∈ row, c ∈ cell.toList := by
  induction row with
  | nil => cases member
  | cons first row ih =>
      cases row with
      | nil =>
          have alone : joined between [first] = first.toList := by simp [joined]
          rw [alone] at member
          exact .inr ⟨first, List.mem_cons_self, member⟩
      | cons second row =>
          rw [joined_cons_cons, List.mem_append, List.mem_cons] at member
          rcases member with own | same | later
          · exact .inr ⟨first, List.mem_cons_self, own⟩
          · exact .inl same
          · exact (ih later).imp_right fun ⟨cell, among, here⟩ =>
              ⟨cell, List.mem_cons_of_mem _ among, here⟩

namespace IsGrid

variable {between cut : Char} (grid : IsGrid between text header rows)

include grid

theorem ne_nil : ∀ row ∈ header :: rows, row ≠ [] := by
  intro row member
  rcases List.mem_cons.mp member with rfl | member
  · exact grid.named
  · have size := grid.rectangular row member
    have some := List.length_pos_iff.mpr grid.named
    exact List.length_pos_iff.mp (size ▸ some)

theorem quote_notMem_joined (plain : between ≠ '"') :
    ∀ row ∈ header :: rows, '"' ∉ joined between row := by
  intro row listed member
  obtain same | ⟨cell, own, inside⟩ := mem_joined member
  · exact plain same.symm
  · exact (grid.plain row listed cell own).2.1 inside

theorem quote_notMem (plain : between ≠ '"') : '"' ∉ text.toList := by
  intro member
  have inside : (Delimited.Symbols.characters between).endsLine '"' = false := rfl
  obtain ⟨line, among, here⟩ := Delimited.exists_mem_lines member inside
  rw [grid.lines] at among
  obtain ⟨row, listed, rfl⟩ := List.mem_map.mp among
  exact grid.quote_notMem_joined plain row listed here

theorem joined_ne_nil : ∀ row ∈ header :: rows, joined between row ≠ [] := by
  intro row member
  obtain ⟨cell, others, rfl⟩ := List.exists_cons_of_ne_nil (grid.ne_nil row member)
  obtain ⟨c, rest, begins⟩ := List.exists_cons_of_ne_nil
    (String.toList_eq_nil_iff.not.mpr (grid.filled _ member cell List.mem_cons_self))
  cases others with
  | nil => simp [joined, begins]
  | cons second others => simp [joined_cons_cons, begins]

/-- The records of the text are its rows, each of them cut at the delimiter. -/
theorem records_eq (plain : between ≠ '"') (noReturn : cut ≠ '\r') (noFeed : cut ≠ '\n') :
    (Delimited.records (.characters cut) text.toList).map (·.map String.ofList) =
      (header :: rows).map (recut between cut) := by
  have inLine : (Delimited.Symbols.characters cut).endsLine cut = false := by
    simp [Delimited.Symbols.endsLine, Delimited.Symbols.characters, noReturn, noFeed]
  have linewise : Delimited.isLinewise (.characters cut) text.toList = true :=
    Delimited.isLinewise_of_notMem (grid.quote_notMem plain)
  have full : ((header :: rows).map (joined between)).filter (!·.isEmpty) =
      (header :: rows).map (joined between) := by
    rw [List.filter_eq_self]
    intro line member
    obtain ⟨row, listed, rfl⟩ := List.mem_map.mp member
    simpa using grid.joined_ne_nil row listed
  rw [Delimited.records_eq_map_lines inLine rfl linewise, Delimited.lines_characters cut between,
    grid.lines, full, List.map_map, List.map_map]
  refine List.map_congr_left fun row listed => ?_
  have line : joined between row ∈ Delimited.lines (.characters cut) text.toList := by
    rw [Delimited.lines_characters cut between, grid.lines]
    exact List.mem_map_of_mem listed
  show (Delimited.fieldsOn (.characters cut) (joined between row)).map String.ofList = _
  rw [Delimited.fieldsOn_of_notMem (Delimited.endsLine_of_mem_lines line)
    (grid.quote_notMem_joined plain row listed) (grid.joined_ne_nil row listed)]
  rfl

theorem withoutMark_eq : withoutMark text.toList = text.toList := by
  cases content : text.toList with
  | nil => rfl
  | cons symbol rest =>
      rw [withoutMark.eq_2]
      rintro more same
      obtain ⟨rfl, rfl⟩ := List.cons.inj same
      have inside : (Delimited.Symbols.characters between).endsLine '\uFEFF' = false := rfl
      obtain ⟨line, others, begins⟩ := Delimited.exists_lines_cons inside rest
      obtain ⟨cell, cells, rfl⟩ := List.exists_cons_of_ne_nil grid.named
      have first := grid.lines
      rw [content, begins, List.map_cons, List.cons.injEq] at first
      obtain ⟨c, letters, spelled⟩ := List.exists_cons_of_ne_nil
        (String.toList_eq_nil_iff.not.mpr
          (grid.filled _ List.mem_cons_self cell List.mem_cons_self))
      have own : c = '\uFEFF' := by
        cases cells with
        | nil => simpa [joined, spelled] using congrArg List.head? first.1.symm
        | cons second cells =>
            simpa [joined_cons_cons, spelled] using congrArg List.head? first.1.symm
      exact grid.unmarked cell rfl (by rw [spelled, own]; rfl)

end IsGrid

/-- A file that is text is read character by character. -/
theorem readRecords_toUTF8 (ascii : delimiter < 0x80) (text : String) :
    readRecords text.toUTF8 delimiter =
      .ok ((Delimited.records (.characters (Char.ofNat delimiter.toNat))
        (withoutMark text.toList)).map (·.map String.ofList)) := by
  have decoded : String.fromUTF8? text.toUTF8 = some text := by
    rw [String.fromUTF8?, String.toUTF8_eq_toByteArray, dif_pos text.isValidUTF8]
    rfl
  rw [readRecords, if_pos ascii, decoded]

theorem IsGrid.read_eq (grid : IsGrid between text header rows) (plain : between ≠ '"')
    (isDelimiter : IsDelimiter delimiter) (stored : files.read path = .ok text.toUTF8)
    (id : String) :
    Table.read files path id delimiter 1 =
      .ok { ofRecords id 1 ((header :: rows).map
          (recut between (Char.ofNat delimiter.toNat))) with source := some path } := by
  have noReturn := isDelimiter.character_ne '\r' isDelimiter.ne_carriageReturn rfl
  have noFeed := isDelimiter.character_ne '\n' isDelimiter.ne_lineFeed rfl
  simp only [Table.read, stored, readRecords_toUTF8 isDelimiter.ascii, grid.withoutMark_eq,
    grid.records_eq plain noReturn noFeed, Except.mapError, bind, Except.bind]

/-- The table of a file with a grid has the header and the rows of the grid exactly if it is cut
where the cells were put together or if there is nothing to be cut. -/
theorem IsGrid.ofRecords_iff {cut : Char} (grid : IsGrid between text header rows) (id : String) :
    ((ofRecords id 1 ((header :: rows).map (recut between cut))).columns = header ∧
      (ofRecords id 1 ((header :: rows).map (recut between cut))).rows = rows) ↔
    between = cut ∨ ∀ row ∈ header :: rows, ∃ cell, row = [cell] ∧ cut ∉ cell.toList := by
  constructor
  · rintro ⟨columns, same⟩
    by_cases here : between = cut
    · exact .inl here
    · have uncut : ∀ row ∈ header :: rows, (recut between cut row).head? = row.head? := by
        rw [List.forall_mem_cons]
        constructor
        · -- names that are made up come behind the first
          obtain ⟨piece, pieces, split, -⟩ := exists_splitOn_cons cut (joined between header)
          have cuts : recut between cut header =
              String.ofList piece :: pieces.map String.ofList := by
            rw [recut, split, List.map_cons]
          have first := congrArg List.head? columns
          simp only [ofRecords, List.map_cons, cuts] at first
          rw [cuts, ← first]
          rfl
        · have each : rows.map (recut between cut) = rows := same
          intro row member
          exact congrArg List.head?
            (List.map_inj_left.mp (each.trans (List.map_id' rows).symm) row member)
      exact .inr fun row member =>
        exists_eq_singleton_of_recut here (grid.ne_nil row member) (uncut row member)
  · intro kept
    have whole : (header :: rows).map (recut between cut) = header :: rows := by
      refine (List.map_congr_left fun row member => ?_).trans (List.map_id' _)
      rcases kept with rfl | single
      · exact recut_self (grid.ne_nil row member) fun cell own => (grid.plain row member cell own).1
      · obtain ⟨cell, rfl, absent⟩ := single row member
        exact recut_singleton absent
    have covered : ({ id, columns := header, rows } : Table).IsCovered :=
      ⟨fun row member => grid.ne_nil row (List.mem_cons_of_mem _ member),
        fun row member => Nat.le_of_eq (grid.rectangular row member)⟩
    rw [whole, ofRecords_of_isCovered covered]
    exact ⟨rfl, rfl⟩

end Table

end Workflow
