import Workflow.Proofs.CommandFile.SingleLines

/-!
# Block comments

Reading the lines of a file keeps one flag: whether a block comment is open.  A line that starts
with `/*` sets the flag anew, whatever it was.  So a comment of one line ends the block comment
around it, and the lines behind it are read as calls again although their block is not closed.
A block comment covers the lines up to the first line that closes it or is a comment of one line.
-/

namespace Workflow.Text

theorem length_le_utf8ByteSize (text : List Char) :
    text.length ≤ (String.ofList text).utf8ByteSize := by
  induction text with
  | nil => exact Nat.zero_le _
  | cons c text ih =>
      have some := Char.utf8Size_pos c
      rw [← List.singleton_append, String.ofList_append, String.utf8ByteSize_append,
        ← String.singleton_eq_ofList, String.utf8ByteSize_singleton, List.length_append,
        List.length_singleton]
      omega

end Workflow.Text

namespace Workflow.CommandFile

open Text

/-- A comment of one line: it starts with `/*` and, from the fourth byte on, ends with `*/`. -/
structure IsNote (line : List Char) : Prop where
  starts : ['/', '*'] <+: trim line
  spacious : 4 ≤ (String.ofList (trim line)).utf8ByteSize
  ends : ['*', '/'] <:+ trim line

/-- A line that opens a block comment: it starts with `/*` and is no comment of one line. -/
structure OpensBlock (line : List Char) : Prop where
  starts : ['/', '*'] <+: trim line
  unended : ¬ IsNote line

/-- A line that closes a block comment. -/
def ClosesBlock (line : List Char) : Prop := ['*', '/'] <+: trim line

/-- The line `opener` opens a block comment that no line above the line `index` has closed or
ended. -/
structure Covers (content : List (List Char)) (opener index : Nat) : Prop where
  above : opener < index
  opens : ∃ opening, content[opener]? = some opening ∧ OpensBlock opening
  stays : ∀ between line, opener < between → between < index → content[between]? = some line →
    ¬ ClosesBlock line ∧ ¬ IsNote line

instance (line : List Char) : Decidable (IsNote line) :=
  decidable_of_iff
    (['/', '*'] <+: trim line ∧ 4 ≤ (String.ofList (trim line)).utf8ByteSize ∧
      ['*', '/'] <:+ trim line)
    ⟨fun ⟨starts, spacious, ends⟩ => ⟨starts, spacious, ends⟩,
      fun ⟨starts, spacious, ends⟩ => ⟨starts, spacious, ends⟩⟩

instance (line : List Char) : Decidable (OpensBlock line) :=
  decidable_of_iff (['/', '*'] <+: trim line ∧ ¬ IsNote line)
    ⟨fun ⟨starts, unended⟩ => ⟨starts, unended⟩, fun ⟨starts, unended⟩ => ⟨starts, unended⟩⟩

instance (line : List Char) : Decidable (ClosesBlock line) :=
  inferInstanceAs (Decidable (['*', '/'] <+: trim line))

/-- Whether a block comment is open behind a line. -/
def isOpenBehind (isOpen : Bool) (line : List Char) : Bool :=
  if opensComment (trim line) then !closesItself (trim line)
  else isOpen && !closesComment (trim line)

/-- What a line is read as if a block comment may be open above it. -/
def readBelow (registry : Registry) (isOpen : Bool) (number : Nat) (line : List Char) : Command :=
  if opensComment (trim line) || isOpen then .inert number (String.ofList line) .comment
  else readLenient registry number line

/-! ## The marks of block comments -/

section

variable {line : List Char}

theorem opensComment_iff : opensComment (trim line) = true ↔ ['/', '*'] <+: trim line :=
  isSome_stripStart_iff

theorem closesComment_iff : closesComment (trim line) = true ↔ ClosesBlock line :=
  isSome_stripStart_iff

/-- Between the two marks of a comment there is no difference between bytes and characters. -/
theorem four_le_length_iff {trimmed : List Char} (starts : ['/', '*'] <+: trimmed)
    (ends : ['*', '/'] <:+ trimmed) :
    4 ≤ trimmed.length ↔ 4 ≤ (String.ofList trimmed).utf8ByteSize := by
  obtain ⟨rest, rfl⟩ := starts
  match rest with
  | [] => exact absurd ends (by decide)
  | [c] =>
      obtain ⟨front, same⟩ := ends
      have last : c = '/' := by
        have reversed := congrArg List.getLast? same
        simpa using reversed.symm
      subst last
      decide
  | c :: d :: rest =>
      have long : 4 ≤ (['/', '*'] ++ c :: d :: rest).length := by simp
      exact ⟨fun _ => long.trans (length_le_utf8ByteSize _), fun _ => long⟩

theorem closesItself_iff (starts : ['/', '*'] <+: trim line) :
    closesItself (trim line) = true ↔ IsNote line := by
  have ends : (stripStart ['/', '*'] (trim line).reverse).isSome = true ↔
      ['*', '/'] <:+ trim line := by
    rw [isSome_stripStart_iff, ← List.reverse_prefix]
    rfl
  rw [closesItself, Bool.and_eq_true, decide_eq_true_iff, ends]
  constructor
  · rintro ⟨long, here⟩
    exact ⟨starts, (four_le_length_iff starts here).mp long, here⟩
  · rintro ⟨-, spacious, here⟩
    exact ⟨(four_le_length_iff starts here).mpr spacious, here⟩

/-- Behind a line a block comment is open if the line opens one, or if one was open that the line
leaves open. -/
theorem isOpenBehind_iff {isOpen : Bool} :
    isOpenBehind isOpen line = true ↔
      OpensBlock line ∨ (isOpen = true ∧ ¬ ClosesBlock line ∧ ¬ IsNote line) := by
  rw [isOpenBehind]
  by_cases starts : ['/', '*'] <+: trim line
  · rw [if_pos (opensComment_iff.mpr starts), Bool.not_eq_true', ← Bool.not_eq_true,
      closesItself_iff starts]
    constructor
    · intro unended
      exact .inl ⟨starts, unended⟩
    · rintro (opens | ⟨-, -, unended⟩)
      · exact opens.unended
      · exact unended
  · rw [if_neg (mt opensComment_iff.mp starts), Bool.and_eq_true, Bool.not_eq_true',
      ← Bool.not_eq_true, closesComment_iff]
    constructor
    · rintro ⟨isOpen, unclosed⟩
      exact .inr ⟨isOpen, unclosed, fun note => starts note.starts⟩
    · rintro (opens | ⟨isOpen, unclosed, -⟩)
      · exact absurd opens.starts starts
      · exact ⟨isOpen, unclosed⟩

end

/-! ## The flag of the reader -/

section

variable {content : List (List Char)} {opener index : Nat}

/-- What one line adds: its command, and the flag for the lines below it. -/
theorem readLines_cons (registry : Registry) (isOpen : Bool) (number : Nat) (line : List Char)
    (rest : List (List Char)) :
    readLines registry isOpen number (line :: rest) =
      readBelow registry isOpen number line ::
        readLines registry (isOpenBehind isOpen line) (number + 1) rest := by
  rw [readLines, readBelow, isOpenBehind]
  by_cases starts : opensComment (trim line) = true
  · simp only [starts, if_true, Bool.true_or]
  · cases isOpen <;> simp [starts]

/-- The flag above a line is what the lines above it have left behind. -/
theorem getElem?_readLines (registry : Registry) (isOpen : Bool) (number : Nat)
    (content : List (List Char)) (index : Nat) :
    (readLines registry isOpen number content)[index]? =
      content[index]?.map
        (readBelow registry ((content.take index).foldl isOpenBehind isOpen) (number + index)) := by
  induction content generalizing isOpen number index with
  | nil => rfl
  | cons line rest ih =>
      rw [readLines_cons]
      cases index with
      | zero => rfl
      | succ index =>
          rw [List.getElem?_cons_succ, List.getElem?_cons_succ, ih, List.take_succ_cons,
            List.foldl_cons, Nat.add_right_comm, Nat.add_assoc]

/-- A line is covered from the line above it if that one opens a block comment, and from further
up if that one is covered from there and neither closes nor ends the block comment. -/
theorem covers_succ_iff :
    Covers content opener (index + 1) ↔
      (opener = index ∧ ∃ opening, content[index]? = some opening ∧ OpensBlock opening) ∨
        (Covers content opener index ∧
          ∀ line, content[index]? = some line → ¬ ClosesBlock line ∧ ¬ IsNote line) := by
  constructor
  · intro covers
    by_cases last : opener = index
    · exact .inl ⟨last, last ▸ covers.opens⟩
    · have above : opener < index := Nat.lt_of_le_of_ne (Nat.le_of_lt_succ covers.above) last
      refine .inr ⟨⟨above, covers.opens, ?_⟩, ?_⟩
      · intro between line behind before here
        exact covers.stays between line behind (Nat.lt_succ_of_lt before) here
      · intro line here
        exact covers.stays index line above (Nat.lt_succ_self index) here
  · rintro (⟨rfl, opens⟩ | ⟨covers, stays⟩)
    · refine ⟨Nat.lt_succ_self opener, opens, ?_⟩
      intro between line behind before
      omega
    · refine ⟨Nat.lt_succ_of_lt covers.above, covers.opens, ?_⟩
      intro between line behind before here
      rcases Nat.lt_succ_iff_lt_or_eq.mp before with earlier | rfl
      · exact covers.stays between line behind earlier here
      · exact stays line here

/-- The flag is set above a line exactly if some line above opens a block comment that covers
it. -/
theorem isOpen_iff_exists_covers (content : List (List Char)) (index : Nat) :
    (content.take index).foldl isOpenBehind false = true ↔
      ∃ opener, Covers content opener index := by
  induction index with
  | zero => exact ⟨nofun, fun ⟨opener, covers⟩ => absurd covers.above (Nat.not_lt_zero opener)⟩
  | succ index ih =>
      simp only [covers_succ_iff]
      rw [List.take_add_one, List.foldl_append]
      cases here : content[index]? with
      | none =>
          rw [Option.toList_none, List.foldl_nil, ih]
          constructor
          · rintro ⟨opener, covers⟩
            exact ⟨opener, .inr ⟨covers, nofun⟩⟩
          · rintro ⟨opener, ⟨-, opening, same, -⟩ | ⟨covers, -⟩⟩
            · cases same
            · exact ⟨opener, covers⟩
      | some line =>
          rw [Option.toList_some, List.foldl_cons, List.foldl_nil, isOpenBehind_iff, ih]
          constructor
          · rintro (opens | ⟨⟨opener, covers⟩, stays⟩)
            · exact ⟨index, .inl ⟨rfl, line, rfl, opens⟩⟩
            · refine ⟨opener, .inr ⟨covers, ?_⟩⟩
              intro other same
              cases same
              exact stays
          · rintro ⟨opener, ⟨-, opening, same, opens⟩ | ⟨covers, stays⟩⟩
            · cases same
              exact .inl opens
            · exact .inr ⟨⟨opener, covers⟩, stays line rfl⟩

end

/-! ## What is read inside of a block comment -/

section

variable {opener index : Nat} {opening line : List Char}

/-- A line of a file starts a comment or is covered by one, or it is read alone. -/
theorem getElem?_read (registry : Registry) {text : String}
    (here : (lines text.toList)[index]? = some line) :
    ((['/', '*'] <+: trim line ∨ ∃ opener, Covers (lines text.toList) opener index) ∧
      (read registry text)[index]? = some (.inert (index + 1) (String.ofList line) .comment)) ∨
    (¬ (['/', '*'] <+: trim line ∨ ∃ opener, Covers (lines text.toList) opener index) ∧
      (read registry text)[index]? = some (readLenient registry (index + 1) line)) := by
  rw [read, getElem?_readLines, here, Option.map_some, readBelow, Nat.add_comm 1 index,
    ← isOpen_iff_exists_covers, ← opensComment_iff, ← Bool.or_eq_true]
  split
  · next shielded => exact .inl ⟨shielded, rfl⟩
  · next alone => exact .inr ⟨alone, rfl⟩

/-- Below an opened block comment that no line closes, what covers a line is opened there or
further down. -/
theorem exists_covers_from {content : List (List Char)} (held : content[opener]? = some opening)
    (opens : OpensBlock opening) (below : opener < index)
    (unclosed : ∀ between line, opener < between → between < index →
      content[between]? = some line → ¬ ClosesBlock line)
    (covered : ∃ other, Covers content other index) :
    ∃ last, opener ≤ last ∧ Covers content last index := by
  obtain ⟨other, covers⟩ := covered
  by_cases later : opener ≤ other
  · exact ⟨other, later, covers⟩
  · -- What an earlier line has opened has no comment of one line below it either.
    have earlier : other < opener := Nat.lt_of_not_le later
    refine ⟨opener, le_refl opener, below, ⟨opening, held, opens⟩, ?_⟩
    intro between line above before here
    exact ⟨unclosed between line above before here,
      (covers.stays between line (earlier.trans above) before here).2⟩

/-- Below a line that opens a block comment, up to the line that closes it and with that line, or
to the end of the text if no line closes it, a line is a comment exactly if it has the mark of one
itself or is covered by a block comment that is opened there or further down.  So it is one
whenever there is no comment of one line between.  Any other line is read as if it stood alone. -/
theorem comment_below_opener_iff (registry : Registry) {text : String}
    (held : (lines text.toList)[opener]? = some opening) (opens : OpensBlock opening)
    (below : opener < index) (here : (lines text.toList)[index]? = some line)
    (unclosed : ∀ between line, opener < between → between < index →
      (lines text.toList)[between]? = some line → ¬ ClosesBlock line) :
    ((read registry text)[index]? = some (.inert (index + 1) (String.ofList line) .comment) ↔
      ['/', '*'] <+: trim line ∨ (trim line).head? = some '#' ∨
        ∃ last, opener ≤ last ∧ Covers (lines text.toList) last index) ∧
    ((∀ between line, opener < between → between < index →
        (lines text.toList)[between]? = some line → ¬ IsNote line) →
      (read registry text)[index]? = some (.inert (index + 1) (String.ofList line) .comment)) ∧
    ((read registry text)[index]? ≠ some (.inert (index + 1) (String.ofList line) .comment) →
      (read registry text)[index]? = some (readLenient registry (index + 1) line)) := by
  rcases getElem?_read registry here with ⟨shielded, isComment⟩ | ⟨unshielded, isAlone⟩
  · refine ⟨⟨fun _ => ?_, fun _ => isComment⟩, fun _ => isComment,
      fun other => absurd isComment other⟩
    rcases shielded with starts | covered
    · exact .inl starts
    · exact .inr (.inr (exists_covers_from held opens below unclosed covered))
  · refine ⟨?_, ?_, fun _ => isAlone⟩
    · rw [isAlone]
      constructor
      · intro same
        have kind : (readLenient registry (index + 1) line).kind = .comment := by
          rw [Option.some.inj same]
          rfl
        exact .inr (.inl (kind_readLenient_iff.mp kind))
      · rintro (starts | marked | ⟨last, -, covers⟩)
        · exact absurd (.inl starts) unshielded
        · rw [readLenient_of_mark registry (index + 1) marked]
        · exact absurd (.inr ⟨last, covers⟩) unshielded
    · intro noNote
      refine absurd (.inr ⟨opener, below, ⟨opening, held, opens⟩, ?_⟩) unshielded
      intro between line above before found
      exact ⟨unclosed between line above before found, noNote between line above before found⟩

/-- A call and the closing line below an opened block comment. -/
theorem comment_below_opener_iff_disabled :
    ((lines "  /* off\nExit()\n*/\nExit()".toList)[0]? = some "  /* off".toList ∧
      OpensBlock "  /* off".toList ∧ 0 < 2 ∧
      (lines "  /* off\nExit()\n*/\nExit()".toList)[2]? = some "*/".toList ∧
      (∀ between line, 0 < between → between < 2 →
        (lines "  /* off\nExit()\n*/\nExit()".toList)[between]? = some line →
          ¬ ClosesBlock line)) ∧
    (read Builtin.registry "  /* off\nExit()\n*/\nExit()")[2]? =
      some (.inert 3 "*/" .comment) := by
  have held : (lines "  /* off\nExit()\n*/\nExit()".toList)[0]? = some "  /* off".toList := by
    decide
  have opens : OpensBlock "  /* off".toList := by decide
  have here : (lines "  /* off\nExit()\n*/\nExit()".toList)[2]? = some "*/".toList := by decide
  have only : ∀ between line, 0 < between → between < 2 →
      (lines "  /* off\nExit()\n*/\nExit()".toList)[between]? = some line →
        ¬ ClosesBlock line ∧ ¬ IsNote line := by
    intro between line above before found
    obtain rfl : between = 1 := by omega
    have second : (lines "  /* off\nExit()\n*/\nExit()".toList)[1]? = some "Exit()".toList := by
      decide
    obtain rfl := Option.some.inj (second.symm.trans found)
    decide
  have unclosed : ∀ between line, 0 < between → between < 2 →
      (lines "  /* off\nExit()\n*/\nExit()".toList)[between]? = some line →
        ¬ ClosesBlock line :=
    fun between line above before found => (only between line above before found).1
  refine ⟨⟨held, opens, by decide, here, unclosed⟩, ?_⟩
  exact (comment_below_opener_iff Builtin.registry held opens (by decide) here unclosed).2.1
    fun between line above before found => (only between line above before found).2

/-- A comment of one line within a block comment ends it: the call below is a command again. -/
theorem note_ends_block :
    ¬ ∀ (text : String) (opener index : Nat) (opening line : List Char),
      (lines text.toList)[opener]? = some opening → OpensBlock opening → opener < index →
      (lines text.toList)[index]? = some line →
      (∀ between line, opener < between → between < index →
        (lines text.toList)[between]? = some line → ¬ ClosesBlock line) →
      (read Builtin.registry text)[index]? =
        some (.inert (index + 1) (String.ofList line) .comment) := by
  intro commented
  have third := commented "/*\n/* a note */\nMessage(Message=\"x\")\n*/\n" 0 2 "/*".toList
    "Message(Message=\"x\")".toList (by decide) (by decide) (by decide) (by decide) ?_
  · have inert := congrArg (Option.map Command.isInert) third
    exact absurd inert (by decide +kernel)
  · intro between line above before found
    obtain rfl : between = 1 := by omega
    have second : (lines "/*\n/* a note */\nMessage(Message=\"x\")\n*/\n".toList)[1]? =
        some "/* a note */".toList := by
      decide
    obtain rfl := Option.some.inj (second.symm.trans found)
    decide

end

end Workflow.CommandFile
