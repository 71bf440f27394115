import Mathlib.Data.List.Forall2
import Workflow.Proofs.CommandFile.LineGrammar
import Workflow.Proofs.CommandFile.SingleLines
import Workflow.Proofs.Text.Lines

/-!
# Regenerating a command file

A command list that comes from a text by reading and editing is written as a text again.  Reading
this text gives the same commands exactly when the list is representable: no command is written
over several lines, the keys of edited commands can be keys, and the block comments of the new
text are those lines that are comments already.
-/

namespace Workflow.CommandFile

open Text

/-- How a command came into a list: as a line of a block comment, as a line outside of comments,
or by editing the parameters of a command. -/
inductive Origin (registry : Registry) (command : Command) : Prop where
  | comment (unmodified : command.modified = false)
      (same : (Command.inert 0 "" .comment).Same command)
  | line (unmodified : command.modified = false)
      (outside : opensComment (trim command.text.toList) = false)
      (same : (readLenient registry 0 command.text.toList).Same command)
  | edited (modified : command.modified = true)
      (named : Call.isName command.name.toList = true)
      (kind : command.kind = recognize registry command.name)
      (quoteless : ∀ parameter ∈ command.parameters.entries, '"' ∉ parameter.2.toList)

/-- The block comments in the text of a command list hold comments only, and every other comment
has a mark. -/
def CommentsAgree : (inComment : Bool) → List Command → Prop
  | _, [] => True
  | inComment, command :: rest =>
      let trimmed := trim command.render.toList
      if opensComment trimmed then CommentsAgree (!closesItself trimmed) rest
      else if inComment then
        command.kind = .comment ∧ CommentsAgree (!closesComment trimmed) rest
      else (command.kind = .comment → trimmed.head? = some '#') ∧ CommentsAgree false rest

/-- The keys of an edited command can be keys. -/
def HasKeys (command : Command) : Prop :=
  command.modified = true → ∀ parameter ∈ command.parameters.entries, Call.IsKey parameter.1

/-- A command list that the lines of a text can represent. -/
structure Representable (commands : List Command) : Prop where
  singleLines : ∀ command ∈ commands, '\n' ∉ command.render.toList
  keys : ∀ command ∈ commands, HasKeys command
  comments : CommentsAgree false commands

instance (command : Command) : Decidable (HasKeys command) :=
  inferInstanceAs (Decidable (_ → _))

instance (kind : CommandKind) : Decidable (kind = .comment) :=
  match kind with
  | .comment => isTrue rfl
  | .blank => isFalse nofun
  | .known _ _ => isFalse nofun
  | .unknown _ => isFalse nofun
  | .malformed _ => isFalse nofun

/-- Whether the block comments agree can be found out line by line. -/
def decideCommentsAgree :
    (inComment : Bool) → (commands : List Command) → Decidable (CommentsAgree inComment commands)
  | _, [] => isTrue trivial
  | inComment, command :: rest =>
      have := decideCommentsAgree (!closesItself (trim command.render.toList)) rest
      have := decideCommentsAgree (!closesComment (trim command.render.toList)) rest
      have := decideCommentsAgree false rest
      decidable_of_iff
        (if opensComment (trim command.render.toList) then
          CommentsAgree (!closesItself (trim command.render.toList)) rest
        else if inComment then
          command.kind = .comment ∧
            CommentsAgree (!closesComment (trim command.render.toList)) rest
        else (command.kind = .comment → (trim command.render.toList).head? = some '#') ∧
          CommentsAgree false rest) Iff.rfl

theorem representable_iff {commands : List Command} :
    Representable commands ↔ (∀ command ∈ commands, '\n' ∉ command.render.toList) ∧
      (∀ command ∈ commands, HasKeys command) ∧ CommentsAgree false commands := by
  constructor
  · rintro ⟨singleLines, keys, comments⟩
    exact ⟨singleLines, keys, comments⟩
  · rintro ⟨singleLines, keys, comments⟩
    exact ⟨singleLines, keys, comments⟩

instance (commands : List Command) : Decidable (Representable commands) :=
  have := decideCommentsAgree false commands
  decidable_of_iff _ representable_iff.symm

/-! ## Single commands -/

section

variable {registry : Registry} {command : Command}

theorem render_of_modified (modified : command.modified = true) :
    command.render = command.call.render := by
  rw [Command.render, if_pos modified]

theorem render_of_unmodified (unmodified : command.modified = false) :
    command.render = command.text := by
  rw [Command.render, if_neg (by simp [unmodified])]

theorem exists_trim_render_eq_cons (modified : command.modified = true)
    (named : Call.isName command.name.toList = true) :
    ∃ c rest, trim command.render.toList = c :: rest ∧ Call.isNameCharacter c = true := by
  rw [render_of_modified modified, Call.trim_render command.call named]
  exact Call.exists_render_eq_cons command.call named

theorem opensComment_cons {c : Char} (other : '/' ≠ c) (rest : List Char) :
    opensComment (c :: rest) = false := by
  rw [opensComment, stripStart, if_neg other]
  rfl

theorem opensComment_of_modified (modified : command.modified = true)
    (named : Call.isName command.name.toList = true) :
    opensComment (trim command.render.toList) = false := by
  obtain ⟨c, rest, starts, inName⟩ := exists_trim_render_eq_cons modified named
  have other : '/' ≠ c := by
    rintro rfl
    exact absurd inName (by decide)
  rw [starts]
  exact opensComment_cons other rest

/-- A command that opens a comment is one. -/
theorem Origin.kind_of_opensComment (origin : Origin registry command)
    (opens : opensComment (trim command.render.toList) = true) : command.kind = .comment := by
  cases origin with
  | comment unmodified same => exact same.kind.symm
  | line unmodified outside same =>
      rw [render_of_unmodified unmodified, outside] at opens
      cases opens
  | edited modified named kind quoteless =>
      rw [opensComment_of_modified modified named] at opens
      cases opens

theorem hasKeys_of_unmodified (unmodified : command.modified = false) : HasKeys command := by
  intro modified
  rw [unmodified] at modified
  cases modified

theorem Origin.hasKeys_of_comment (origin : Origin registry command)
    (isComment : command.kind = .comment) : HasKeys command := by
  cases origin with
  | comment unmodified same => exact hasKeys_of_unmodified unmodified
  | line unmodified outside same => exact hasKeys_of_unmodified unmodified
  | edited modified named kind quoteless =>
      exact absurd (kind.symm.trans isComment) (recognize_ne_comment command.name)

/-- Comments say nothing but that they are comments. -/
theorem Origin.same_inert_iff (origin : Origin registry command) (number : Nat) (text : String) :
    (Command.inert number text .comment).Same command ↔ command.kind = .comment := by
  constructor
  · intro same
    exact same.kind.symm
  · intro isComment
    cases origin with
    | comment unmodified same => exact ⟨isComment.symm, same.name, same.parameters⟩
    | line unmodified outside same =>
        exact (same_inert_of_kind (same.kind.trans isComment)).trans same
    | edited modified named kind quoteless =>
        exact absurd (kind.symm.trans isComment) (recognize_ne_comment command.name)

/-- An edited command is read back from its line exactly when its keys can be keys. -/
theorem same_readLenient_of_modified {number : Nat} {line : List Char}
    (modified : command.modified = true) (named : Call.isName command.name.toList = true)
    (kind : command.kind = recognize registry command.name)
    (quoteless : ∀ parameter ∈ command.parameters.entries, '"' ∉ parameter.2.toList)
    (trims : trim line = trim command.render.toList) :
    (readLenient registry number line).Same command ↔
      ∀ parameter ∈ command.parameters.entries, Call.IsKey parameter.1 := by
  obtain ⟨c, rest, starts, inName⟩ := exists_trim_render_eq_cons modified named
  have notBlank : trim line ≠ [] := by simp [trims, starts]
  have notComment : (trim line).head? ≠ some '#' := by
    rw [trims, starts]
    rintro same
    cases same
    exact absurd inName (by decide)
  have rendered : trim line = command.call.render.toList := by
    rw [trims, render_of_modified modified, Call.trim_render command.call named]
  have reads : Call.read command.call.render.toList = .ok command.call ↔
      ∀ parameter ∈ command.parameters.entries, Call.IsKey parameter.1 :=
    Call.read_render_iff command.call named quoteless
  rw [readLenient, readLine_eq_of_call registry number notBlank notComment, rendered, ← reads]
  cases Call.read command.call.render.toList with
  | error fault =>
      constructor
      · intro same
        exact absurd (kind.symm.trans same.kind.symm) (recognize_ne_malformed command.name fault)
      · intro impossible
        cases impossible
  | ok call =>
      constructor
      · intro same
        have name : call.name = command.name := same.name
        have parameters : call.parameters = command.parameters := same.parameters
        rw [Command.call, ← name, ← parameters]
      · intro same
        cases same
        exact ⟨kind.symm, rfl, rfl⟩

/-- A command is read back from its line outside of comments exactly when its keys can be keys
and it has a mark if it is a comment. -/
theorem Origin.same_readLenient_iff {number : Nat} {line : List Char}
    (origin : Origin registry command) (trims : trim line = trim command.render.toList) :
    (readLenient registry number line).Same command ↔
      HasKeys command ∧
        (command.kind = .comment → (trim command.render.toList).head? = some '#') := by
  cases origin with
  | comment unmodified same =>
      have vacuous := hasKeys_of_unmodified unmodified
      rw [← trims]
      constructor
      · intro reads
        exact ⟨vacuous, fun isComment => kind_readLenient_iff.mp (reads.kind.trans isComment)⟩
      · rintro ⟨-, marked⟩
        have isComment : (readLenient registry number line).kind = .comment :=
          kind_readLenient_iff.mpr (marked same.kind.symm)
        exact (same_inert_of_kind isComment).symm.trans same
  | line unmodified outside same =>
      have vacuous := hasKeys_of_unmodified unmodified
      rw [render_of_unmodified unmodified] at trims ⊢
      constructor
      · intro reads
        rw [← trims]
        exact ⟨vacuous, fun isComment => kind_readLenient_iff.mp (reads.kind.trans isComment)⟩
      · intro _
        exact (same_readLenient trims).trans same
  | edited modified named kind quoteless =>
      rw [same_readLenient_of_modified modified named kind quoteless trims]
      constructor
      · intro keys
        refine ⟨fun _ => keys, fun isComment => ?_⟩
        exact absurd (kind.symm.trans isComment) (recognize_ne_comment command.name)
      · rintro ⟨keys, -⟩
        exact keys modified

end

/-! ## Command lists -/

section

variable {registry : Registry} {commands : List Command}

theorem length_readLines (inComment : Bool) (number : Nat) (lines : List (List Char)) :
    (readLines registry inComment number lines).length = lines.length := by
  induction lines generalizing inComment number with
  | nil => rfl
  | cons line rest ih =>
      simp only [readLines]
      split
      · rw [List.length_cons, ih, List.length_cons]
      · split
        · rw [List.length_cons, ih, List.length_cons]
        · rw [List.length_cons, ih, List.length_cons]

/-- Commands with a line each are read back exactly when their keys can be keys and their block
comments agree. -/
theorem forall₂_readLines_iff (origins : ∀ command ∈ commands, Origin registry command)
    {lines : List (List Char)}
    (trims : lines.map trim = commands.map fun command => trim command.render.toList)
    (inComment : Bool) (number : Nat) :
    List.Forall₂ Command.Same (readLines registry inComment number lines) commands ↔
      (∀ command ∈ commands, HasKeys command) ∧ CommentsAgree inComment commands := by
  induction commands generalizing lines inComment number with
  | nil =>
      rw [List.map_nil, List.map_eq_nil_iff] at trims
      subst trims
      simp [readLines, CommentsAgree]
  | cons command rest ih =>
      obtain ⟨line, others, rfl, here, trimsRest⟩ := List.map_eq_cons_iff.mp trims
      have origin := origins command List.mem_cons_self
      have ih := fun inComment => ih (fun other member => origins other
        (List.mem_cons_of_mem _ member)) trimsRest inComment (number + 1)
      simp only [readLines, CommentsAgree]
      rw [here]
      have keys := origin.hasKeys_of_comment
      by_cases opens : opensComment (trim command.render.toList) = true
      · have isComment := origin.kind_of_opensComment opens
        rw [if_pos opens, if_pos opens, List.forall₂_cons, ih, origin.same_inert_iff,
          List.forall_mem_cons]
        tauto
      · rw [if_neg opens, if_neg opens]
        by_cases inside : inComment = true
        · rw [if_pos inside, if_pos inside, List.forall₂_cons, ih, origin.same_inert_iff,
            List.forall_mem_cons]
          tauto
        · rw [if_neg inside, if_neg inside, List.forall₂_cons, ih,
            origin.same_readLenient_iff here, List.forall_mem_cons]
          tauto

theorem toList_render (commands : List Command) :
    (render commands).toList = unlines (commands.map fun command => command.render.toList) := by
  simp [render, unlines, List.flatMap_map]

/-- A list of commands that were read or edited is read back from its text exactly when it is
representable. -/
theorem forall₂_read_render_iff (origins : ∀ command ∈ commands, Origin registry command) :
    List.Forall₂ Command.Same (read registry (render commands)) commands ↔
      Representable commands := by
  have single : (∀ line ∈ commands.map fun command => command.render.toList, '\n' ∉ line) ↔
      ∀ command ∈ commands, '\n' ∉ command.render.toList := List.forall_mem_map
  rw [read, toList_render]
  constructor
  · intro same
    have lengths := same.length_eq
    rw [length_readLines] at lengths
    have singleLines := (length_lines_unlines_iff _).mp (by rw [lengths, List.length_map])
    rw [lines_unlines singleLines] at same
    obtain ⟨keys, comments⟩ := (forall₂_readLines_iff origins
      (by simp [Function.comp_def, trim_withoutReturn]) _ _).mp same
    exact ⟨single.mp singleLines, keys, comments⟩
  · rintro ⟨singleLines, keys, comments⟩
    rw [lines_unlines (single.mpr singleLines)]
    exact (forall₂_readLines_iff origins (by simp [Function.comp_def, trim_withoutReturn]) _ _).mpr
      ⟨keys, comments⟩

end

/-! ## Where commands come from -/

section

variable {registry : Registry} {command : Command}

theorem origin_readLenient (number : Nat) {line : List Char}
    (outside : opensComment (trim line) = false) :
    Origin registry (readLenient registry number line) := by
  obtain ⟨text, unmodified⟩ := text_readLenient registry number line
  apply Origin.line unmodified
  · rw [text, String.toList_ofList, outside]
  · apply same_readLenient
    rw [text, String.toList_ofList]

/-- A command that may be edited has a name, and its values hold no quotes. -/
theorem Origin.call_of_isEditable (origin : Origin registry command)
    (editable : command.isEditable = true) :
    Call.isName command.name.toList = true ∧ command.kind = recognize registry command.name ∧
      ∀ parameter ∈ command.parameters.entries, '"' ∉ parameter.2.toList := by
  cases origin with
  | comment unmodified same =>
      rw [Command.isEditable, ← same.kind] at editable
      cases editable
  | line unmodified outside same =>
      rw [Command.isEditable, ← same.kind] at editable
      have call := CommandFile.call_of_isEditable editable
      rw [same.name, same.kind, same.parameters] at call
      exact call
  | edited modified named kind quoteless => exact ⟨named, kind, quoteless⟩

theorem Origin.numbered (origin : Origin registry command) (line : Nat) :
    Origin registry { command with line } := by
  cases origin with
  | comment unmodified same => exact .comment unmodified ⟨same.kind, same.name, same.parameters⟩
  | line unmodified outside same =>
      exact .line unmodified outside ⟨same.kind, same.name, same.parameters⟩
  | edited modified named kind quoteless => exact .edited modified named kind quoteless

theorem Origin.withStatus (origin : Origin registry command) (status : StatusRecord) :
    Origin registry { command with status } := by
  cases origin with
  | comment unmodified same => exact .comment unmodified ⟨same.kind, same.name, same.parameters⟩
  | line unmodified outside same =>
      exact .line unmodified outside ⟨same.kind, same.name, same.parameters⟩
  | edited modified named kind quoteless => exact .edited modified named kind quoteless

theorem Origin.get?_of_known (origin : Origin registry command) {definition : Definition}
    {behavior : Behavior} (known : command.kind = .known definition behavior) :
    registry.get? command.name = some ⟨definition, behavior⟩ := by
  have editable : command.isEditable = true := by
    rw [Command.isEditable, known]
  have kind := (origin.call_of_isEditable editable).2.1
  rw [known, recognize] at kind
  split at kind
  · next found =>
      cases kind
      exact found
  · cases kind

theorem Origin.recognizedBy (origin : Origin registry command) : command.RecognizedBy registry :=
  fun _ _ known =>
    List.mem_map_of_mem (OrderedMap.get?_eq_some_iff_mem.mp (origin.get?_of_known known))

theorem Origin.setParameter {after : Command} {name value : String}
    (origin : Origin registry command) (changes : command.setParameter name value = .ok after) :
    Origin registry after := by
  simp only [Command.setParameter] at changes
  split at changes
  · cases changes
  · next editable =>
      split at changes
      · cases changes
      · next noQuote =>
          cases changes
          obtain ⟨named, kind, quoteless⟩ := origin.call_of_isEditable (by simpa using editable)
          refine .edited rfl named kind ?_
          intro parameter member
          rcases OrderedMap.mem_write member with rfl | kept
          · simpa using noQuote
          · exact quoteless parameter kept

/-- Every command of a file has an origin. -/
theorem origin_of_mem_read {text : String} (member : command ∈ read registry text) :
    Origin registry command := by
  refine forall_mem_readLines ?_ ?_ _ _ _ command member
  · intro number text
    exact .comment rfl ⟨rfl, rfl, rfl⟩
  · intro number line outside
    exact origin_readLenient number outside

/-- A line that is read as a command opens no comment. -/
theorem opensComment_of_readNumbered {number : Nat} {text : String}
    (held : readNumbered registry number text = .ok command) :
    opensComment (trim text.toList) = false := by
  cases starts : trim text.toList with
  | nil => rfl
  | cons c rest =>
      have other : '/' ≠ c := by
        rintro rfl
        have notBlank : trim text.toList ≠ [] := by simp [starts]
        have notComment : (trim text.toList).head? ≠ some '#' := by simp [starts]
        obtain ⟨written, ⟨named, -, -⟩, writes, -, -⟩ :=
          exists_written_of_readNumbered notBlank notComment held
        obtain ⟨notEmpty, inName⟩ := Bool.and_eq_true_iff.mp named
        obtain ⟨first, others, name⟩ := List.exists_cons_of_ne_nil (bne_iff_ne.mp notEmpty)
        rw [starts, Call.WrittenCall.text, name, List.cons_append, List.cons.injEq] at writes
        rw [name, writes.1] at inName
        exact absurd (List.all_eq_true.mp inName '/' List.mem_cons_self) (by decide)
      exact opensComment_cons other rest

/-- The command of an inserted line has an origin. -/
theorem origin_of_readNumbered {number : Nat} {text : String}
    (held : readNumbered registry number text = .ok command) : Origin registry command := by
  have outside := opensComment_of_readNumbered held
  have lenient : readLenient registry number text.toList = command := by
    rw [readLenient, readLine_eq_of_readNumbered held]
  rw [← lenient]
  exact origin_readLenient number outside

end

end Workflow.CommandFile
