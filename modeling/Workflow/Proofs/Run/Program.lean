import Workflow.Processor
import Mathlib.Data.List.Basic

/-!
# Command lists as programs

A command list whose blocks are properly nested is the text of a tree: every block has an opener,
a body and a terminator of its own.  In such a list the search for the terminator of a block
finds the one that belongs to the block, unless the body holds a block of the same kind with the
name that is searched for.
-/

namespace Workflow.Run

/-- A command list as a tree of blocks. -/
inductive Program where
  | done
  | single (command : Command) (rest : Program)
  | block (kind : BlockKind) (opener : Command) (body : Program) (closer : Command)
      (rest : Program)

namespace Program

/-- The commands of a program in the order in which they are written. -/
def commands : Program → List Command
  | .done => []
  | .single command rest => command :: rest.commands
  | .block _ opener body closer rest =>
      opener :: (body.commands ++ closer :: rest.commands)

/-- The number of commands. -/
def size (program : Program) : Nat := program.commands.length

@[simp] theorem size_single (command : Command) (rest : Program) :
    (single command rest).size = rest.size + 1 := rfl

@[simp] theorem size_block (kind : BlockKind) (opener closer : Command) (body rest : Program) :
    (block kind opener body closer rest).size = body.size + 1 + rest.size + 1 := by
  simp [size, commands]
  omega

/-- Every block is opened and closed by commands of its kind with the same written name, and no
other command plays a part in the block structure. -/
def Nested : Program → Prop
  | .done => True
  | .single command rest => command.role? = none ∧ rest.Nested
  | .block kind opener body closer rest =>
      opener.role? = some kind.opener ∧ closer.role? = some kind.terminator ∧
        (opener.parameter? "Name").isSome ∧ (closer.parameter? "Name").isSome ∧
        writtenName closer = writtenName opener ∧ body.Nested ∧ rest.Nested

/-- Whether a block of a kind and name stands in the program at any depth. -/
def Holds (kind : BlockKind) (name : String) : Program → Prop
  | .done => False
  | .single _ rest => rest.Holds kind name
  | .block blockKind opener body _ rest =>
      (blockKind = kind ∧ writtenName opener = name) ∨ body.Holds kind name ∨
        rest.Holds kind name

/-- No block holds another block of its own kind and name. -/
def Unrepeated : Program → Prop
  | .done => True
  | .single _ rest => rest.Unrepeated
  | .block kind opener body _ rest =>
      ¬ body.Holds kind (writtenName opener) ∧ body.Unrepeated ∧ rest.Unrepeated

end Program

/-! ## The search for a terminator -/

/-- Whether a command closes a block of this kind whose written name is the given one. -/
def commandCloses (kind : BlockKind) (name : String) (command : Command) : Bool :=
  command.role? == some kind.terminator &&
    (command.parameter? "Name").map Text.trimmed == some name

theorem commandCloses_eq_false_of_role {kind : BlockKind} {name : String} {command : Command}
    (role : command.role? ≠ some kind.terminator) : commandCloses kind name command = false := by
  simp [commandCloses, role]

theorem opener_ne_terminator (left right : BlockKind) : left.opener ≠ right.terminator := by
  cases left <;> cases right <;> decide

theorem terminator_injective {left right : BlockKind} (same : left.terminator = right.terminator) :
    left = right := by
  cases left <;> cases right <;> first | rfl | cases same

/-- A terminator of a kind closes the blocks of the kind with its written name. -/
theorem commandCloses_iff_of_terminator {kind : BlockKind} {closer : Command}
    (role : closer.role? = some kind.terminator) (named : (closer.parameter? "Name").isSome)
    (other : BlockKind) (name : String) :
    commandCloses other name closer = true ↔ kind = other ∧ writtenName closer = name := by
  obtain ⟨text, given⟩ := Option.isSome_iff_exists.mp named
  simp only [commandCloses, role, given, writtenName, Bool.and_eq_true, beq_iff_eq,
    Option.some.injEq, Option.map_some]
  constructor
  · rintro ⟨kinds, names⟩
    exact ⟨terminator_injective kinds, names⟩
  · rintro ⟨rfl, names⟩
    exact ⟨rfl, names⟩

/-- A nested program has a terminator for a block exactly when it holds such a block. -/
theorem Program.exists_closes_iff_holds {program : Program} (nested : program.Nested)
    (kind : BlockKind) (name : String) :
    (∃ command ∈ program.commands, commandCloses kind name command = true) ↔
      program.Holds kind name := by
  induction program with
  | done => simp [commands, Holds]
  | single command rest ih =>
      have plain : commandCloses kind name command = false :=
        commandCloses_eq_false_of_role (by rw [nested.1]; simp)
      simp [commands, Holds, plain, ih nested.2]
  | block blockKind opener body closer rest bodyIH restIH =>
      obtain ⟨opens, closing, -, named, sameName, bodyNested, restNested⟩ := nested
      have opening : commandCloses kind name opener = false := by
        apply commandCloses_eq_false_of_role
        rw [opens]
        simp [opener_ne_terminator]
      have closed := commandCloses_iff_of_terminator closing named kind name
      rw [sameName] at closed
      simp only [commands, List.mem_cons, List.mem_append, Holds, ← bodyIH bodyNested,
        ← restIH restNested, ← closed]
      constructor
      · rintro ⟨command, rfl | inBody | rfl | inRest, closes⟩
        · rw [opening] at closes
          cases closes
        · exact .inr (.inl ⟨command, inBody, closes⟩)
        · exact .inl closes
        · exact .inr (.inr ⟨command, inRest, closes⟩)
      · rintro (closes | ⟨command, inBody, closes⟩ | ⟨command, inRest, closes⟩)
        · exact ⟨closer, .inr (.inr (.inl rfl)), closes⟩
        · exact ⟨command, .inr (.inl inBody), closes⟩
        · exact ⟨command, .inr (.inr (.inr inRest)), closes⟩

/-- The commands of a plan in order. -/
def Plan.commands (plan : Plan) : List Command := plan.toList.map (·.command)

/-- Every command of a list is in the plan of a run of all of them. -/
theorem commands_plan (commands : List Command) :
    Plan.commands (Processor.plan commands fun _ => true) = commands := by
  simp only [Plan.commands, Processor.plan]
  rw [List.filter_eq_self.mpr (fun _ _ => rfl)]
  apply List.ext_getElem <;> simp

/-- The length of a body is found by searching the commands behind the opener. -/
theorem bodyLength?_eq (plan : Plan) (position : Nat) (kind : BlockKind) (name : String) :
    bodyLength? plan position kind name =
      (plan.commands.drop (position + 1)).findIdx? (commandCloses kind name) := by
  have behind : (plan.drop (position + 1)).toList = plan.toList.drop (position + 1) := by
    rw [Array.drop_eq_extract, Array.toList_extract, List.extract_eq_take_drop]
    exact List.take_of_length_le (by simp)
  have search := List.findIdx?_toArray (closes kind name) (plan.drop (position + 1)).toList
  rw [Array.toArray_toList, behind] at search
  rw [bodyLength?, search, Plan.commands, ← List.map_drop, List.findIdx?_map]
  rfl

/-- The commands of a program stand in a plan from a position on. -/
def Plan.HasAt (plan : Plan) (position : Nat) (program : Program) : Prop :=
  ∃ behind, plan.commands.drop position = program.commands ++ behind

theorem drop_of_drop_eq_append {α : Type} {list : List α} {position : Nat}
    (front rest : List α) (whole : list.drop position = front ++ rest) :
    list.drop (position + front.length) = rest := by
  rw [← List.drop_drop, whole, List.drop_left]

theorem getElem?_of_drop_eq_cons {α : Type} {list rest : List α} {element : α} {position : Nat}
    (whole : list.drop position = element :: rest) : list[position]? = some element := by
  rw [← List.head?_drop, whole]
  rfl

namespace Plan.HasAt

variable {plan : Plan} {position : Nat} {kind : BlockKind} {command opener closer : Command}
variable {body rest : Program}

theorem single_command (placed : plan.HasAt position (.single command rest)) :
    plan.commands[position]? = some command := by
  obtain ⟨behind, whole⟩ := placed
  exact getElem?_of_drop_eq_cons whole

theorem single_rest (placed : plan.HasAt position (.single command rest)) :
    plan.HasAt (position + 1) rest := by
  obtain ⟨behind, whole⟩ := placed
  exact ⟨behind, drop_of_drop_eq_append [command] _ whole⟩

theorem block_opener (placed : plan.HasAt position (.block kind opener body closer rest)) :
    plan.commands[position]? = some opener := by
  obtain ⟨behind, whole⟩ := placed
  exact getElem?_of_drop_eq_cons whole

theorem block_behind (placed : plan.HasAt position (.block kind opener body closer rest)) :
    ∃ behind, plan.commands.drop (position + 1) =
      body.commands ++ closer :: (rest.commands ++ behind) := by
  obtain ⟨behind, whole⟩ := placed
  refine ⟨behind, ?_⟩
  have tail := drop_of_drop_eq_append [opener]
    ((body.commands ++ closer :: rest.commands) ++ behind) whole
  simpa using tail

theorem block_body (placed : plan.HasAt position (.block kind opener body closer rest)) :
    plan.HasAt (position + 1) body := by
  obtain ⟨behind, whole⟩ := placed.block_behind
  exact ⟨_, whole⟩

theorem block_closer (placed : plan.HasAt position (.block kind opener body closer rest)) :
    plan.commands[position + 1 + body.size]? = some closer := by
  obtain ⟨behind, whole⟩ := placed.block_behind
  exact getElem?_of_drop_eq_cons (drop_of_drop_eq_append _ _ whole)

theorem block_rest (placed : plan.HasAt position (.block kind opener body closer rest)) :
    plan.HasAt (position + 1 + body.size + 1) rest := by
  obtain ⟨behind, whole⟩ := placed.block_behind
  have tail := drop_of_drop_eq_append _ _ whole
  exact ⟨behind, drop_of_drop_eq_append [closer] _ tail⟩

/-- The search for a name finds the terminator of the block itself exactly when the block has
that name and does not hold a block of its kind with that name. -/
theorem bodyLength?_eq_size_iff
    (placed : plan.HasAt position (.block kind opener body closer rest))
    (nested : (Program.block kind opener body closer rest).Nested) (name : String) :
    bodyLength? plan position kind name = some body.size ↔
      writtenName opener = name ∧ ¬ body.Holds kind name := by
  obtain ⟨-, closing, -, named, sameName, bodyNested, -⟩ := nested
  obtain ⟨behind, whole⟩ := placed.block_behind
  have closes := commandCloses_iff_of_terminator closing named kind name
  rw [sameName] at closes
  rw [bodyLength?_eq, whole, ← Program.exists_closes_iff_holds bodyNested]
  constructor
  · intro found
    rw [List.findIdx?_eq_some_iff_getElem] at found
    obtain ⟨inside, here, before⟩ := found
    constructor
    · have ownCloses : commandCloses kind name closer = true := by
        simpa [Program.size] using here
      exact (closes.mp ownCloses).2
    · rintro ⟨command, member, closesInside⟩
      obtain ⟨index, bound, rfl⟩ := List.mem_iff_getElem.mp member
      apply before index bound
      rw [List.getElem_append_left bound]
      exact closesInside
  · rintro ⟨same, noneInside⟩
    have bodyOpen : body.commands.findIdx? (commandCloses kind name) = none := by
      rw [List.findIdx?_eq_none_iff]
      intro command member
      simpa using fun closesInside => noneInside ⟨command, member, closesInside⟩
    rw [List.findIdx?_append, bodyOpen, List.findIdx?_cons, if_pos (closes.mpr ⟨rfl, same⟩)]
    simp [Program.size]

end Plan.HasAt

end Workflow.Run
