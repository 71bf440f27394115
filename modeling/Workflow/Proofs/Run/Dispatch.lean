import Workflow.Proofs.Run.Skipping

/-!
# What a dispatched command comes to

An ordinary command is executed.  A command that opens a block enters it, passes over it, or ends
the run because the block has no terminator; a terminator leaves a block, starts another pass of a
loop, or finds no block to close.  Apart from ordinary commands and the start of a pass, all that a
command changes of the scene is its own record.
-/

namespace Workflow.Run

variable {scene : Scene} {command : Command}

theorem refuseAll_eq (scene : Scene) (problems : List Problem) :
    ∃ status, refuseAll scene problems = { scene with status } := by
  induction problems generalizing scene with
  | nil => exact ⟨scene.status, rfl⟩
  | cons problem rest ih =>
      obtain ⟨status, same⟩ := ih (refuse scene problem.problem (some problem.recommendation))
      exact ⟨status, same⟩

/-- Validation changes nothing but the record. -/
theorem prepare_eq (scene : Scene) (command : Command) :
    ∃ status, (prepare scene command).1 = { scene with status } := by
  simp only [prepare]
  split
  · exact ⟨scene.status, rfl⟩
  · exact ⟨scene.status, rfl⟩
  · exact ⟨_, rfl⟩
  · exact ⟨_, rfl⟩
  · split
    · exact refuseAll_eq scene _
    · exact ⟨_, rfl⟩

theorem prepared_eq {prepared : Scene} {parameters : ParameterSet}
    (accepted : prepare scene command = (prepared, some parameters)) :
    prepared = { scene with status := scene.status.promote .validation .success } := by
  simp only [prepare] at accepted
  split at accepted
  · cases accepted
  · cases accepted
  · cases accepted
  · cases accepted
  · split at accepted
    · cases accepted
    · cases accepted
      rfl

theorem searchedName_of_accepted {prepared : Scene} {parameters : ParameterSet}
    (accepted : prepare scene command = (prepared, some parameters)) :
    searchedName scene command = blockName parameters := by
  simp only [searchedName, accepted]

theorem searchedName_of_refused {prepared : Scene}
    (refused : prepare scene command = (prepared, none)) :
    searchedName scene command = writtenName command := by
  simp only [searchedName, refused]

/-- The values that are left for the passes of a block behind the current one. -/
def Frame.later : Frame → List Value
  | .loop _ _ values current _ => values.toList.drop (current + 1)
  | .conditional _ _ => []

/-- Whether a fault is about a block without a terminator. -/
def Fault.isMissingTerminator : Fault → Bool
  | .missingTerminator _ _ _ _ => true
  | _ => false

namespace Standing

/-- The turns that the dispatch of a command can come to. -/
inductive Comes (standing : Standing) {budget : Nat} (scene : Scene) : Turn budget → Prop where
  /-- An ordinary command is executed. -/
  | executed (ordinary : standing.command.role? = none) :
      standing.Comes scene
        (standing.turn (execute standing.setting standing.command scene) (.ok (.ahead 0)))
  /-- A block is passed over up to the first terminator with the name that is searched for. -/
  | skipped (kind : BlockKind) {status : StatusRecord} {bodyLength : Nat}
      (opens : standing.command.role? = some kind.opener)
      (found : bodyLength? standing.plan standing.position kind
        (searchedName scene standing.command) = some bodyLength) :
      standing.Comes scene (standing.turn { scene with status } (.ok (skipBody bodyLength)))
  /-- No terminator has the name that is searched for. -/
  | unterminated {kind : BlockKind} {status : StatusRecord}
      (opens : standing.command.role? = some kind.opener)
      (absent : bodyLength? standing.plan standing.position kind
        (searchedName scene standing.command) = none) :
      standing.Comes scene (standing.turn { scene with status }
        (.error (missingTerminator standing.command kind (searchedName scene standing.command))))
  /-- The nesting of the blocks or the limit on passes does not allow to go on. -/
  | forbidden {status : StatusRecord} {fault : Fault} (other : fault.isMissingTerminator = false) :
      standing.Comes scene (standing.turn { scene with status } (.error fault))
  /-- A condition holds. -/
  | entersCondition {status : StatusRecord} {bodyLength : Nat}
      (opens : standing.command.role? = some .openCondition)
      (quiet : status.records = scene.status.records)
      (found : bodyLength? standing.plan standing.position .conditional
        (searchedName scene standing.command) = some bodyLength) :
      standing.Comes scene
        ⟨{ scene with status },
          .conditional (searchedName scene standing.command) standing.position :: standing.frames,
          .ok (.ahead 0)⟩
  /-- A loop has values. -/
  | entersLoop {status : StatusRecord} {bodyLength : Nat} {prepared : Scene}
      {parameters : ParameterSet} {values : Array Value} {first : Value} {left : Fin budget}
      (opens : standing.command.role? = some .openLoop)
      (quiet : status.records = scene.status.records)
      (found : bodyLength? standing.plan standing.position .loop
        (searchedName scene standing.command) = some bodyLength)
      (accepted : prepare scene standing.command = (prepared, some parameters))
      (given : Builtin.Loop.values parameters scene.workspace standing.limit = .ok values)
      (front : values[0]? = some first) :
      standing.Comes scene
        ⟨{ scene.withWorkspace (scene.workspace.setProperty (Builtin.Loop.iterator parameters
            (searchedName scene standing.command)) first) with status },
          .loop (searchedName scene standing.command)
            (Builtin.Loop.iterator parameters (searchedName scene standing.command)) values 0
            standing.position :: standing.frames,
          .ok (.enter left)⟩
  /-- A terminator has no open block of its kind and name. -/
  | unmatched {kind : BlockKind} {status : StatusRecord}
      (closes : standing.command.role? = some kind.terminator) :
      standing.Comes scene (standing.turn { scene with status } (.ok (.ahead 0)))
  /-- The innermost block has no values left. -/
  | leaves {kind : BlockKind} {status : StatusRecord} {innermost : Frame} {outer : List Frame}
      (closes : standing.command.role? = some kind.terminator)
      (front : standing.frames = innermost :: outer)
      (own : innermost.isOf kind (searchedName scene standing.command) = true)
      (done : innermost.later = []) :
      standing.Comes scene ⟨{ scene with status }, outer, .ok (.ahead 0)⟩
  /-- The innermost block is a loop with values left. -/
  | repeats {status : StatusRecord} {iterator : String} {values : Array Value}
      {current start : Nat} {outer : List Frame} {value : Value} {left : Fin budget}
      (closes : standing.command.role? = some .closeLoop)
      (front : standing.frames =
        .loop (searchedName scene standing.command) iterator values current start :: outer)
      (more : values[current + 1]? = some value) :
      standing.Comes scene
        ⟨{ scene.withWorkspace (scene.workspace.setProperty iterator value) with status },
          .loop (searchedName scene standing.command) iterator values (current + 1) start :: outer,
          .ok (.again start left)⟩

variable {standing : Standing} {budget bodyLength : Nat} {status : StatusRecord}

theorem comes_skipBlock {kind : BlockKind} (opens : standing.command.role? = some kind.opener)
    (written : searchedName scene standing.command = writtenName standing.command) :
    standing.Comes scene
      (standing.turn { scene with status }
        (skipBlock standing.plan standing.position standing.command kind) : Turn budget) := by
  simp only [skipBlock]
  split
  · next bodyLength found =>
      rw [← written] at found
      exact .skipped kind opens found
  · next absent =>
      rw [← written] at absent ⊢
      exact .unterminated opens absent

theorem comes_enterLoop {parameters : ParameterSet}
    (opens : standing.command.role? = some .openLoop)
    (found : bodyLength? standing.plan standing.position .loop
      (searchedName scene standing.command) = some bodyLength)
    (accepted : prepare scene standing.command =
      ({ scene with status := scene.status.promote .validation .success }, some parameters)) :
    standing.Comes scene
      (standing.enterLoop budget
        { scene with status := scene.status.promote .validation .success } parameters
          bodyLength) := by
  simp only [enterLoop]
  split
  · exact .skipped .loop opens found
  · next values given =>
      cases front : values[0]? with
      | none => exact .skipped .loop opens found
      | some first =>
          cases budget with
          | zero => exact .forbidden rfl
          | succ left =>
              dsimp only
              rw [← searchedName_of_accepted accepted]
              exact .entersLoop opens (by simp [Scene.withWorkspace]) found accepted given front

theorem comes_enterConditional {prepared : Scene} {parameters : ParameterSet}
    (opens : standing.command.role? = some .openCondition)
    (found : bodyLength? standing.plan standing.position .conditional
      (searchedName scene standing.command) = some bodyLength)
    (accepted : prepare scene standing.command = (prepared, some parameters)) :
    standing.Comes scene
      (standing.enterConditional prepared parameters bodyLength : Turn budget) := by
  rw [prepared_eq accepted]
  simp only [enterConditional]
  split
  · exact .skipped .conditional opens found
  · exact .skipped .conditional opens found
  · rw [← searchedName_of_accepted accepted]
    exact .entersCondition opens (by simp) found

theorem comes_openBlock (kind : BlockKind) (opens : standing.command.role? = some kind.opener) :
    standing.Comes scene (standing.openBlock budget scene kind) := by
  simp only [openBlock]
  split
  · next prepared refused =>
      obtain ⟨status, same⟩ := prepare_eq scene standing.command
      rw [refused] at same
      dsimp only at same
      rw [same]
      exact comes_skipBlock opens (searchedName_of_refused refused)
  · next prepared parameters accepted =>
      have same := prepared_eq accepted
      have named := searchedName_of_accepted accepted
      simp only [enclosedBody]
      split
      · next fault encloses =>
          subst same
          split at encloses
          · cases encloses
            exact .forbidden rfl
          · split at encloses
            · cases encloses
            · next absent =>
                cases encloses
                rw [← named] at absent ⊢
                exact .unterminated opens absent
      · next bodyLength encloses =>
          have found := bodyLength?_of_enclosedBody encloses
          rw [← named] at found
          cases kind with
          | loop =>
              subst same
              exact comes_enterLoop opens found accepted
          | conditional => exact comes_enterConditional opens found accepted

theorem comes_closeNothing {kind : BlockKind} {name : String}
    (closes : standing.command.role? = some kind.terminator) :
    standing.Comes scene
      (standing.closeNothing { scene with status } kind name : Turn budget) :=
  .unmatched closes

theorem comes_closeInnermost {kind : BlockKind} {innermost : Frame} {outer : List Frame}
    (closes : standing.command.role? = some kind.terminator)
    (front : standing.frames = innermost :: outer)
    (own : innermost.isOf kind (searchedName scene standing.command) = true) :
    standing.Comes scene
      (standing.closeInnermost budget { scene with status } innermost outer) := by
  cases innermost with
  | conditional name start => exact .leaves closes front own rfl
  | loop name iterator values current start =>
      simp only [Frame.isOf, Frame.kind, Frame.name, Bool.and_eq_true, beq_iff_eq] at own
      obtain ⟨rfl, rfl⟩ := own
      simp only [closeInnermost]
      cases more : values[current + 1]? with
      | none =>
          apply Comes.leaves closes front (by simp [Frame.isOf, Frame.kind, Frame.name])
          simpa [Frame.later] using more
      | some value =>
          cases budget with
          | zero => exact .forbidden rfl
          | succ left => exact .repeats closes front more

theorem comes_closeNamed {kind : BlockKind}
    (closes : standing.command.role? = some kind.terminator) :
    standing.Comes scene
      (standing.closeNamed budget { scene with status } kind
        (searchedName scene standing.command)) := by
  simp only [closeNamed]
  split
  · exact comes_closeNothing closes
  · next innermost outer front =>
      split
      · next own => exact comes_closeInnermost closes front own
      · split
        · exact .forbidden rfl
        · exact comes_closeNothing closes

theorem comes_closeBlock (kind : BlockKind)
    (closes : standing.command.role? = some kind.terminator) :
    standing.Comes scene (standing.closeBlock budget scene kind) := by
  obtain ⟨status, same⟩ := prepare_eq scene standing.command
  simp only [closeBlock]
  split
  · next prepared parameters accepted =>
      rw [accepted] at same
      dsimp only at same
      rw [same, ← searchedName_of_accepted accepted]
      exact comes_closeNamed closes
  · next prepared refused =>
      rw [refused] at same
      dsimp only at same
      rw [same, ← searchedName_of_refused refused]
      exact comes_closeNamed closes

/-- Every dispatch comes to one of these turns. -/
theorem comes_dispatch (standing : Standing) (budget : Nat) (scene : Scene) :
    standing.Comes scene (standing.dispatch budget scene) := by
  simp only [dispatch]
  split
  · next opens => exact comes_openBlock .loop opens
  · next closes => exact comes_closeBlock .loop closes
  · next opens => exact comes_openBlock .conditional opens
  · next closes => exact comes_closeBlock .conditional closes
  · next ordinary => exact .executed ordinary

end Standing

end Workflow.Run
