import Workflow.Proofs.Run.Accounting
import Workflow.Proofs.Run.Bracketing

/-!
# Open blocks are nested

Whenever a walk looks for its next command, its open blocks were opened one inside of the other in
front of its position, no two of them by the same kind and name, and each loop stands at one of its
values.  So whatever a walk looks up by a number is there.
-/

namespace Workflow.Run

/-- A loop stands at one of its values. -/
def Frame.HasCurrent : Frame → Prop
  | .loop _ _ values current _ => current < values.size
  | .conditional _ _ => True

/-- The blocks that are open in front of a position, the innermost first, are nested. -/
structure Nested (plan : Plan) (position : Nat) (frames : List Frame) : Prop where
  /-- Every block was opened behind the blocks around it. -/
  descending : (frames.map (·.start)).Pairwise (· > ·)
  below : ∀ frame ∈ frames, frame.start < position
  /-- No two blocks have the same kind and name. -/
  distinct : (frames.map fun frame => (frame.kind, frame.name)).Nodup
  /-- The openers have the kinds of their blocks, and terminators for them stand behind. -/
  placed : ∀ frame ∈ frames, frame.IsPlaced plan
  current : ∀ frame ∈ frames, frame.HasCurrent

namespace Nested

variable {plan : Plan} {position later : Nat} {frame : Frame} {frames : List Frame}

theorem nil (plan : Plan) (position : Nat) : Nested plan position [] :=
  ⟨.nil, List.forall_mem_nil _, .nil, List.forall_mem_nil _, List.forall_mem_nil _⟩

theorem mono (nested : Nested plan position frames) (ahead : position ≤ later) :
    Nested plan later frames :=
  { nested with below := fun frame member => Nat.lt_of_lt_of_le (nested.below frame member) ahead }

/-- A block that is opened at the position is the innermost one behind it. -/
theorem push (nested : Nested plan position frames) (here : frame.start = position)
    (fresh : frames.any (Frame.isOf frame.kind frame.name) = false) (placed : frame.IsPlaced plan)
    (current : frame.HasCurrent) : Nested plan (position + 1) (frame :: frames) where
  descending := by
    refine List.pairwise_cons.mpr ⟨List.forall_mem_map.mpr fun outer member => ?_,
      nested.descending⟩
    change outer.start < frame.start
    rw [here]
    exact nested.below outer member
  below := by
    refine List.forall_mem_cons.mpr ⟨by omega, fun outer member => ?_⟩
    exact Nat.lt_succ_of_lt (nested.below outer member)
  distinct := by
    refine List.nodup_cons.mpr ⟨fun among => ?_, nested.distinct⟩
    obtain ⟨outer, member, same⟩ := List.mem_map.mp among
    rw [List.any_eq_false] at fresh
    apply fresh outer member
    rw [Prod.mk.injEq] at same
    simp [Frame.isOf, same]
  placed := List.forall_mem_cons.mpr ⟨placed, nested.placed⟩
  current := List.forall_mem_cons.mpr ⟨current, nested.current⟩

/-- The blocks around the innermost one are nested by themselves. -/
theorem pop (nested : Nested plan position (frame :: frames)) : Nested plan position frames where
  descending := (List.pairwise_cons.mp nested.descending).2
  below := (List.forall_mem_cons.mp nested.below).2
  distinct := (List.nodup_cons.mp nested.distinct).2
  placed := (List.forall_mem_cons.mp nested.placed).2
  current := (List.forall_mem_cons.mp nested.current).2

/-- The innermost loop may go back to its start with another of its values. -/
theorem again {name iterator : String} {values : Array Value} {current next start : Nat}
    (nested : Nested plan position (.loop name iterator values current start :: frames))
    (more : next < values.size) :
    Nested plan (start + 1) (.loop name iterator values next start :: frames) where
  descending := nested.descending
  below := by
    refine List.forall_mem_cons.mpr ⟨Nat.lt_succ_self start, fun outer member => ?_⟩
    have around := (List.pairwise_cons.mp nested.descending).1
    exact Nat.lt_succ_of_lt (List.forall_mem_map.mp around outer member)
  distinct := nested.distinct
  placed := by
    obtain ⟨⟨opener, terminator⟩, outer⟩ := List.forall_mem_cons.mp nested.placed
    exact List.forall_mem_cons.mpr ⟨⟨opener, terminator⟩, outer⟩
  current := List.forall_mem_cons.mpr ⟨more, (List.forall_mem_cons.mp nested.current).2⟩

end Nested

/-! ## Steps -/

namespace Standing

variable {standing : Standing} {scene : Scene} {frame : Frame}

theorem frames_enterLoop (standing : Standing) (budget : Nat) (scene : Scene)
    (parameters : ParameterSet) (bodyLength : Nat) :
    (standing.enterLoop budget scene parameters bodyLength).frames = standing.frames ∨
      ∃ innermost, innermost.isOf .loop (blockName parameters) = true ∧
        (standing.enterLoop budget scene parameters bodyLength).frames =
          innermost :: standing.frames := by
  simp only [enterLoop]
  split
  · exact .inl rfl
  · next values _ =>
      cases values[0]? with
      | none => exact .inl rfl
      | some first =>
          cases budget with
          | zero => exact .inl rfl
          | succ left => exact .inr ⟨_, Frame.isOf_self (.loop ..), rfl⟩

theorem frames_enterConditional (standing : Standing) (budget : Nat) (scene : Scene)
    (parameters : ParameterSet) (bodyLength : Nat) :
    (standing.enterConditional scene parameters bodyLength : Turn budget).frames =
        standing.frames ∨
      ∃ innermost, innermost.isOf .conditional (blockName parameters) = true ∧
        (standing.enterConditional scene parameters bodyLength : Turn budget).frames =
          innermost :: standing.frames := by
  simp only [enterConditional]
  split
  · exact .inl rfl
  · exact .inl rfl
  · exact .inr ⟨_, Frame.isOf_self (.conditional ..), rfl⟩

/-- No block is opened inside of one with its kind and name. -/
theorem fresh_of_openBlock {budget : Nat} {kind : BlockKind}
    (enters : (standing.openBlock budget scene kind).frames = frame :: standing.frames) :
    standing.frames.any (Frame.isOf frame.kind frame.name) = false := by
  have opened {innermost : Frame} {name : String} (own : innermost.isOf kind name = true)
      (fresh : standing.frames.any (Frame.isOf kind name) = false)
      (same : innermost :: standing.frames = frame :: standing.frames) :
      standing.frames.any (Frame.isOf frame.kind frame.name) = false := by
    simp only [Frame.isOf, Bool.and_eq_true, beq_iff_eq] at own
    obtain ⟨rfl, rfl⟩ := own
    cases same
    exact fresh
  have longer : standing.frames ≠ frame :: standing.frames := (List.cons_ne_self _ _).symm
  simp only [openBlock] at enters
  split at enters
  · exact absurd enters longer
  · next prepared parameters accepted =>
      simp only [enclosedBody] at enters
      split at enters
      · exact absurd enters longer
      · next bodyLength encloses =>
          split at encloses
          · cases encloses
          · next fresh =>
              rw [Bool.not_eq_true] at fresh
              cases kind with
              | loop =>
                  rcases standing.frames_enterLoop budget prepared parameters bodyLength with
                    same | ⟨innermost, own, same⟩
                  · exact absurd (same.symm.trans enters) longer
                  · exact opened own fresh (same.symm.trans enters)
              | conditional =>
                  rcases standing.frames_enterConditional budget prepared parameters
                    bodyLength with same | ⟨innermost, own, same⟩
                  · exact absurd (same.symm.trans enters) longer
                  · exact opened own fresh (same.symm.trans enters)

end Standing

variable {setting : Setting} {plan : Plan} {machine next visited : Machine} {planned : Planned}

theorem nested_of_goes (here : plan[machine.position]? = some planned)
    (goes : step setting plan machine planned = .goes next)
    (before : Nested plan machine.position machine.frames) :
    Nested plan next.position next.frames := by
  have placed := isPlaced_of_goes here goes before.placed
  obtain ⟨-, rfl⟩ | ⟨-, -, move, moves, rfl⟩ := step_eq_goes goes
  · exact before.mono (Nat.le_add_right _ _)
  · rw [frames_settle_go] at placed ⊢
    have fresh (kind : BlockKind) {frame : Frame}
        (opens : (standingAt setting plan machine planned.command).command.role? =
          some kind.opener)
        (enters : (turnAt setting plan machine planned.command).frames =
          frame :: machine.frames) :
        machine.frames.any (Frame.isOf frame.kind frame.name) = false := by
      rw [turnAt, Standing.dispatch_of_opener opens] at enters
      exact Standing.fresh_of_openBlock enters
    have ahead (skipped : Nat) : machine.position ≤ machine.position + 1 + skipped := by omega
    have comes := comes_turnAt setting plan machine planned.command
    generalize turnAt setting plan machine planned.command = turn at comes moves placed fresh
    cases comes with
    | executed | skipped | unmatched =>
        cases moves
        exact before.mono (ahead _)
    | unterminated | forbidden => cases moves
    | entersCondition opens =>
        cases moves
        exact before.push rfl (fresh .conditional opens rfl)
          (List.forall_mem_cons.mp placed).1 trivial
    | entersLoop opens _ _ _ _ front =>
        cases moves
        obtain ⟨inside, -⟩ := Array.getElem?_eq_some_iff.mp front
        exact before.push rfl (fresh .loop opens rfl)
          (List.forall_mem_cons.mp placed).1 inside
    | leaves _ front =>
        cases moves
        rw [show machine.frames = _ from front] at before
        exact before.pop.mono (Nat.le_succ _)
    | repeats _ front more =>
        cases moves
        obtain ⟨inside, -⟩ := Array.getElem?_eq_some_iff.mp more
        rw [show machine.frames = _ from front] at before
        exact before.again inside

/-! ## Walks -/

/-- The machines with which a walk looks for its next command: in front of every command that it
comes to, and at the end of its plan. -/
inductive Visits (setting : Setting) (plan : Plan) (start : Machine) : Machine → Prop where
  | comes {stride : Stride} (member : stride ∈ trace setting plan start) :
      Visits setting plan start stride.before
  | arrives {last : Machine} (arrives : arrival? setting plan start = some last) :
      Visits setting plan start last

/-- What every step that goes on keeps holds whenever a walk looks for its next command. -/
theorem Visits.induction (property : Machine → Prop)
    (kept : ∀ machine planned next, plan[machine.position]? = some planned →
      step setting plan machine planned = .goes next → property machine → property next)
    (start : property machine) (visits : Visits setting plan machine visited) :
    property visited := by
  induction machine using walk_induction setting plan with
  | outside machine outside =>
      cases visits with
      | comes member =>
          rw [trace_of_end outside] at member
          cases member
      | arrives arrives =>
          rw [arrival?_of_end outside] at arrives
          cases arrives
          exact start
  | ends machine planned last ending here ends =>
      cases visits with
      | comes member =>
          rw [trace_of_ends here ends] at member
          rw [List.mem_singleton.mp member]
          exact start
      | arrives arrives =>
          rw [arrival?_of_ends here ends] at arrives
          cases arrives
  | goes machine planned next here goes ih =>
      have after := kept machine planned next here goes start
      cases visits with
      | comes member =>
          rw [trace_of_goes here goes] at member
          rcases List.mem_cons.mp member with rfl | later
          · exact start
          · exact ih after (.comes later)
      | arrives arrives =>
          rw [arrival?_of_goes here goes] at arrives
          exact ih after (.arrives arrives)

/-- Whatever a machine looks up by a number is there: the command at its position, the openers of
its blocks, the current values of its loops, and the records of the commands. -/
structure Machine.FindsAll (commands : List Command) (plan : Plan) (machine : Machine) :
    Prop where
  command : machine.position < plan.size → ∃ planned, plan[machine.position]? = some planned ∧
    commands[planned.index]? = some planned.command
  opener : ∀ frame ∈ machine.frames, ∃ planned, plan[frame.start]? = some planned ∧
    commands[planned.index]? = some planned.command
  value : ∀ name iterator values current start,
    .loop name iterator values current start ∈ machine.frames →
      ∃ value, values[current]? = some value
  records : machine.executions.size = plan.size

end Workflow.Run

namespace Workflow.Processor

/-- A machine with which a run looks for its next command. -/
def Visits (processor : Processor) (runFile : Action) (files : FileSystem)
    (chosen : Nat → Bool) : Run.Machine → Prop :=
  let plan := plan processor.commands chosen
  Run.Visits (processor.setting runFile) plan (processor.machine files plan)

/-- Whenever a run looks for its next command, its open blocks are nested, and whatever it looks up
by a number is there. -/
theorem nested_of_visits (runFile : Action) (processor : Processor) (files : FileSystem)
    (chosen : Nat → Bool) {machine : Run.Machine}
    (visits : processor.Visits runFile files chosen machine) :
    let plan := plan processor.commands chosen
    Run.Nested plan machine.position machine.frames ∧
      machine.FindsAll processor.commands plan := by
  intro plan
  have nested : Run.Nested plan machine.position machine.frames :=
    Run.Visits.induction (fun machine => Run.Nested plan machine.position machine.frames)
      (fun _ _ _ => Run.nested_of_goes) (.nil plan 0) visits
  have records : machine.executions.size = plan.size := by
    refine Run.Visits.induction (fun machine => machine.executions.size = plan.size)
      (fun machine planned next _ goes sized => ?_)
      (size_executions_machine processor files plan) visits
    have kept := Run.size_executions_step (processor.setting runFile) plan machine planned
    rw [goes] at kept
    exact kept.trans sized
  refine ⟨nested, fun inside => ?_, fun frame member => ?_, ?_, records⟩
  · have here : plan[machine.position]? = some plan[machine.position] :=
      Array.getElem?_eq_getElem inside
    exact ⟨_, here, getElem?_index_of_plan here⟩
  · obtain ⟨planned, here, -⟩ := (nested.placed frame member).opener
    exact ⟨planned, here, getElem?_index_of_plan here⟩
  · intro name iterator values current start member
    exact ⟨_, Array.getElem?_eq_getElem (nested.current _ member)⟩

/-- In the second pass of a loop, a condition is open inside of it. -/
theorem nested_of_visits_overwriting :
    let plan := plan overwriting.commands fun _ => true
    ∃ machine, overwriting.Visits overwriting.runFile (.empty [] "/") (fun _ => true) machine ∧
      machine.frames.map (fun frame => (frame.name, frame.start)) =
        [("always", 1), ("Items", 0)] ∧
      Run.Nested plan machine.position machine.frames ∧
      machine.FindsAll overwriting.commands plan := by
  have opened : (overwriting.trace overwriting.runFile (.empty [] "/") fun _ => true)[5]?.map
      (fun stride => stride.before.frames.map fun frame => (frame.name, frame.start)) =
        some [("always", 1), ("Items", 0)] := by
    decide +kernel
  obtain ⟨stride, here, frames⟩ := Option.map_eq_some_iff.mp opened
  have visits := Run.Visits.comes (List.mem_of_getElem? here)
  exact ⟨stride.before, visits, frames, nested_of_visits _ _ _ _ visits⟩

end Workflow.Processor
