import Workflow.Proofs.Run.Endless
import Workflow.Proofs.Run.Frames

/-!
# The limit on loop passes

A run starts the passes that it comes to until there have been as many as the limit, over all of
its loops together.  The next pass that would start ends the run before it sets the property of its
loop, and nothing else ends a run in this way.
-/

namespace Workflow.Run

/-- The dispatches of a run that may still start as many passes as the budget, up to the end of the
run. -/
inductive Metered (limit : Nat) : (budget : Nat) → List Dispatch → Ending → Prop where
  | ended {budget : Nat} {ending : Ending} (other : ending ≠ .faulted (.iterationLimit limit)) :
      Metered limit budget [] ending
  | other {budget : Nat} {dispatch : Dispatch} {dispatches : List Dispatch} {ending : Ending}
      (asks : dispatch.pass? = none) (rest : Metered limit budget dispatches ending) :
      Metered limit budget (dispatch :: dispatches) ending
  | starts {budget left : Nat} {dispatch : Dispatch} {dispatches : List Dispatch} {ending : Ending}
      {iterator : String} {value : Value} (asks : dispatch.pass? = some (iterator, value))
      (spends : budget = left + 1)
      (sets : dispatch.after.workspace = dispatch.before.workspace.setProperty iterator value)
      (rest : Metered limit left dispatches ending) :
      Metered limit budget (dispatch :: dispatches) ending
  | refused {budget : Nat} {dispatch : Dispatch} (asks : dispatch.pass?.isSome = true)
      (spent : budget = 0) (keeps : dispatch.after.workspace = dispatch.before.workspace) :
      Metered limit budget [dispatch] (.faulted (.iterationLimit limit))

/-- A run starts as many passes as the limit, and the next one that would start ends it. -/
structure LimitsPasses (limit : Nat) (dispatches : List Dispatch) (ending : Ending) : Prop where
  /-- A pass within the limit sets the property of its loop. -/
  starts : ∀ {earlier later : List Dispatch} {dispatch : Dispatch} {iterator : String}
    {value : Value}, dispatches = earlier ++ dispatch :: later →
      dispatch.pass? = some (iterator, value) → passes earlier < limit →
      dispatch.after.workspace = dispatch.before.workspace.setProperty iterator value
  /-- The pass behind the limit ends the run, and the workspace stays as it was. -/
  refuses : ∀ {earlier later : List Dispatch} {dispatch : Dispatch},
    dispatches = earlier ++ dispatch :: later → dispatch.pass?.isSome = true →
      passes earlier = limit →
      later = [] ∧ ending = .faulted (.iterationLimit limit) ∧
        dispatch.after.workspace = dispatch.before.workspace
  /-- Only such a pass ends a run in this way. -/
  only : ending = .faulted (.iterationLimit limit) → ∃ earlier last,
    dispatches = earlier ++ [last] ∧ last.pass?.isSome = true ∧ passes earlier = limit

namespace Metered

variable {limit budget : Nat} {dispatches earlier later : List Dispatch} {dispatch : Dispatch}
variable {ending : Ending}

theorem passes_cons (dispatch : Dispatch) (dispatches : List Dispatch) :
    passes (dispatch :: dispatches) =
      passes dispatches + if dispatch.pass?.isSome then 1 else 0 :=
  List.countP_cons

theorem workspace_of_lt {iterator : String} {value : Value}
    (metered : Metered limit budget dispatches ending)
    (splits : dispatches = earlier ++ dispatch :: later)
    (asks : dispatch.pass? = some (iterator, value)) (within : passes earlier < budget) :
    dispatch.after.workspace = dispatch.before.workspace.setProperty iterator value := by
  induction metered generalizing earlier with
  | ended => simp at splits
  | other none rest ih =>
      cases earlier with
      | nil =>
          cases splits
          rw [none] at asks
          cases asks
      | cons first earlier =>
          cases splits
          rw [passes_cons, none] at within
          exact ih rfl within
  | starts some spends sets rest ih =>
      cases earlier with
      | nil =>
          cases splits
          rw [some] at asks
          cases asks
          exact sets
      | cons first earlier =>
          cases splits
          rw [passes_cons, some, spends] at within
          exact ih rfl (Nat.lt_of_succ_lt_succ within)
  | refused some none keeps =>
      rw [none] at within
      cases within

theorem refuses_of_eq (metered : Metered limit budget dispatches ending)
    (splits : dispatches = earlier ++ dispatch :: later)
    (asks : dispatch.pass?.isSome = true) (spent : passes earlier = budget) :
    later = [] ∧ ending = .faulted (.iterationLimit limit) ∧
      dispatch.after.workspace = dispatch.before.workspace := by
  induction metered generalizing earlier with
  | ended => simp at splits
  | other none rest ih =>
      cases earlier with
      | nil =>
          cases splits
          rw [none] at asks
          cases asks
      | cons first earlier =>
          cases splits
          rw [passes_cons, none] at spent
          exact ih rfl spent
  | starts some spends sets rest ih =>
      cases earlier with
      | nil =>
          rw [spends] at spent
          cases spent
      | cons first earlier =>
          cases splits
          rw [passes_cons, some, spends] at spent
          exact ih rfl (Nat.succ.inj spent)
  | refused some none keeps =>
      cases earlier with
      | nil =>
          cases splits
          exact ⟨rfl, rfl, keeps⟩
      | cons first earlier => simp at splits

theorem exists_last_of_faulted (metered : Metered limit budget dispatches ending)
    (faulted : ending = .faulted (.iterationLimit limit)) :
    ∃ earlier last, dispatches = earlier ++ [last] ∧ last.pass?.isSome = true ∧
      passes earlier = budget := by
  induction metered with
  | ended other => exact absurd faulted other
  | @other _ dispatch _ _ none rest ih =>
      obtain ⟨earlier, last, rfl, asks, spent⟩ := ih faulted
      refine ⟨dispatch :: earlier, last, rfl, asks, ?_⟩
      rw [passes_cons, none]
      exact spent
  | @starts _ _ dispatch _ _ _ _ some spends sets rest ih =>
      obtain ⟨earlier, last, rfl, asks, spent⟩ := ih faulted
      refine ⟨dispatch :: earlier, last, rfl, asks, ?_⟩
      rw [passes_cons, some, spent, spends]
      rfl
  | @refused _ dispatch some none keeps => exact ⟨[], dispatch, rfl, some, none.symm⟩

theorem limitsPasses (metered : Metered limit limit dispatches ending) :
    LimitsPasses limit dispatches ending where
  starts := metered.workspace_of_lt
  refuses := metered.refuses_of_eq
  only := metered.exists_last_of_faulted

end Metered

/-! ## Steps -/

section

variable {machine : Machine} {index : Nat} {turn : Turn machine.budget}

/-- How a command that goes somewhere ends the run, if it does. -/
def endingAfter? (index : Nat) (scene : Scene) : Option Ending :=
  if scene.exitRequested then some (.exited index)
  else if scene.haltOnFailure && scene.status.hasFailure then some (.haltedOnFailure index)
  else none

theorem ne_faulted_of_endingAfter? {scene : Scene} {ending : Ending}
    (ends : endingAfter? index scene = some ending) (fault : Fault) : ending ≠ .faulted fault := by
  simp only [endingAfter?] at ends
  split at ends
  · cases ends
    exact fun same => nomatch same
  · split at ends
    · cases ends
      exact fun same => nomatch same
    · cases ends

theorem finish_of_ok {move : Move machine.budget} (moves : turn.move = .ok move) :
    finish machine index turn =
      match endingAfter? index turn.scene with
      | none => .goes ((settle machine turn turn.scene).go move)
      | some ending => .ends ((settle machine turn turn.scene).go move) ending := by
  simp only [finish, moves, endingAfter?]
  split
  · rfl
  · split <;> rfl

theorem finish_of_error {fault : Fault} (faults : turn.move = .error fault) :
    finish machine index turn =
      .ends (settle machine turn (turn.scene.fail fault.message)) (.faulted fault) := by
  simp only [finish, faults]

end

theorem workspace_prepare (scene : Scene) (command : Command) :
    (prepare scene command).1.workspace = scene.workspace := by
  obtain ⟨status, same⟩ := prepare_eq scene command
  rw [same]

theorem budget_settle_go (machine : Machine) {budget : Nat} (turn : Turn budget) (scene : Scene)
    (move : Move machine.budget) : ((settle machine turn scene).go move).budget = move.left := by
  cases move <;> rfl

namespace Endless

/-- A request for a pass is refused at the end of the budget and granted before. -/
theorem Request.turn_of_pass {request : Request} {iterator : String} {value : Value} {start : Nat}
    {within : List Block} (asks : request.wish = .ok (.pass iterator value start within))
    (limit budget : Nat) :
    (budget = 0 ∧ (request.turn limit budget).scene = request.scene ∧
      (request.turn limit budget).move = .error (.iterationLimit limit)) ∨
    ∃ left : Fin budget, budget = left + 1 ∧
      (request.turn limit budget).scene.workspace =
        request.scene.workspace.setProperty iterator value ∧
      (request.turn limit budget).move = .ok (.again start left) := by
  simp only [turn, asks]
  cases budget with
  | zero => exact .inl ⟨rfl, rfl, rfl⟩
  | succ left => exact .inr ⟨⟨left, Nat.lt_succ_self left⟩, rfl, rfl, rfl⟩

variable {setting : Setting} {plan : Plan}

section

variable {standing : Standing} {blocks : List Block} {scene : Scene} {fault : Fault}

theorem ne_iterationLimit_of_openBlock {kind : BlockKind}
    (faults : (openBlock standing blocks scene kind).wish = .error fault) (limit : Nat) :
    fault ≠ .iterationLimit limit := by
  simp only [openBlock] at faults
  split at faults
  · simp only [skipBlock] at faults
    split at faults
    · cases faults
    · cases faults
      exact fun same => nomatch same
  · split at faults
    · next encloses =>
        cases faults
        simp only [enclosedBody] at encloses
        split at encloses
        · cases encloses
          exact fun same => nomatch same
        · split at encloses
          · cases encloses
          · cases encloses
            exact fun same => nomatch same
    · cases kind with
      | loop =>
          simp only [enterLoop] at faults
          split at faults
          · cases faults
          · split at faults <;> cases faults
      | conditional =>
          simp only [enterConditional] at faults
          split at faults <;> cases faults

theorem ne_iterationLimit_of_closeNamed {kind : BlockKind} {name : String}
    (faults : (closeNamed standing blocks scene kind name).wish = .error fault) (limit : Nat) :
    fault ≠ .iterationLimit limit := by
  simp only [closeNamed] at faults
  split at faults
  · cases faults
  · next innermost outer =>
      split at faults
      · simp only [closeInnermost] at faults
        split at faults
        · cases faults
        · split at faults <;> cases faults
      · split at faults
        · cases faults
          exact fun same => nomatch same
        · cases faults

/-- No command asks for the fault that the limit is. -/
theorem ne_iterationLimit_of_request
    (faults : (request standing blocks scene).wish = .error fault) (limit : Nat) :
    fault ≠ .iterationLimit limit := by
  simp only [request] at faults
  split at faults
  · exact ne_iterationLimit_of_openBlock faults limit
  · exact ne_iterationLimit_of_openBlock faults limit
  · exact ne_iterationLimit_of_closeNamed faults limit
  · exact ne_iterationLimit_of_closeNamed faults limit
  · cases faults

/-! A command that asks for a pass has not touched the workspace. -/

theorem workspace_of_openBlock {kind : BlockKind} {iterator : String} {value : Value} {start : Nat}
    {within : List Block}
    (asks : (openBlock standing blocks scene kind).wish = .ok (.pass iterator value start within)) :
    (openBlock standing blocks scene kind).scene.workspace = scene.workspace := by
  have same := workspace_prepare scene standing.command
  simp only [openBlock] at asks ⊢
  split at asks
  · simp only [skipBlock] at asks
    split at asks <;> cases asks
  · next prepared parameters accepted =>
      rw [accepted] at same
      split at asks
      · cases asks
      · cases kind with
        | loop =>
            simp only [enterLoop] at asks ⊢
            split at asks
            · cases asks
            · split at asks
              · cases asks
              · exact same
        | conditional =>
            simp only [enterConditional] at asks
            split at asks <;> cases asks

theorem workspace_of_closeNamed {kind : BlockKind} {name : String} {iterator : String}
    {value : Value} {start : Nat} {within : List Block}
    (asks : (closeNamed standing blocks scene kind name).wish =
      .ok (.pass iterator value start within)) :
    (closeNamed standing blocks scene kind name).scene.workspace = scene.workspace := by
  simp only [closeNamed] at asks ⊢
  split at asks
  · cases asks
  · next innermost outer =>
      split at asks
      · next own =>
          simp only [if_pos own]
          simp only [closeInnermost] at asks ⊢
          split at asks
          · cases asks
          · split at asks
            · cases asks
            · rfl
      · split at asks <;> cases asks

theorem workspace_of_request {iterator : String} {value : Value} {start : Nat}
    {within : List Block}
    (asks : (request standing blocks scene).wish = .ok (.pass iterator value start within)) :
    (request standing blocks scene).scene.workspace = scene.workspace := by
  have same := workspace_prepare scene standing.command
  simp only [request] at asks ⊢
  split at asks
  · exact workspace_of_openBlock asks
  · exact workspace_of_openBlock asks
  · exact (workspace_of_closeNamed asks).trans same
  · exact (workspace_of_closeNamed asks).trans same
  · cases asks

end

theorem eq_request_of_requestAt? {machine : Machine} {command : Command} {asked : Request}
    (asks : requestAt? setting plan machine command = some asked) :
    ∃ standing, asked = request standing machine.blocks machine.base.scene := by
  simp only [requestAt?] at asks
  split at asks
  · cases asks
  · cases asks
    exact ⟨_, rfl⟩

/-- A step with which a run goes on, or comes to its end. -/
def Progress.Meters (limit : Nat) (machine : Machine) (planned : Planned)
    (pass? : Option (String × Value)) : Progress → Prop
  | .goes next => ∀ {dispatches : List Dispatch} {ending : Ending},
      Metered limit next.base.budget dispatches ending →
        Metered limit machine.base.budget (⟨machine.base, planned, pass?, next.base⟩ :: dispatches)
          ending
  | .ends last ending =>
      Metered limit machine.base.budget [⟨machine.base, planned, pass?, last⟩] ending

section

variable {machine : Machine} {planned : Planned} {limit : Nat} {pass? : Option (String × Value)}
variable {turn : Turn machine.base.budget} {blocks : List Block}

/-- A turn that goes somewhere meters its step if what comes next may be anything. -/
theorem meters_of_ok {move : Move machine.base.budget} (moves : turn.move = .ok move)
    (rest : ∀ {dispatches : List Dispatch} {ending : Ending},
      Metered limit move.left dispatches ending →
        Metered limit machine.base.budget
          (⟨machine.base, planned, pass?, (settle machine.base turn turn.scene).go move⟩ ::
            dispatches) ending) :
    (Progress.within blocks (finish machine.base planned.index turn)).Meters limit machine planned
      pass? := by
  rw [finish_of_ok moves]
  cases ends : endingAfter? planned.index turn.scene with
  | none =>
      intro dispatches ending later
      exact rest (budget_settle_go machine.base turn turn.scene move ▸ later)
  | some ending => exact rest (.ended (ne_faulted_of_endingAfter? ends _))

end

theorem meters_step (setting : Setting) (plan : Plan) (machine : Machine) (planned : Planned) :
    (step setting plan machine planned).Meters
      setting.surroundings.configuration.maxLoopIterations machine planned
      (passAt? setting plan machine planned.command) := by
  simp only [passAt?, step]
  cases asked : requestAt? setting plan machine planned.command with
  | none =>
      dsimp only
      split
      · exact .other rfl
      · refine .other rfl (.ended ?_)
        intro same
        cases same
  | some asks =>
      obtain ⟨standing, rfl⟩ := eq_request_of_requestAt? asked
      simp only [Option.bind_some]
      generalize setting.surroundings.configuration.maxLoopIterations = limit
      generalize same : request standing machine.blocks machine.base.scene = asks
      cases wish : asks.wish with
      | error fault =>
          have none : asks.pass? = none := by rw [Request.pass?, wish]
          rw [← same] at wish
          have other := ne_iterationLimit_of_request wish limit
          rw [finish_of_error (by rw [Request.turn, ← same, wish])]
          exact .other none (.ended fun same => other (Ending.faulted.inj same))
      | ok asked =>
          cases asked with
          | ahead skipped =>
              have none : asks.pass? = none := by rw [Request.pass?, wish]
              exact meters_of_ok (by rw [Request.turn, wish]) (.other none)
          | pass iterator value start within =>
              have some : asks.pass? = some (iterator, value) := by rw [Request.pass?, wish]
              have untouched : asks.scene.workspace = machine.base.workspace := by
                rw [← same] at wish ⊢
                exact workspace_of_request wish
              rcases Request.turn_of_pass wish limit machine.base.budget with
                ⟨spent, scene, refused⟩ | ⟨left, within, sets, starts⟩
              · rw [finish_of_error refused]
                refine .refused (Option.isSome_of_eq_some some) spent ?_
                exact (congrArg Scene.workspace scene).trans untouched
              · refine meters_of_ok starts (.starts some within ?_)
                exact (workspace_settle_go ..).trans (untouched ▸ sets)

/-- Only an open block is a fault at the end of a plan. -/
theorem ending_close_ne_iterationLimit (plan : Plan) (machine : Run.Machine) (limit : Nat) :
    (close plan machine).2 ≠ .faulted (.iterationLimit limit) := by
  simp only [close]
  split
  · exact fun same => nomatch same
  · split
    · exact fun same => nomatch same
    · exact fun same => nomatch Ending.faulted.inj same

theorem metered_course (setting : Setting) (plan : Plan) (machine : Machine) :
    Metered setting.surroundings.configuration.maxLoopIterations machine.base.budget
      (course setting plan machine).dispatches (course setting plan machine).ending := by
  induction machine using course.induct setting plan with
  | case1 machine inside planned last ending ends =>
      have step := meters_step setting plan machine planned
      rw [ends] at step
      rw [course_of_ends (Array.getElem?_eq_getElem inside) ends]
      exact step
  | case2 machine inside planned next goes nearer ih =>
      have step := meters_step setting plan machine planned
      rw [goes] at step
      rw [course_of_goes (Array.getElem?_eq_getElem inside) goes]
      exact step ih
  | case3 machine outside last ending closes =>
      rw [course_of_end (Nat.le_of_not_lt outside)]
      exact .ended (ending_close_ne_iterationLimit plan machine.base _)

end Endless

end Workflow.Run
