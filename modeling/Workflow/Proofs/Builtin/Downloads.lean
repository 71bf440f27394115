import Workflow.Builtin.Download

/-!
# Downloads

While a download waits for the network, nothing of the scene changes but the network itself and
whether the run is cancelled.  A download that comes to its end has written the bytes of the first
request that succeeded, and it has made no more requests than it was given attempts.
-/

namespace Workflow

/-- The network after some more calls. -/
def Network.skip (network : Network) (count : Nat) : Network :=
  { network with calls := network.calls + count }

theorem Network.skip_next (network : Network) (count : Nat) :
    network.next.skip count = network.skip (count + 1) := by
  simp only [skip, next, Nat.add_assoc, Nat.add_comm 1]

/-- The network was waited for, and nothing else happened. -/
def Scene.Waits (scene later : Scene) : Prop :=
  ∃ network cancelled,
    later = { scene with files := { scene.files with network := network }, cancelled := cancelled }

namespace Scene

variable {scene later last : Scene}

theorem waits_refl (scene : Scene) : scene.Waits scene := ⟨_, _, rfl⟩

theorem waits_awaited (scene : Scene) : scene.Waits scene.awaited := ⟨_, _, rfl⟩

theorem Waits.trans (first : scene.Waits later) (second : later.Waits last) : scene.Waits last := by
  obtain ⟨_, _, rfl⟩ := first
  obtain ⟨network, cancelled, rfl⟩ := second
  exact ⟨network, cancelled, rfl⟩

theorem Waits.workspace_eq (waits : scene.Waits later) : later.workspace = scene.workspace := by
  obtain ⟨_, _, rfl⟩ := waits
  rfl

theorem Waits.status_eq (waits : scene.Waits later) : later.status = scene.status := by
  obtain ⟨_, _, rfl⟩ := waits
  rfl

end Scene

/-- A command that is not ended by an error had the result that it needs. -/
theorem Performance.exists_of_attempt {α : Type} {scene : Scene} {result : Except Error α}
    {rest : α → Performance} (ends : (attempt scene result rest).2 = none) :
    ∃ value, result = .ok value ∧ attempt scene result rest = rest value := by
  cases result with
  | ok value => exact ⟨value, rfl, rfl⟩
  | error error => cases ends

namespace Builtin.WebGet

variable {address : String} {left failed : Nat} {scene : Scene}

theorem exists_fault_of_connect {network : Network} {error : Error}
    (fails : connect network = .error error) : ∃ fault, error = .download fault := by
  rw [connect] at fails
  split at fails <;> cases fails
  exact ⟨_, rfl⟩

theorem exists_fault_of_request {network : Network} {error : Error}
    (fails : request address network = .error error) : ∃ fault, error = .download fault := by
  rw [request, content.eq_def] at fails
  split at fails
  · cases fails
    exact ⟨_, rfl⟩
  · next status body _ =>
      split at fails
      · cases body with
        | ok bytes => cases fails
        | error reason =>
            cases fails
            exact ⟨_, rfl⟩
      · cases fails
        exact ⟨_, rfl⟩

/-- Nothing is written while an address is asked for. -/
theorem waits_fetch (address : String) (left failed : Nat) (scene : Scene) :
    scene.Waits (fetch address left failed scene).1 := by
  fun_induction fetch address left failed scene with
  | case1 => exact Scene.waits_refl _
  | case2 => exact Scene.waits_awaited _
  | case3 failed scene _ _ _ _ ih => exact (Scene.waits_awaited scene).trans ih
  | case4 => exact Scene.waits_awaited _

/-- Every attempt makes one request. -/
theorem calls_fetch_le (address : String) (left failed : Nat) (scene : Scene) :
    (fetch address left failed scene).1.files.network.calls ≤
      scene.files.network.calls + (left + 1) := by
  fun_induction fetch address left failed scene with
  | case1 => exact Nat.le_add_right _ _
  | case2 => exact Nat.add_le_add_left (Nat.le_add_left 1 _) _
  | case3 failed scene _ _ left _ ih =>
      refine Nat.le_trans ih (Nat.le_of_eq ?_)
      rw [Scene.awaited, Network.next, Nat.add_assoc, Nat.add_comm 1]
  | case4 => exact Nat.le_refl _

theorem eq_of_fetch_eq_error {error : Error}
    (fails : (fetch address left failed scene).2 = .error error) :
    error = .cancelled ∨ ∃ fault, error = .download fault := by
  fun_induction fetch address left failed scene with
  | case1 =>
      cases fails
      exact .inl rfl
  | case2 => cases fails
  | case3 _ _ _ _ _ _ ih => exact ih fails
  | case4 _ _ _ _ refused =>
      cases fails
      exact .inr (exists_fault_of_request refused)

/-- A number of requests fail, no more than there are attempts left, and the next one succeeds. -/
theorem exists_request_of_fetch {bytes : ByteArray} {total : Nat}
    (succeeds : (fetch address left failed scene).2 = .ok (bytes, total)) :
    ∃ count ≤ left, total = failed + count ∧
      request address (scene.files.network.skip count) = .ok bytes ∧
      ∀ earlier < count, ∃ fault,
        request address (scene.files.network.skip earlier) = .error (.download fault) := by
  fun_induction fetch address left failed scene with
  | case1 => cases succeeds
  | case2 left failed scene _ _ answered =>
      cases succeeds
      exact ⟨0, Nat.zero_le _, rfl, answered, fun _ below => absurd below (Nat.not_lt_zero _)⟩
  | case3 failed scene _ error left refused ih =>
      obtain ⟨count, within, rfl, answered, others⟩ := ih succeeds
      refine ⟨count + 1, Nat.succ_le_succ within, by omega, ?_, ?_⟩
      · rw [← Network.skip_next]
        exact answered
      · intro earlier below
        cases earlier with
        | zero =>
            obtain ⟨fault, rfl⟩ := exists_fault_of_request refused
            exact ⟨fault, refused⟩
        | succ earlier =>
            rw [← Network.skip_next]
            exact others earlier (Nat.lt_of_succ_lt_succ below)
  | case4 => cases succeeds

/-- How a download may end: while the network is waited for, or with what was fetched. -/
inductive Ends (address : String) (path : FilePath) (scene : Scene) : Performance → Prop where
  | refused {later : Scene} {error : Error} (waits : scene.Waits later)
      (cause : error = .cancelled ∨ ∃ fault, error = .download fault) :
      Ends address path scene (.failed later error)
  | saved {later : Scene} (waits : scene.Waits later) (bytes : ByteArray) (failed : Nat) :
      Ends address path scene (save address path later (bytes, failed))

theorem ends_download (address : String) (path : FilePath) (retries : Nat) (scene : Scene) :
    Ends address path scene (download address path retries scene) := by
  have waits := (Scene.waits_awaited scene).trans (waits_fetch address retries 0 scene.awaited)
  rw [download]
  cases connected : connect scene.files.network with
  | error error =>
      exact .refused (Scene.waits_awaited scene) (.inr (exists_fault_of_connect connected))
  | ok _ =>
      simp only [Performance.attempt]
      cases fetched : (fetch address retries 0 scene.awaited).2 with
      | error error => exact .refused waits (eq_of_fetch_eq_error fetched)
      | ok value => exact .saved waits value.1 value.2

@[simp] theorem workspace_save (address : String) (path : FilePath) (scene : Scene)
    (fetched : ByteArray × Nat) :
    (save address path scene fetched).1.workspace = scene.workspace := by
  simp only [save, Performance.attempt]
  split
  · simp only [Performance.done]
    split <;> rfl
  · rfl

/-- What is downloaded goes to a file, and the workspace stays as it was. -/
theorem Ends.workspace_eq {path : FilePath} {performance : Performance}
    (ends : Ends address path scene performance) :
    performance.1.workspace = scene.workspace := by
  cases ends with
  | refused waits => exact waits.workspace_eq
  | saved waits bytes failed => rw [workspace_save, waits.workspace_eq]

theorem write_of_save {path : FilePath} {bytes : ByteArray}
    (ends : (save address path scene (bytes, failed)).2 = none) :
    scene.files.write path bytes = .ok (save address path scene (bytes, failed)).1.files := by
  rw [save] at ends ⊢
  obtain ⟨files, saved, eq⟩ := Performance.exists_of_attempt ends
  rw [eq]
  cases written : scene.files.write path bytes with
  | error reason =>
      rw [written] at saved
      cases saved
  | ok after =>
      rw [written] at saved
      cases saved
      split <;> rfl

/-- A download that comes to its end has written the bytes that a request brought. -/
theorem exists_write_of_download {path : FilePath} {retries : Nat}
    (ends : (download address path retries scene).2 = none) :
    ∃ count ≤ retries, ∃ bytes network,
      request address (scene.files.network.skip (count + 1)) = .ok bytes ∧
      { scene.files with network := network }.write path bytes =
        .ok (download address path retries scene).1.files := by
  rw [download] at ends ⊢
  obtain ⟨_, _, eq⟩ := Performance.exists_of_attempt ends
  rw [eq] at ends ⊢
  obtain ⟨⟨bytes, total⟩, fetched, eq⟩ := Performance.exists_of_attempt ends
  rw [eq] at ends ⊢
  obtain ⟨count, within, -, answered, -⟩ := exists_request_of_fetch fetched
  obtain ⟨network, cancelled, waited⟩ :=
    (Scene.waits_awaited scene).trans (waits_fetch address retries 0 scene.awaited)
  refine ⟨count, within, bytes, network, ?_, ?_⟩
  · rw [← Network.skip_next]
    exact answered
  · have written := write_of_save ends
    rw [waited] at written ⊢
    exact written

end Builtin.WebGet

end Workflow
