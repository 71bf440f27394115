import Workflow.FileSystem
import Mathlib.Data.List.Basic

/-!
# Reading files that were written

Writing to a path stores the bytes at one location and leaves everything else as it was.  The path
leads to this location from then on, so reading it gives the bytes that were written.
-/

namespace Workflow

/-- The last piece of a text ends with its last character. -/
theorem Text.exists_pieces_concat (isSeparator : Char → Bool) {c : Char}
    (other : isSeparator c = false) (front : List Char) :
    ∃ before piece, pieces isSeparator (front ++ [c]) = before ++ [piece ++ [c]] := by
  induction front with
  | nil => exact ⟨[], [], by simp [pieces, other]⟩
  | cons d front ih =>
      obtain ⟨before, piece, whole⟩ := ih
      rw [List.cons_append, pieces, whole]
      split
      · exact ⟨[] :: before, piece, rfl⟩
      · cases before with
        | nil => exact ⟨[], d :: piece, rfl⟩
        | cons first before => exact ⟨(d :: first) :: before, piece, rfl⟩

namespace FileSystem

variable {system after : FileSystem} {path : FilePath} {location place : Location}
variable {bytes : ByteArray}

/-- What was stored at a location is found there, and elsewhere what was there before. -/
theorem content?_store (system : FileSystem) (location other : Location) (bytes : ByteArray) :
    (system.store location bytes).content? other =
      if other = location then some bytes else system.content? other := by
  rw [store]
  split
  · next present =>
      have search : ((fun file : Location × ByteArray => file.1 == other) ∘ fun file =>
          if file.1 == location then (location, bytes) else file) =
            fun file => file.1 == other := by
        funext file
        by_cases here : file.1 = location <;> simp [here]
      simp only [content?, List.find?_map, search, Option.map_map] at present ⊢
      split
      · next same =>
          subst same
          cases found : system.files.find? fun file => file.1 == other with
          | none => simp [found] at present
          | some file =>
              have here : file.1 = other := by simpa using List.find?_some found
              simp [here]
      · next different =>
          cases found : system.files.find? fun file => file.1 == other with
          | none => rfl
          | some file =>
              have here : file.1 = other := by simpa using List.find?_some found
              simp [here, different]
  · next absent =>
      rw [Option.not_isSome_iff_eq_none, content?, Option.map_eq_none_iff] at absent
      simp only [content?, List.find?_append]
      split
      · next same =>
          subst same
          simp [absent]
      · next different =>
          have elsewhere : location ≠ other := fun same => different same.symm
          simp [elsewhere]

theorem isFolderAt_store (system : FileSystem) (location other : Location) (bytes : ByteArray) :
    (system.store location bytes).isFolderAt other = system.isFolderAt other := by
  rw [store]
  split <;> rfl

theorem start_store (system : FileSystem) (location : Location) (bytes : ByteArray)
    (path : FilePath) : (system.store location bytes).start path = system.start path := by
  rw [store]
  split <;> rfl

/-- The location that one component of a path leads to. -/
def advance (system : FileSystem) (place : Location) (piece : String) :
    Except FileError Location :=
  if system.isFolderAt place then
    if piece == "" || piece == "." then .ok place
    else if piece == ".." then .ok place.dropLast
    else if 255 < piece.utf8ByteSize then .error .nameTooLong
    else if system.isFolderAt (place ++ [piece]) || (system.content? (place ++ [piece])).isSome then
      .ok (place ++ [piece])
    else .error .notFound
  else .error .notFolder

theorem walk_cons (system : FileSystem) (place : Location) (piece : String)
    (rest : List String) :
    system.walk place (piece :: rest) =
      (system.advance place piece).bind fun inner => system.walk inner rest := by
  simp only [walk, advance]
  split_ifs <;> rfl

/-- The components of a path lead on one after the other. -/
theorem walk_append (system : FileSystem) (place : Location) (front rest : List String) :
    system.walk place (front ++ rest) =
      (system.walk place front).bind fun inner => system.walk inner rest := by
  induction front generalizing place with
  | nil => rfl
  | cons piece front ih =>
      rw [List.cons_append, walk_cons, walk_cons]
      cases system.advance place piece with
      | error reason => rfl
      | ok inner => exact ih inner

/-- Where a component has led before, it leads when something was stored. -/
theorem advance_store {piece : String} (found : system.advance place piece = .ok location)
    (stored : Location) (bytes : ByteArray) :
    (system.store stored bytes).advance place piece = .ok location := by
  simp only [advance, isFolderAt_store, content?_store] at found ⊢
  split_ifs at found ⊢ <;> simp_all

theorem walk_store {pieces : List String} (found : system.walk place pieces = .ok location)
    (stored : Location) (bytes : ByteArray) :
    (system.store stored bytes).walk place pieces = .ok location := by
  induction pieces generalizing place with
  | nil => exact found
  | cons piece rest ih =>
      rw [walk_cons] at found ⊢
      cases leads : system.advance place piece with
      | error reason =>
          rw [leads] at found
          cases found
      | ok inner =>
          rw [leads] at found
          rw [advance_store leads]
          exact ih found

/-- The last piece of a path that does not end with a slash is not empty. -/
theorem exists_pieces_concat (written : path.text ≠ "")
    (solid : path.text.toList.getLast? ≠ some '/') :
    ∃ front last, pieces path = front ++ [last] ∧ last ≠ "" := by
  have nonempty : path.text.toList ≠ [] := mt String.toList_eq_nil_iff.mp written
  have whole := List.dropLast_append_getLast nonempty
  have other : (path.text.toList.getLast nonempty == '/') = false := by
    rw [beq_eq_false_iff_ne]
    intro slash
    exact solid (by rw [List.getLast?_eq_some_getLast nonempty, slash])
  obtain ⟨before, piece, split⟩ :=
    Text.exists_pieces_concat (· == '/') other path.text.toList.dropLast
  rw [whole] at split
  refine ⟨before.map String.ofList,
    String.ofList (piece ++ [path.text.toList.getLast nonempty]), ?_, ?_⟩
  · rw [pieces, FilePath.pieces, split, List.map_append]
    rfl
  · intro empty
    have nothing := congrArg String.toList empty
    simp at nothing

/-- How a path leads to the location that writing to it fills. -/
theorem target_eq_ok (found : system.target path = .ok location) :
    refusal path = none ∧ ∃ front last place, pieces path = front ++ [last] ∧
      system.walk (system.start path) front = .ok place ∧ system.isFolderAt place = true ∧
      last ≠ "" ∧ last ≠ "." ∧ last ≠ ".." ∧ last.utf8ByteSize ≤ 255 ∧
      location = place ++ [last] := by
  simp only [target] at found
  split at found
  · cases found
  · next accepted =>
      have fine : refusal path = none :=
        Option.eq_none_iff_forall_ne_some.mpr fun reason refused => accepted reason refused
      have written : path.text ≠ "" := by
        intro empty
        simp [refusal, empty] at fine
      refine ⟨fine, ?_⟩
      split at found
      · cases found
      · next last before kept =>
          cases walks : system.walk (system.start path) before.reverse with
          | error reason =>
              rw [walks] at found
              cases found
          | ok place =>
              simp only [walks, bind, Except.bind] at found
              split at found
              · next folder =>
                  split at found
                  · cases found
                  · next names =>
                      simp only [Bool.or_eq_true, beq_iff_eq, not_or] at names
                      obtain ⟨⟨solid, noDot⟩, noDots⟩ := names
                      obtain ⟨front, own, whole, visible⟩ := exists_pieces_concat written solid
                      rw [whole, List.reverse_append, List.reverse_singleton,
                        List.singleton_append, List.dropWhile_cons_of_neg (by simpa using visible),
                        List.cons.injEq] at kept
                      obtain ⟨rfl, rfl⟩ := kept
                      rw [List.reverse_reverse] at walks
                      split at found
                      · cases found
                      · next short =>
                          split at found
                          · cases found
                          · cases found
                            exact ⟨front, own, place, whole, walks, folder, visible, noDot,
                              noDots, Nat.le_of_not_lt short, rfl⟩
              · cases found

/-- What was written is read back. -/
theorem read_of_write (written : system.write path bytes = .ok after) :
    after.read path = .ok bytes := by
  cases fills : system.target path with
  | error reason =>
      rw [write, fills] at written
      cases written
  | ok location =>
      rw [write, fills] at written
      cases written
      obtain ⟨fine, front, last, place, whole, walks, folder, visible, noDot, noDots, short, rfl⟩ :=
        target_eq_ok fills
      have enters : (system.store (place ++ [last]) bytes).advance place last =
          .ok (place ++ [last]) := by
        simp [advance, isFolderAt_store, content?_store, folder, visible, noDot, noDots, short]
      have found : (system.store (place ++ [last]) bytes).locate path = .ok (place ++ [last]) := by
        simp only [locate, fine, start_store, whole, walk_append, walk_store walks, Except.bind]
        rw [walk_cons, enters]
        rfl
      have filled : (system.store (place ++ [last]) bytes).content? (place ++ [last]) =
          some bytes := by
        rw [content?_store, if_pos rfl]
      simp only [read, bind, Except.bind, found, filled]

end FileSystem

end Workflow
