import Mathlib.Order.MinMax
import Workflow.StatusRecord

/-!
# Statuses in their order

Statuses are linearly ordered by severity, and the status of several commands together is the
least one that is as severe as each of them.  The status of a command is the more severe one of its
phases, so every entry and every success that is noted for a phase raises it to their maximum.
-/

namespace Workflow

namespace Status

instance : LinearOrder Status where
  le_refl status := Nat.le_refl status.severity
  le_trans _ _ _ := Nat.le_trans
  le_antisymm _ _ left right := severity_injective (Nat.le_antisymm left right)
  le_total left right := Nat.le_total left.severity right.severity
  lt_iff_le_not_ge _ _ := Nat.lt_iff_le_and_not_ge
  toDecidableLE := inferInstance

theorem worst_eq_max (left right : Status) : worst left right = max left right := rfl

@[simp] theorem unknown_le (status : Status) : .unknown ≤ status := Nat.zero_le _

@[simp] theorem le_failure (status : Status) : status ≤ .failure := by
  cases status <;> decide

theorem eq_failure_of_le {status : Status} (worse : .failure ≤ status) : status = .failure :=
  le_antisymm (le_failure status) worse

theorem foldl_worst (start : Status) (statuses : List Status) :
    statuses.foldl worst start = max start (worstOf statuses) := by
  rw [worstOf]
  induction statuses generalizing start with
  | nil => exact (max_eq_left (unknown_le start)).symm
  | cons first rest ih =>
      rw [List.foldl_cons, List.foldl_cons, ih, ih (worst .unknown first), worst_eq_max,
        worst_eq_max, max_eq_right (unknown_le first), max_assoc]

theorem worstOf_cons (first : Status) (rest : List Status) :
    worstOf (first :: rest) = max first (worstOf rest) := by
  rw [worstOf, List.foldl_cons, foldl_worst, worst_eq_max, max_eq_right (unknown_le first)]

theorem worstOf_append (front back : List Status) :
    worstOf (front ++ back) = max (worstOf front) (worstOf back) := by
  rw [worstOf, List.foldl_append, ← worstOf, foldl_worst]

/-- The worst status is the least one that no status exceeds. -/
theorem worstOf_le_iff {statuses : List Status} {bound : Status} :
    worstOf statuses ≤ bound ↔ ∀ status ∈ statuses, status ≤ bound := by
  induction statuses with
  | nil => simp [worstOf]
  | cons first rest ih => rw [worstOf_cons, max_le_iff, ih, List.forall_mem_cons]

theorem le_worstOf {statuses : List Status} {status : Status} (member : status ∈ statuses) :
    status ≤ worstOf statuses :=
  worstOf_le_iff.mp (le_refl _) status member

/-- The worst of several statuses is one of them. -/
theorem worstOf_mem {statuses : List Status} (some : statuses ≠ []) :
    worstOf statuses ∈ statuses := by
  induction statuses with
  | nil => exact absurd rfl some
  | cons first rest ih =>
      rw [worstOf_cons]
      cases rest with
      | nil => simp [worstOf]
      | cons second others =>
          rcases max_choice first (worstOf (second :: others)) with same | same
          · rw [same]
            exact List.mem_cons_self
          · rw [same]
            exact List.mem_cons_of_mem _ (ih (List.cons_ne_nil _ _))

/-- Statuses that are unknown do not matter. -/
theorem worstOf_eq_failure_iff {statuses : List Status} :
    worstOf statuses = .failure ↔ .failure ∈ statuses := by
  constructor
  · intro worst
    rw [← worst]
    apply worstOf_mem
    rintro rfl
    cases worst
  · intro member
    exact eq_failure_of_le (le_worstOf member)

end Status

namespace StatusRecord

open Status

theorem overall_promote (status : StatusRecord) (phase : Phase) (level : Status) :
    (status.promote phase level).overall = max status.overall level := by
  cases phase with
  | validation => exact max_right_comm ..
  | run => exact (max_assoc ..).symm

theorem promote_promote (status : StatusRecord) (phase : Phase) (level : Status) :
    (status.promote phase level).promote phase level = status.promote phase level := by
  cases phase <;> simp only [promote, worst_eq_max, max_assoc, max_self]

theorem overall_add (status : StatusRecord) (record : Record) :
    (status.add record).overall = max status.overall record.severity :=
  overall_promote status record.phase record.severity

theorem overall_combine (executions : List StatusRecord) :
    (combine executions).overall = worstOf (executions.map overall) := by
  induction executions with
  | nil => rfl
  | cons first rest ih =>
      rw [List.map_cons, worstOf_cons, ← ih]
      simp only [overall, combine, worst_eq_max, List.map_cons, worstOf_cons]
      exact max_max_max_comm ..

end StatusRecord

end Workflow
