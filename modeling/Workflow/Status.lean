import Workflow.Text.Blank
import Workflow.Text.Search

/-!
# Statuses

A status says how a command ended.  Statuses are ordered by severity, so that the status of
several commands together is their maximum.
-/

namespace Workflow

/-- How a command or a run ended, by rising severity. -/
inductive Status where
  | unknown
  | success
  | warning
  | failure
  deriving DecidableEq, Repr, Inhabited

namespace Status

/-- Every status, by rising severity. -/
def all : List Status := [.unknown, .success, .warning, .failure]

/-- The place of a status in the order of severity. -/
def severity : Status → Nat
  | .unknown => 0
  | .success => 1
  | .warning => 2
  | .failure => 3

theorem severity_injective {left right : Status} (same : left.severity = right.severity) :
    left = right := by
  cases left <;> cases right <;> first | rfl | cases same

instance : LE Status := ⟨fun left right => left.severity ≤ right.severity⟩

instance : LT Status := ⟨fun left right => left.severity < right.severity⟩

instance (left right : Status) : Decidable (left ≤ right) :=
  inferInstanceAs (Decidable (left.severity ≤ right.severity))

instance (left right : Status) : Decidable (left < right) :=
  inferInstanceAs (Decidable (left.severity < right.severity))

/-- The more severe of two statuses. -/
def worst (left right : Status) : Status := if left ≤ right then right else left

@[simp] theorem severity_worst (left right : Status) :
    (worst left right).severity = max left.severity right.severity := by
  cases left <;> cases right <;> rfl

/-- The most severe of several statuses; unknown if there is none. -/
def worstOf (statuses : List Status) : Status := statuses.foldl worst .unknown

/-- Whether a status is more severe than the expected one. -/
def exceeds (status expected : Status) : Bool := expected < status

/-- The name of a status. -/
def name : Status → String
  | .unknown => "UNKNOWN"
  | .success => "SUCCESS"
  | .warning => "WARNING"
  | .failure => "FAILURE"

/-- The trimmed text in upper case, in which the name of a status is looked up. -/
def normalName (text : String) : String :=
  String.ofList ((Text.trim text.toList).map Text.upperAscii)

/-- The status with the given name, in any case and with blanks around it. -/
def read? (text : String) : Option Status :=
  all.find? fun status => status.name == normalName text

/-- The complaint about a text that names no status. -/
def unknownName (text : String) : String := s!"unknown status `{normalName text}`"

end Status

end Workflow
