import Workflow.Status

/-!
# Status records

Each command keeps a status for its validation and one for its run, with the records that
explain them.  A phase status only ever rises.  The records of several executions of one
command are put together by `combine`.
-/

namespace Workflow

/-- The part of a command's life that a record belongs to. -/
inductive Phase where
  | validation
  | run
  deriving DecidableEq, Repr

/-- One thing that happened to a command, with what may be done about it. -/
structure Record where
  phase : Phase
  severity : Status
  problem : String
  recommendation : Option String
  deriving DecidableEq, Repr

/-- The record as one line of text. -/
def Record.display (record : Record) : String :=
  let advice := match record.recommendation with
    | some recommendation => s!" ({recommendation})"
    | none => ""
  s!"{record.severity.name}: {record.problem}{advice}"

/-- The statuses of a command's phases and the records behind them, oldest first. -/
structure StatusRecord where
  validation : Status := .unknown
  run : Status := .unknown
  records : List Record := []
  deriving DecidableEq, Repr, Inhabited

namespace StatusRecord

/-- The record of a command that has not been touched. -/
def fresh : StatusRecord := {}

/-- The more severe of the two phase statuses. -/
def overall (status : StatusRecord) : Status := Status.worst status.validation status.run

/-- The record with a phase raised to at least the given status. -/
def promote (status : StatusRecord) (phase : Phase) (level : Status) : StatusRecord :=
  match phase with
  | .validation => { status with validation := Status.worst status.validation level }
  | .run => { status with run := Status.worst status.run level }

/-- The record with one more entry, its phase raised to the severity of the entry. -/
def add (status : StatusRecord) (record : Record) : StatusRecord :=
  let raised := status.promote record.phase record.severity
  { raised with records := raised.records ++ [record] }

/-- The number of failures among the records. -/
def failureCount (status : StatusRecord) : Nat :=
  (status.records.filter fun record => record.severity = .failure).length

/-- Whether a failure is among the records. -/
def hasFailure (status : StatusRecord) : Bool :=
  status.records.any fun record => record.severity = .failure

/-- One line for each record. -/
def messages (status : StatusRecord) : List String := status.records.map Record.display

/-- The record of several executions of one command, oldest first. -/
def combine (executions : List StatusRecord) : StatusRecord where
  validation := Status.worstOf (executions.map (·.validation))
  run := Status.worstOf (executions.map (·.run))
  records := executions.flatMap (·.records)

@[simp] theorem records_promote (status : StatusRecord) (phase : Phase) (level : Status) :
    (status.promote phase level).records = status.records := by
  cases phase <;> rfl

@[simp] theorem records_add (status : StatusRecord) (record : Record) :
    (status.add record).records = status.records ++ [record] := by
  simp [add]

@[simp] theorem combine_nil : combine [] = fresh := rfl

end StatusRecord

end Workflow
