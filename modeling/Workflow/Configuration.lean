import Workflow.FilePath
import Workflow.OrderedMap

/-!
# Configurations

A configuration shapes how command files are run: whether a failure stops the run, how often
loops may iterate, and which properties are set from the start.
-/

namespace Workflow

/-- The settings of a run. -/
structure Configuration where
  haltOnFailure : Bool := false
  maxLoopIterations : Nat := 100000
  properties : OrderedMap String := .empty
  deriving DecidableEq, Inhabited

namespace Configuration

/-- The settings that hold unless others are given. -/
def standard : Configuration := {}

/-- Where the configuration is kept unless another place is given. -/
def standardPath : String := "~/.geoflow/config.yml"

/-- The place of the configuration: the given one or the standard one. -/
def path (home : String) (given : Option String) : FilePath :=
  ⟨FilePath.expandHome home (given.getD standardPath)⟩

end Configuration

end Workflow
