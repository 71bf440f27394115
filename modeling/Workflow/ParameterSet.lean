import Workflow.Error
import Workflow.OrderedMap
import Workflow.Value

/-!
# Validated parameters

A command runs with the typed values of its parameters.  Optional parameters that were not
given and have no default are absent.  Values are looked up by name and as the type that the
command needs.
-/

namespace Workflow

/-- The typed values of the parameters of one execution, in the order of their definitions. -/
abbrev ParameterSet := OrderedMap Value

namespace ParameterSet

def text? (parameters : ParameterSet) (name : String) : Option String :=
  (parameters.get? name).bind Value.text?

def integer? (parameters : ParameterSet) (name : String) : Option Int :=
  (parameters.get? name).bind Value.integer?

/-- The number given for a parameter. -/
def float? (parameters : ParameterSet) (name : String) : Option Float :=
  (parameters.get? name).bind Value.float?

/-- The truth value given for a parameter. -/
def boolean? (parameters : ParameterSet) (name : String) : Option Bool :=
  (parameters.get? name).bind Value.boolean?

def path? (parameters : ParameterSet) (name : String) : Option FilePath :=
  (parameters.get? name).bind Value.path?

def text (parameters : ParameterSet) (name : String) : Except Error String :=
  match parameters.text? name with
  | some text => .ok text
  | none => .error (.obstacle (.parameterNotSet name))

def path (parameters : ParameterSet) (name : String) : Except Error FilePath :=
  match parameters.path? name with
  | some path => .ok path
  | none => .error (.obstacle (.parameterNotSet name))

end ParameterSet

/-- A reason for which the parameters of a command are refused. -/
structure Problem where
  parameter : Option String
  problem : String
  recommendation : String
  deriving DecidableEq, Repr

end Workflow
