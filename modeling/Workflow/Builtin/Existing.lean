import Workflow.Builtin.Control

/-!
# What happens to an object in the way

A command that stores an object under an id may find the id in use.  Its policy then says
whether the object in the way is replaced, kept, or a reason to fail.
-/

namespace Workflow.Builtin

/-- What a command does when its id is in use. -/
inductive ExistsPolicy where
  | replace
  | replaceAndWarn
  | warn
  | fail
  deriving DecidableEq, Repr

namespace ExistsPolicy

/-- The parameter that chooses a policy. -/
def parameter (name : String) : Parameter where
  name := name
  allowed := ["Replace", "ReplaceAndWarn", "Warn", "Fail"]
  fallback := some "Replace"
  description := some "Action when the ID is already in use"

def ofParameters (parameters : ParameterSet) (name : String) : ExistsPolicy :=
  match ParameterSet.text? parameters name with
  | some "ReplaceAndWarn" => .replaceAndWarn
  | some "Warn" => .warn
  | some "Fail" => .fail
  | _ => .replace

/-- The rest of a command that stores an object, if the policy lets it go on. -/
def guard (policy : ExistsPolicy) (scene : Scene) (kind id : String) (inUse : Bool)
    (error : Error) (rest : Scene → Performance) : Performance :=
  if inUse = false then rest scene
  else
    match policy with
    | .replace => rest scene
    | .replaceAndWarn =>
        rest (scene.report .warning s!"{kind} `{id}` already exists and was replaced"
          (some "Use a different ID to keep both"))
    | .warn =>
        .done (scene.report .warning s!"{kind} `{id}` already exists; keeping the existing one"
          (some "Free the existing object or use a different ID"))
    | .fail => .failed scene error

end ExistsPolicy

end Workflow.Builtin
