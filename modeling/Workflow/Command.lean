import Workflow.Registry

/-!
# Commands

A command is one line of a command file: what it says, what it was recognized as, and the
status of its last run.  Editing a parameter makes the line be written anew from its parameters;
all other lines keep their text.
-/

namespace Workflow

/-- What a line was recognized as. -/
inductive CommandKind where
  | blank
  | comment
  | known (definition : Definition) (behavior : Behavior)
  | unknown (suggestion : Option String)
  | malformed (fault : CallFault)

/-- One line of a command file. -/
structure Command where
  name : String
  line : Nat
  text : String
  parameters : OrderedMap String
  kind : CommandKind
  modified : Bool := false
  status : StatusRecord := .fresh

namespace Command

/-- A line that never runs. -/
def inert (line : Nat) (text : String) (kind : CommandKind) : Command :=
  { name := "", line, text, parameters := .empty, kind }

/-- Whether the line is blank or a comment. -/
def isInert (command : Command) : Bool :=
  match command.kind with
  | .blank | .comment => true
  | _ => false

def definition? (command : Command) : Option Definition :=
  match command.kind with
  | .known definition _ => some definition
  | _ => none

/-- The part that the command plays in the block structure. -/
def role? (command : Command) : Option BlockRole := command.definition?.bind (·.role)

def parameter? (command : Command) (name : String) : Option String := command.parameters.get? name

/-- The warnings about parameters that a known command does not have. -/
def warnings (command : Command) : List String :=
  match command.kind with
  | .known definition _ =>
      (command.parameters.keys.filter fun key => !definition.recognizes key).map fun key =>
        s!"Parameter `{key}` is not recognized by {command.name}"
  | _ => []

def call (command : Command) : Call := ⟨command.name, command.parameters⟩

/-- The line as it belongs in a command file. -/
def render (command : Command) : String :=
  if command.modified then command.call.render else command.text

def commentMark : Char := '#'

/-- The key and the value of an annotation, which is a comment that starts with `#@`. -/
def annotation? (command : Command) : Option (String × String) :=
  match command.kind, Text.trim command.text.toList with
  | .comment, '#' :: '@' :: body =>
      match Text.splitOnce Text.isBlank body with
      | some (key, value) => some (String.ofList key, String.ofList (Text.trim value))
      | none => some (String.ofList body, "")
  | _, _ => none

/-- Whether the line has a parameter list that may be edited. -/
def isEditable (command : Command) : Bool :=
  match command.kind with
  | .known _ _ | .unknown _ => true
  | _ => false

/-- The error of editing a line without a parameter list. -/
def notEditable (command : Command) : Error := .obstacle (.noParametersToEdit command.line)

/-- The command with a parameter set.  A value may not hold a quote, because a command file
could not hold it. -/
def setParameter (command : Command) (name value : String) : Except Error Command :=
  if command.isEditable = false then .error command.notEditable
  else if value.toList.contains '"' then .error (.obstacle (.quoteInValue name))
  else .ok { command with parameters := command.parameters.insert name value, modified := true }

/-- The command without a parameter, and the text that the parameter had. -/
def removeParameter (command : Command) (name : String) :
    Except Error (Option String × Command) :=
  if command.isEditable = false then .error command.notEditable
  else
    match command.parameter? name with
    | none => .ok (none, command)
    | some value =>
        .ok (some value,
          { command with parameters := command.parameters.erase name, modified := true })

end Command

end Workflow
