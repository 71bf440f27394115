import Workflow.Command
import Workflow.Text.Lines

/-!
# Command files

Every line of a command file becomes one command.  A line that cannot be read becomes a
malformed command, so that the other lines do not suffer from it.  Lines between `/*` and `*/`
are comments whatever they hold.
-/

namespace Workflow.CommandFile

/-- What a call is recognized as. -/
def recognize (registry : Registry) (name : String) : CommandKind :=
  match registry.get? name with
  | some command => .known command.definition command.behavior
  | none => .unknown (registry.suggest name)

/-- The command that a single line holds. -/
def readLine (registry : Registry) (number : Nat) (line : List Char) : Except CallFault Command :=
  let text := String.ofList line
  match Text.trim line with
  | [] => .ok (.inert number text .blank)
  | '#' :: _ => .ok (.inert number text .comment)
  | trimmed =>
      match Call.read trimmed with
      | .error fault => .error fault
      | .ok call =>
          .ok { name := call.name, line := number, text, parameters := call.parameters,
                kind := recognize registry call.name }

/-- The command that a single line holds, or an error that names the line by its number. -/
def readNumbered (registry : Registry) (number : Nat) (line : String) : Except Error Command :=
  (readLine registry number line.toList).mapError (.call number)

/-- A line that is no command. -/
def malformed (number : Nat) (line : List Char) (fault : CallFault) : Command :=
  let name := (Text.trim line).takeWhile fun c => c != '(' && !Text.isBlank c
  { name := String.ofList name, line := number, text := String.ofList line,
    parameters := .empty, kind := .malformed fault }

/-- The command of a line outside of block comments. -/
def readLenient (registry : Registry) (number : Nat) (line : List Char) : Command :=
  match readLine registry number line with
  | .ok command => command
  | .error fault => malformed number line fault

/-- Whether a trimmed line opens a block comment. -/
def opensComment (trimmed : List Char) : Bool := (Text.stripStart ['/', '*'] trimmed).isSome

/-- Whether a trimmed line that opens a block comment closes it as well. -/
def closesItself (trimmed : List Char) : Bool :=
  4 ≤ trimmed.length && (Text.stripStart ['/', '*'] trimmed.reverse).isSome

/-- Whether a trimmed line closes a block comment. -/
def closesComment (trimmed : List Char) : Bool := (Text.stripStart ['*', '/'] trimmed).isSome

/-- The commands of the lines from the given number on. -/
def readLines (registry : Registry) : (inComment : Bool) → (number : Nat) →
    List (List Char) → List Command
  | _, _, [] => []
  | inComment, number, line :: rest =>
      let trimmed := Text.trim line
      let comment := Command.inert number (String.ofList line) .comment
      if opensComment trimmed then
        comment :: readLines registry (!closesItself trimmed) (number + 1) rest
      else if inComment then
        comment :: readLines registry (!closesComment trimmed) (number + 1) rest
      else readLenient registry number line :: readLines registry false (number + 1) rest

/-- The commands of a text, one for each line. -/
def read (registry : Registry) (text : String) : List Command :=
  readLines registry false 1 (Text.lines text.toList)

/-- The text of a command file with the given commands. -/
def render (commands : List Command) : String :=
  String.join (commands.map fun command => command.render ++ "\n")

/-- The value of the first annotation with a key, in any case. -/
def annotated? (key : String) (commands : List Command) : Option String :=
  ((commands.filterMap Command.annotation?).find? fun annotation =>
    Text.sameIgnoringCase annotation.1 key).map Prod.snd

/-- The status that a command file is annotated to end with. -/
def expectedStatus? (commands : List Command) : Option Status :=
  (annotated? "expectedStatus" commands).bind Status.read?

/-- Whether a command file takes part in regression runs. -/
def isEnabled (commands : List Command) : Bool :=
  ((annotated? "enabled" commands).bind readBoolean).getD true

end Workflow.CommandFile
