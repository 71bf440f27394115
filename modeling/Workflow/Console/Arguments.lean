import Workflow.FilePath

/-!
# Command lines

A command line names an action with its operands and options.  Options are written as a letter
or as a word, and the value of an option is attached to it or follows it.  The path of the
configuration may be given before and after the name of the action; the later one counts.
Behind two hyphens every word is an operand.
-/

namespace Workflow.Console

/-- An option of the command line. -/
inductive Flag where
  | configPath
  | select
  | haltOnFailure
  | property
  | report
  | yaml
  | help
  | version
  deriving DecidableEq, Repr

namespace Flag

def word : Flag → String
  | .configPath => "config-path"
  | .select => "select"
  | .haltOnFailure => "halt-on-failure"
  | .property => "property"
  | .report => "report"
  | .yaml => "yaml"
  | .help => "help"
  | .version => "version"

def letter? : Flag → Option Char
  | .configPath => some 'c'
  | .select => some 's'
  | .property => some 'p'
  | .report => some 'r'
  | .help => some 'h'
  | .version => some 'V'
  | .haltOnFailure | .yaml => none

def takesValue : Flag → Bool
  | .configPath | .select | .property | .report => true
  | .haltOnFailure | .yaml | .help | .version => false

/-- Whether an option may be given several times. -/
def mayRepeat (flag : Flag) : Bool := flag == .property

/-- Whether an option can have a value.  A path cannot be empty. -/
def accepts (flag : Flag) (value : String) : Bool := flag != .report || value != ""

end Flag

/-- Why a command line asks for no action. -/
inductive Interruption where
  /-- The command line is malformed. -/
  | usage
  | help
  | version
  deriving DecidableEq, Repr

/-- What a single word of a command line is. -/
inductive Word where
  | operand
  | separator
  | option (flag : Flag) (attached : Option String)
  | unknown
  deriving DecidableEq, Repr

namespace Word

/-- What a word after two hyphens is. -/
def ofLong (known : List Flag) (text : List Char) : Word :=
  let (name, attached) := match Text.splitOnce (· == '=') text with
    | some (name, value) => (name, some (String.ofList value))
    | none => (text, none)
  match known.find? fun flag => flag.word == String.ofList name with
  | none => .unknown
  | some flag => if attached.isSome && !flag.takesValue then .unknown else .option flag attached

/-- What a letter after one hyphen is, with the text attached to it. -/
def ofLetter (known : List Flag) (letter : Char) (attached : List Char) : Word :=
  match known.find? fun flag => flag.letter? == some letter with
  | none => .unknown
  | some flag =>
      if !flag.takesValue then .option flag none
      else
        match attached with
        | [] => .option flag none
        | '=' :: value => .option flag (some (String.ofList value))
        | value => .option flag (some (String.ofList value))

/-- What a word is where some options are known. -/
def classify (known : List Flag) (word : String) : Word :=
  match word.toList with
  | ['-', '-'] => .separator
  | '-' :: '-' :: text => ofLong known text
  | '-' :: letter :: attached => ofLetter known letter attached
  | _ => .operand

/-- Whether a word may be the value of the option before it. -/
def isValue (word : String) : Bool :=
  match word.toList with
  | '-' :: _ :: _ => false
  | _ => true

end Word

/-- What the operands of a command line are: the name of an action, which ends the options and
is kept together with everything behind it, or at most one path, which is not empty, or at most
one name. -/
inductive OperandKind where
  | action
  | path
  | name
  deriving DecidableEq, Repr

def OperandKind.accepts (kind : OperandKind) (word : String) : Bool :=
  kind != .path || word != ""

/-- The options and operands that were given. -/
structure Given where
  settings : List (Flag × String) := []
  operands : List String := []

namespace Given

def value? (given : Given) (flag : Flag) : Option String := given.settings.lookup flag

/-- The values of an option in order. -/
def values (given : Given) (flag : Flag) : List String :=
  (given.settings.filter fun setting => setting.1 == flag).map Prod.snd

def has (given : Given) (flag : Flag) : Bool := (given.value? flag).isSome

/-- What is given with one more option. -/
def add (given : Given) (flag : Flag) (value : String) : Except Interruption Given :=
  if flag == .help then .error .help
  else if flag == .version then .error .version
  else if (given.has flag && !flag.mayRepeat) || !flag.accepts value then .error .usage
  else .ok { given with settings := given.settings ++ [(flag, value)] }

def addOperands (given : Given) (operands : List String) : Given :=
  { given with operands := given.operands ++ operands }

/-- What a command line gives where some options are known. -/
def collect (known : List Flag) (kind : OperandKind) :
    (given : Given) → List String → Except Interruption Given
  | given, [] => .ok given
  | given, word :: rest =>
      match Word.classify known word with
      | .unknown => .error .usage
      | .separator =>
          if kind == .action then .error .usage else .ok (given.addOperands rest)
      | .operand =>
          if kind == .action then .ok (given.addOperands (word :: rest))
          else if given.operands != [] || !kind.accepts word then .error .usage
          else collect known kind (given.addOperands [word]) rest
      | .option flag attached =>
          match attached, rest with
          | some value, rest => do
              let given ← given.add flag value
              collect known kind given rest
          | none, value :: others =>
              if !flag.takesValue then do
                let given ← given.add flag ""
                collect known kind given (value :: others)
              else if Word.isValue value then do
                let given ← given.add flag value
                collect known kind given others
              else .error .usage
          | none, [] => if flag.takesValue then .error .usage else given.add flag ""

end Given

/-- How a command file is run. -/
structure RunOptions where
  select : Option String := none
  haltOnFailure : Bool := false
  properties : List String := []
  report : Option FilePath := none
  deriving DecidableEq, Repr

/-- What is to be done. -/
inductive Request where
  | run (file : FilePath) (options : RunOptions)
  | check (file : FilePath)
  | list (name : Option String)
  | regression (expected : FilePath) (report : Option FilePath) (yaml : Bool)
  deriving DecidableEq, Repr

namespace Request

/-- The options that are known before the name of an action. -/
def leadingFlags : List Flag := [.configPath, .help, .version]

/-- The names of the actions, with the operand and the options that each may have. -/
def actions : List (String × OperandKind × List Flag) :=
  [("run", .path, [.select, .haltOnFailure, .property, .report, .configPath, .help]),
   ("check", .path, [.configPath, .help]),
   ("list-commands", .name, [.configPath, .help]),
   ("regression", .path, [.report, .yaml, .configPath, .help])]

def helpWord : String := "help"

/-- The path that is the only operand. -/
def path (given : Given) : Except Interruption FilePath :=
  match given.operands with
  | [path] => if OperandKind.path.accepts path then .ok ⟨path⟩ else .error .usage
  | _ => .error .usage

def report? (given : Given) : Option FilePath := (given.value? .report).map FilePath.mk

def ofGiven (action : String) (given : Given) : Except Interruption Request :=
  match action with
  | "run" => do
      let file ← path given
      .ok (.run file
        { select := given.value? .select
          haltOnFailure := given.has .haltOnFailure
          properties := given.values .property
          report := report? given })
  | "check" => do .ok (.check (← path given))
  | "list-commands" =>
      match given.operands with
      | [] => .ok (.list none)
      | [name] => .ok (.list (some name))
      | _ => .error .usage
  | "regression" => do .ok (.regression (← path given) (report? given) (given.has .yaml))
  | _ => .error .usage

/-- Help is asked for with all actions, one action, or help itself. -/
def readHelp (words : List String) : Interruption :=
  match words with
  | [] => .help
  | [word] => if word == helpWord || (actions.lookup word).isSome then .help else .usage
  | _ => .usage

end Request

/-- What a command line asks for, and the path of the configuration. -/
structure Invocation where
  configPath : Option String
  request : Request
  deriving DecidableEq, Repr

namespace Invocation

/-- The invocation that the words of a command line form. -/
def read (words : List String) : Except Interruption Invocation := do
  let leading ← Given.collect Request.leadingFlags .action {} words
  match leading.operands with
  | [] => .error .usage
  | action :: rest =>
      if action = Request.helpWord then .error (Request.readHelp rest)
      else
        match Request.actions.lookup action with
        | none => .error .usage
        | some (kind, known) =>
            let given ← Given.collect known kind {} rest
            let request ← Request.ofGiven action given
            let configPath := (given.value? .configPath).or (leading.value? .configPath)
            .ok { configPath, request }

end Invocation

end Workflow.Console
