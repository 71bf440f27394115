import Workflow.Definition
import Workflow.FileSystem
import Workflow.ParameterSet

/-!
# Validation

Command files hold untyped texts.  Before a command runs, its texts are checked against its
definition: every name must be known, every required parameter must have a text, and every text
must be acceptable for its type.  A blank text counts as not given.  All problems are reported,
and only without problems is there a set of typed values.
-/

namespace Workflow

namespace Validation

/-- Where validation takes place: the files it may look at and the folder where relative paths
start. -/
structure Place where
  files : FileSystem
  workingFolder : FilePath

/-- The complaint about a parameter that the definition does not have. -/
def unknownParameter (definition : Definition) (name : String) : Problem where
  parameter := some name
  problem := s!"Unknown parameter `{name}` for command {definition.name}"
  recommendation :=
    "Specify only valid parameters: " ++ ", ".intercalate definition.parameterNames

/-- The complaint about a required parameter without a text. -/
def missingParameter (name : String) : Problem where
  parameter := some name
  problem := s!"Required parameter `{name}` is missing"
  recommendation := s!"Specify a value for {name}"

/-- The complaint about a text that is none of the allowed ones. -/
def notAllowed (parameter : Parameter) (text : String) : Problem where
  parameter := some parameter.name
  problem := s!"Value `{text}` is not allowed for {parameter.name}"
  recommendation := "Use one of: " ++ ", ".intercalate parameter.allowed

/-- The complaint about a text that does not spell a value of its type. -/
def notOfType (name text article shape : String) : Problem where
  parameter := some name
  problem := s!"{name} value `{text}` is not {article} {shape}"
  recommendation := s!"Specify {name} as {article} {shape}"

/-- The complaint about a text that is no truth value. -/
def notBoolean (name text : String) : Problem where
  parameter := some name
  problem := s!"{name} value `{text}` is not a boolean"
  recommendation := s!"Specify {name} as True or False"

/-- The complaint about a text that is no identifier. -/
def notIdentifier (name text : String) (fault : IdentifierFault) : Problem where
  parameter := some name
  problem := Identifier.complaint text fault
  recommendation := s!"Specify a valid {name}"

/-- The complaint about an input file that is not there. -/
def noInputFile (name : String) (path : FilePath) : Problem where
  parameter := some name
  problem := s!"{name} `{path.text}` does not exist"
  recommendation := "Specify an existing input file"

/-- The complaint about an output file whose folder is not there. -/
def noOutputFolder (name : String) (folder : FilePath) : Problem where
  parameter := some name
  problem := s!"Folder `{folder.text}` for {name} does not exist"
  recommendation := "Create the output folder before running the command"

/-- The complaint about a text that is no web address. -/
def notUrl (name text : String) : Problem where
  parameter := some name
  problem := s!"{name} `{text}` is not an http(s) URL"
  recommendation := s!"Specify {name} starting with http:// or https://"

/-- Whether a text starts like a web address. -/
def isUrl (text : String) : Bool :=
  (Text.stripStart "http://".toList text.toList).isSome ||
    (Text.stripStart "https://".toList text.toList).isSome

/-- The folder of an output file, if it is named and not there. -/
def missingFolder? (place : Place) (path : FilePath) : Option FilePath :=
  match path.parent with
  | some folder =>
      if folder.text ≠ "" ∧ place.files.isFolder folder = false then some folder else none
  | none => none

/-- The value that a text spells as a value of the given type. -/
def typed (place : Place) (type : ParameterType) (name text : String) : Except Problem Value :=
  let resolved := place.files.resolve place.workingFolder text
  match type with
  | .text => .ok (.text text)
  | .integer =>
      match Decimal.readSigned text.toList with
      | some number => .ok (.integer number)
      | none => .error (notOfType name text "an" "integer")
  | .float =>
      match Decimal.readFloat text.toList with
      | some number => .ok (.float number)
      | none => .error (notOfType name text "a" "number")
  | .boolean =>
      match readBoolean text with
      | some truth => .ok (.boolean truth)
      | none => .error (notBoolean name text)
  | .identifier =>
      match Identifier.fault? text with
      | none => .ok (.text text)
      | some fault => .error (notIdentifier name text fault)
  | .inputFile =>
      if place.files.isFile resolved then .ok (.path resolved)
      else .error (noInputFile name resolved)
  | .outputFile =>
      match missingFolder? place resolved with
      | none => .ok (.path resolved)
      | some folder => .error (noOutputFolder name folder)
  | .path => .ok (.path resolved)
  | .url => if isUrl text then .ok (.text text) else .error (notUrl name text)

/-- The text of a parameter without the blanks around it, which only free text keeps. -/
def normalText (parameter : Parameter) (text : String) : String :=
  if parameter.type = .text ∧ parameter.allowed = [] then text else Text.trimmed text

/-- The value of a parameter given as a text. -/
def coerce (place : Place) (parameter : Parameter) (text : String) : Except Problem Value :=
  let given := normalText parameter text
  if parameter.allowed = [] then typed place parameter.type parameter.name given
  else
    match parameter.canonical? given with
    | some canonical => typed place parameter.type parameter.name canonical
    | none => .error (notAllowed parameter given)

/-- The text that counts for a parameter: the given one unless it is blank, or else the
default. -/
def effectiveText? (raw : OrderedMap String) (parameter : Parameter) : Option String :=
  match (raw.get? parameter.name).filter fun text => Text.trim text.toList != [] with
  | some text => some text
  | none => parameter.fallback

/-- What validation makes of one parameter: a value, nothing, or a complaint. -/
def parameter (place : Place) (raw : OrderedMap String) (parameter : Parameter) :
    Except Problem (Option Value) :=
  match effectiveText? raw parameter with
  | some text => (coerce place parameter text).map some
  | none => if parameter.required then .error (missingParameter parameter.name) else .ok none

/-- The complaints about names that the definition does not have, in the order in which they
are written. -/
def unknownNames (definition : Definition) (raw : OrderedMap String) : List Problem :=
  (raw.keys.filter fun name => !definition.recognizes name).map (unknownParameter definition)

/-- What validation has found up to some parameter. -/
structure Findings where
  values : ParameterSet
  problems : List Problem

/-- The findings after one more parameter. -/
def Findings.add (place : Place) (raw : OrderedMap String) (findings : Findings)
    (next : Parameter) : Findings :=
  match parameter place raw next with
  | .ok (some value) => { findings with values := findings.values.insert next.name value }
  | .ok none => findings
  | .error problem => { findings with problems := findings.problems ++ [problem] }

/-- The findings for all parameters of a definition. -/
def findings (place : Place) (definition : Definition) (raw : OrderedMap String) : Findings :=
  definition.parameters.foldl (Findings.add place raw) ⟨.empty, unknownNames definition raw⟩

end Validation

/-- The typed values of the parameters given as texts, or every problem with them. -/
def validate (place : Validation.Place) (definition : Definition) (raw : OrderedMap String) :
    Except (List Problem) ParameterSet :=
  let found := Validation.findings place definition raw
  if found.problems = [] then .ok found.values else .error found.problems

end Workflow
