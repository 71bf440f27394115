import Workflow.Call
import Workflow.Condition
import Workflow.GeoLayer
import Workflow.Identifier
import Workflow.Status
import Workflow.Table
import Workflow.Yaml.Fault

/-!
# Errors

Every operation that can fail says why with a cause.  The wording of the causes is in
`Error.message` alone.
-/

namespace Workflow

/-- What a file is used for. -/
inductive FileUse where
  | commands
  | configuration
  | expectedResults
  | report
  | geoJson
  | download
  deriving DecidableEq, Repr

def FileUse.name : FileUse → String
  | .commands => "command"
  | .configuration => "config"
  | .expectedResults => "expected results"
  | .report => "report"
  | .geoJson => "GeoJSON"
  | .download => "download"

/-- Why nothing was downloaded. -/
inductive DownloadFault where
  /-- The request had no response, or the response broke off. -/
  | noResponse (reason : String)
  /-- The status of the response does not stand for success. -/
  | badStatus (address : String) (status : UInt16)
  deriving DecidableEq, Repr

/-- The message about the failure. -/
def DownloadFault.message : DownloadFault → String
  | .noResponse reason => s!"HTTP request failed: {reason}"
  | .badStatus address status => s!"HTTP request to `{address}` returned status {status}"

/-- Why a line selection denotes no lines. -/
inductive SelectionFault where
  | emptyItem
  | notNumber (text : String)
  | outside (line count : Nat)
  | reversed (range : String)
  deriving DecidableEq, Repr

/-- The wording of the reason. -/
def SelectionFault.message : SelectionFault → String
  | .emptyItem => "empty item"
  | .notNumber text => s!"`{text}` is not a line number"
  | .outside line count => s!"line {line} is outside 1-{count}"
  | .reversed range => s!"range `{range}` is reversed"

/-- Causes of failure without a wording of their own kind. -/
inductive Obstacle where
  | noParametersToEdit (line : Nat)
  | quoteInValue (name : String)
  | parameterNotSet (name : String)
  | nestedTooDeep (limit : Nat)
  | didYouMean (name suggestion : String)
  | condition (error : ConditionError)
  | unknownStatus (text : String)
  /-- A complaint in words, from a command that has its own. -/
  | complaint (text : String)
  deriving DecidableEq, Repr

/-- The wording of the cause. -/
def Obstacle.message : Obstacle → String
  | .noParametersToEdit line => s!"Line {line} has no parameters to edit"
  | .quoteInValue name => s!"Value for `{name}` may not contain a double quote"
  | .parameterNotSet name => s!"Parameter `{name}` is not set"
  | .nestedTooDeep limit => s!"RunCommands is nested more than {limit} levels deep"
  | .didYouMean name suggestion => s!"Unknown command `{name}`, did you mean `{suggestion}`?"
  | .condition error => error.message
  | .unknownStatus text => Status.unknownName text
  | .complaint text => text

/-- Why an operation failed. -/
inductive Error where
  | file (use : FileUse) (path : FilePath) (reason : FileError)
  /-- A file that does not have the form it should have. -/
  | wrongForm (use : FileUse) (path : FilePath) (fault : Yaml.Fault)
  | document (path : String) (fault : DocumentFault)
  | delimited (path : FilePath) (reason : DelimitedError)
  | download (fault : DownloadFault)
  | duplicateCommand (name : String)
  | unknownCommand (name : String)
  | call (line : Nat) (fault : CallFault)
  | noCommandAt (index : Nat)
  | layerNotFound (id : String)
  | layerExists (id : String)
  | tableNotFound (id : String)
  | tableExists (id : String)
  | columnNotFound (table column : String)
  | propertyNotFound (name : String)
  | propertyNotList (name : String)
  | assignmentForm (text : String)
  | selection (text : String) (fault : SelectionFault)
  | identifier (text : String) (fault : IdentifierFault)
  | cancelled
  | obstacle (cause : Obstacle)
  deriving DecidableEq, Repr

namespace Error

/-- A failure with a complaint in words. -/
def complaint (text : String) : Error := .obstacle (.complaint text)

def documentMessage (path : String) : DocumentFault → String
  | .notJson error => s!"Error parsing GeoJSON file at `{path}`: {error.message}"
  | .noType => s!"GeoJSON file at `{path}` is not usable: missing `type` member"
  | .featuresNotArray => s!"GeoJSON file at `{path}` is not usable: `features` is not an array"
  | .unsupported type => s!"GeoJSON file at `{path}` is not usable: unsupported type `{type}`"

/-- The message about a failure. -/
def message : Error → String
  | .file use path reason =>
      s!"IO error with {use.name} file at path `{path.text}`: {reason.message}"
  | .wrongForm use path fault =>
      s!"Error reading {use.name} file at `{path.text}`: {fault.message}"
  | .document path fault => documentMessage path fault
  | .delimited path reason => s!"Error with delimited file at `{path.text}`: {reason.message}"
  | .download fault => fault.message
  | .duplicateCommand name => s!"Command `{name}` is registered more than once"
  | .unknownCommand name => s!"Unknown command: `{name}`"
  | .call line fault => s!"Could not parse command: line {line}: {fault.message}"
  | .noCommandAt index => s!"No command at index {index}"
  | .layerNotFound id => s!"GeoLayer `{id}` does not exist"
  | .layerExists id => s!"GeoLayer `{id}` already exists"
  | .tableNotFound id => s!"Table `{id}` does not exist"
  | .tableExists id => s!"Table `{id}` already exists"
  | .columnNotFound table column => s!"Table `{table}` has no column `{column}`"
  | .propertyNotFound name => s!"Property `{name}` is not defined"
  | .propertyNotList name => s!"Property `{name}` cannot be used as a list"
  | .assignmentForm text => s!"Invalid parameter format, expected `Name=Value`: `{text}`"
  | .selection text fault => s!"Invalid line selection `{text}`: {fault.message}"
  | .identifier text fault => Identifier.complaint text fault
  | .cancelled => "Run was cancelled"
  | .obstacle cause => s!"Misc error: {cause.message}"

end Error

end Workflow
