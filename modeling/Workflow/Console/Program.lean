import Workflow.Builtin
import Workflow.ConfigurationFile
import Workflow.Console.Arguments
import Workflow.Console.Assignment
import Workflow.Console.Check
import Workflow.Console.Listing
import Workflow.Console.Selection
import Workflow.Regression
import Workflow.Report

/-!
# The program

The program reads its configuration, does what the command line asks for, and answers with an
exit code and with what it says.  Its exit code tells whether anything failed; a malformed
command line has an exit code of its own.
-/

namespace Workflow.Console

/-- How the program ends: its exit code, what it shows, and what it complains about. -/
structure Reply where
  exitCode : Nat
  output : String := ""
  complaint : String := ""
  deriving DecidableEq, Repr

namespace Reply

/-- What was done, with an exit code that tells whether it failed. -/
def done (output : String) (failed : Bool) : Reply where
  exitCode := if failed then 1 else 0
  output := output

/-- An error, after some output. -/
def failed (output : String) (error : Error) : Reply where
  exitCode := 1
  output := output
  complaint := error.message ++ "\n"

end Reply

namespace Program

/-- The name and the version of the program. -/
def version : String := "gf 0.1.0\n"

/-- How the program is used. -/
def usage : String :=
  "Usage: gf [-c CONFIG] run FILE [-s LINES] [-p NAME=VALUE]... [-r REPORT] " ++
    "[--halt-on-failure]\n" ++
  "       gf [-c CONFIG] check FILE\n" ++
  "       gf [-c CONFIG] list-commands [NAME]\n" ++
  "       gf [-c CONFIG] regression EXPECTED [-r REPORT] [--yaml]\n"

/-- The file system with a report written to a file, if there is one. -/
def writeReport (files : FileSystem) (report : Option FilePath) (text : String) :
    Except Error FileSystem :=
  match report with
  | none => .ok files
  | some path => (files.writeText path text).mapError (.file .report path)

/-- The processor for a command file with the properties and the policy of the command line. -/
def load (configuration : Configuration) (files : FileSystem) (file : FilePath)
    (options : RunOptions) : Except Error Processor := do
  let properties ← Assignment.readAll options.properties
  let processor ← (Processor.create Builtin.registry configuration files 0).loadFile files file
  let processor := properties.entries.foldl
    (fun processor entry => processor.setProperty entry.1 (.text entry.2)) processor
  .ok (if options.haltOnFailure then processor.setHaltOnFailure true else processor)

/-- The run of the selected lines, or of all. -/
def start (processor : Processor) (files : FileSystem) (select : Option String) :
    Except Error Processor.Run :=
  match select with
  | none => .ok (processor.runAll files)
  | some selection => do
      let indices ← Selection.read selection processor.commands.length
      .ok (processor.runSelected files indices)

def run (useColor : Bool) (configuration : Configuration) (files : FileSystem) (file : FilePath)
    (options : RunOptions) : Reply × FileSystem :=
  let started := do
    let processor ← load configuration files file options
    start processor files options.select
  match started with
  | .error error => (.failed "" error, files)
  | .ok run =>
      match writeReport run.files options.report (Report.write run.result) with
      | .error error => (.failed "" error, run.files)
      | .ok files => (.done (Report.print useColor run.result) run.result.isFailure, files)

def check (useColor : Bool) (files : FileSystem) (file : FilePath) : Reply :=
  match Check.file Builtin.registry files file with
  | .error error => .failed "" error
  | .ok problems => .done (Report.printProblems useColor problems) (problems != [])

/-- The commands are listed, or one of them is described. -/
def list (name : Option String) : Reply :=
  match name with
  | none => .done (Listing.list Builtin.registry.definitions ++ "\n") false
  | some name =>
      match Builtin.registry.find name with
      | .error error => .failed "" error
      | .ok definition => .done (Listing.details definition ++ "\n") false

/-- The cases in a file of expectations are run. -/
def regression (configuration : Configuration) (files : FileSystem) (expected : FilePath)
    (report : Option FilePath) (yaml : Bool) : Reply × FileSystem :=
  match Regression.runFile expected Builtin.registry configuration files with
  | .error error => (.failed "" error, files)
  | .ok (outcomes, files) =>
      let text := if yaml then Regression.yaml outcomes else Regression.text outcomes
      match writeReport files report text with
      | .error error => (.failed text error, files)
      | .ok files => ({ exitCode := Regression.exitCode outcomes, output := text }, files)

def perform (useColor : Bool) (configuration : Configuration) (files : FileSystem) :
    Request → Reply × FileSystem
  | .run file options => run useColor configuration files file options
  | .check file => (check useColor files file, files)
  | .list name => (list name, files)
  | .regression expected report yaml => regression configuration files expected report yaml

/-- How the program answers a command line that asks for no action. -/
def interrupted : Interruption → Reply
  | .usage => { exitCode := 2, complaint := usage }
  | .help => .done usage false
  | .version => .done version false

/-- How the program answers a command line, and the files after it. -/
def execute (useColor : Bool) (words : List String) (files : FileSystem) : Reply × FileSystem :=
  match Invocation.read words with
  | .error interruption => (interrupted interruption, files)
  | .ok invocation =>
      match Configuration.read files invocation.configPath with
      | .error error => (.failed "" error, files)
      | .ok configuration => perform useColor configuration files invocation.request

end Program

end Workflow.Console
