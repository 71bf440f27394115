import Workflow.Main
import Workflow.Proofs.CommandFile.RenderedLines
import Workflow.Proofs.Editing
import Workflow.Proofs.Run.Aborts
import Workflow.Proofs.Run.Bracketing
import Workflow.Proofs.Run.Cancellation
import Workflow.Proofs.Run.Capping
import Workflow.Proofs.Run.Checking
import Workflow.Proofs.Run.Halting
import Workflow.Proofs.Run.MissingTerminators
import Workflow.Proofs.Run.Nesting
import Workflow.Proofs.Run.Selection
import Workflow.Proofs.Run.Skipping
import Workflow.Proofs.Run.Termination
import Workflow.Proofs.Run.Verdicts
import Workflow.Proofs.WorkingFolder
import Workflow.Script
import Workflow.Proofs.CommandFile.Stability
import Workflow.Proofs.Run.Repetition
import Workflow.Proofs.Delimited.RoundTrip
import Workflow.Proofs.FileSystem
import Workflow.Proofs.Tables
import Workflow.Proofs.Builtin.Collections
import Workflow.Proofs.Run.Collections
import Workflow.Proofs.CommandFile.BlockComments
import Workflow.Proofs.GeoLayers
import Workflow.Proofs.Operations
import Workflow.Proofs.Validation.Specification
import Workflow.Proofs.Tables.HeaderLines
import Workflow.Proofs.Tables.Columns
import Workflow.Proofs.Builtin.Policies
import Workflow.Proofs.Builtin.Delimiters
import Workflow.Proofs.Builtin.Freeing
import Workflow.Proofs.Builtin.Properties
import Workflow.Proofs.Conditions
import Workflow.Proofs.Run.References
import Workflow.Proofs.Console.Selection
import Workflow.Proofs.CommandFile.Spacing
import Workflow.Proofs.Run.Guarantees
import Workflow.Proofs.Regressions
import Workflow.Proofs.CommandFile.Locality
