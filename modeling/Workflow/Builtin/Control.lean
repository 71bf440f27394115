import Workflow.Registry
import Workflow.Text.Items

/-!
# Commands that control a run

The commands that open and close blocks do nothing themselves: the engine follows the block
structure.  What they contribute is their definitions, the check of their parameters, and the
two questions that the engine asks: which values a loop takes, and whether a condition holds.
-/

namespace Workflow.Builtin

/-- The behavior of a command that only the engine acts on. -/
def structural (check : ParameterSet → List Problem) : Behavior :=
  .action check fun _ _ scene => .done scene

def unchecked : ParameterSet → List Problem := fun _ => []

def blockName : Parameter where
  name := "Name"
  type := .identifier
  required := true
  description := some "Block name, matched by the closing command"

namespace Loop

/-- The definition of the command that opens a loop. -/
def definition : Definition where
  name := "For"
  description :=
    "Repeat the following commands for each value of a sequence, list property or table column"
  role := some .openLoop
  parameters :=
    [blockName,
     { name := "IteratorProperty", type := .identifier,
       description := some "Property set to the current value (default: Name)" },
     { name := "SequenceStart", type := .float },
     { name := "SequenceEnd", type := .float },
     { name := "SequenceIncrement", type := .float,
       description := some "Step between values (default: 1)" },
     { name := "ListProperty",
       description := some "Property holding a list or comma-separated values" },
     { name := "TableID", type := .identifier },
     { name := "TableColumn" }]

/-- Whether either or both of two parameters are given. -/
def anyOf (parameters : ParameterSet) (first second : String) : Bool :=
  parameters.contains first || parameters.contains second

def bothOf (parameters : ParameterSet) (first second : String) : Bool :=
  parameters.contains first && parameters.contains second

def asksSequence (parameters : ParameterSet) : Bool :=
  anyOf parameters "SequenceStart" "SequenceEnd"

def asksList (parameters : ParameterSet) : Bool := parameters.contains "ListProperty"

def asksTable (parameters : ParameterSet) : Bool := anyOf parameters "TableID" "TableColumn"

/-- The problem with the number of sources that the values come from. -/
def sourceProblems (parameters : ParameterSet) : List Problem :=
  match [asksSequence parameters, asksList parameters, asksTable parameters].count true with
  | 0 =>
      [⟨none, "No values to iterate over",
        "Specify SequenceStart and SequenceEnd, ListProperty, or TableID and TableColumn"⟩]
  | 1 => []
  | _ =>
      [⟨none, "More than one iteration source is specified",
        "Use only one of a sequence, ListProperty, or TableID and TableColumn"⟩]

/-- The problem with a sequence that lacks an end. -/
def sequenceProblems (parameters : ParameterSet) : List Problem :=
  if asksSequence parameters && !bothOf parameters "SequenceStart" "SequenceEnd" then
    [⟨none, "A sequence needs both SequenceStart and SequenceEnd",
      "Specify SequenceStart and SequenceEnd"⟩]
  else []

/-- The problem with a table column that is only half named. -/
def tableProblems (parameters : ParameterSet) : List Problem :=
  if asksTable parameters && !bothOf parameters "TableID" "TableColumn" then
    [⟨none, "A table loop needs both TableID and TableColumn", "Specify TableID and TableColumn"⟩]
  else []

/-- The problem with a sequence that does not move. -/
def incrementProblems (parameters : ParameterSet) : List Problem :=
  match parameters.float? "SequenceIncrement" with
  | some increment =>
      if increment == 0.0 then
        [⟨some "SequenceIncrement", "SequenceIncrement may not be zero",
          "Specify a positive or negative increment"⟩]
      else []
  | none => []

def problems (parameters : ParameterSet) : List Problem :=
  sourceProblems parameters ++ sequenceProblems parameters ++ tableProblems parameters ++
    incrementProblems parameters

/-- Whether a value lies behind the end of a sequence with the given increment. -/
def isPast (increment last value : Float) : Bool :=
  if 0.0 < increment then last < value else value < last

/-- A value of a sequence: an integer if start and increment are integral. -/
def sequenceValue (integral : Bool) (value : Float) : Value :=
  if integral then .integer (Decimal.toSigned value) else .float value

/-- The values of a sequence from the given step on, at most `count` of them, after those
already found. -/
def sequenceFrom (start last increment : Float) (integral : Bool) :
    (count step : Nat) → (found : Array Value) → Array Value
  | 0, _, found => found
  | count + 1, step, found =>
      let value := start + increment * Float.ofNat step
      if isPast increment last value then found
      else
        sequenceFrom start last increment integral count (step + 1)
          (found.push (sequenceValue integral value))

/-- The values of a sequence, at most one more than a run may iterate. -/
def sequence (start last increment : Float) (limit : Nat) : Array Value :=
  let integral := Decimal.isIntegral start && Decimal.isIntegral increment
  sequenceFrom start last increment integral (limit + 1) 0 #[]

/-- The values of a property that is a list or a text with commas. -/
def propertyValues (workspace : Workspace) (name : String) : Except Error (Array Value) :=
  match workspace.property? name with
  | none => .error (.propertyNotFound name)
  | some (.list values) => .ok values.toArray
  | some (.text text) => .ok ((Text.items text).map .text).toArray
  | some _ => .error (.propertyNotList name)

def columnValues (workspace : Workspace) (parameters : ParameterSet) :
    Except Error (Array Value) := do
  let id ← ParameterSet.text parameters "TableID"
  let column ← ParameterSet.text parameters "TableColumn"
  let table ← workspace.table id
  let cells ← table.cells column
  .ok (cells.map .text).toArray

/-- The values that a loop with validated parameters takes. -/
def values (parameters : ParameterSet) (workspace : Workspace) (limit : Nat) :
    Except Error (Array Value) :=
  match ParameterSet.float? parameters "SequenceStart",
      ParameterSet.float? parameters "SequenceEnd" with
  | some start, some last =>
      let increment := (ParameterSet.float? parameters "SequenceIncrement").getD 1.0
      .ok (sequence start last increment limit)
  | _, _ =>
      match ParameterSet.text? parameters "ListProperty" with
      | some name => propertyValues workspace name
      | none => columnValues workspace parameters

/-- The property that a loop with validated parameters sets to its current value. -/
def iterator (parameters : ParameterSet) (name : String) : String :=
  (ParameterSet.text? parameters "IteratorProperty").getD name

end Loop

namespace Conditional

/-- The definition of the command that opens a conditional block. -/
def definition : Definition where
  name := "If"
  description := "Run the following commands only when every given condition holds"
  role := some .openCondition
  parameters :=
    [blockName,
     { name := "Condition", description := some "`true`, `false` or `left OP right`" },
     { name := "CompareAsStrings", type := .boolean, fallback := some "False" },
     { name := "GeoLayerExists", type := .identifier },
     { name := "PropertyIsDefined" }]

/-- The problem with a block that has no condition. -/
def problems (parameters : ParameterSet) : List Problem :=
  if ["Condition", "GeoLayerExists", "PropertyIsDefined"].any parameters.contains then []
  else
    [⟨none, "No condition is specified",
      "Specify Condition, GeoLayerExists or PropertyIsDefined"⟩]

/-- Whether the written condition holds, if there is one. -/
def writtenHolds (parameters : ParameterSet) : Except Error Bool :=
  match ParameterSet.text? parameters "Condition" with
  | none => .ok true
  | some condition =>
      let asText := (ParameterSet.boolean? parameters "CompareAsStrings").getD false
      (Condition.evaluate condition asText).mapError fun error => .obstacle (.condition error)

/-- Whether the geolayer that has to be there is there. -/
def layerExists (parameters : ParameterSet) (workspace : Workspace) : Bool :=
  match ParameterSet.text? parameters "GeoLayerExists" with
  | none => true
  | some id => workspace.layers.contains id

def propertyIsDefined (parameters : ParameterSet) (workspace : Workspace) : Bool :=
  match ParameterSet.text? parameters "PropertyIsDefined" with
  | none => true
  | some name => workspace.properties.contains name

/-- Whether every condition of a block with validated parameters holds. -/
def holds (parameters : ParameterSet) (workspace : Workspace) : Except Error Bool :=
  (writtenHolds parameters).map fun written =>
    written && layerExists parameters workspace && propertyIsDefined parameters workspace

end Conditional

def closer (name description : String) (role : BlockRole) : Definition where
  name := name
  description := description
  role := some role
  parameters := [blockName]

/-- The command that ends the run. -/
def exit : Registration where
  definition :=
    { name := "Exit", description := "Stop the run; later commands are not run" }
  behavior := .action unchecked fun _ _ scene => .done { scene with exitRequested := true }

/-- The command that decides whether a failure ends the run. -/
def setErrorPolicy : Registration where
  definition :=
    { name := "SetErrorPolicy",
      description := "Choose whether a failure stops the run",
      parameters :=
        [{ name := "OnFailure", required := true, allowed := ["Continue", "Halt"],
           description := some "Continue or Halt after a failing command" }] }
  behavior := .action unchecked fun _ parameters scene =>
    .attempt scene (ParameterSet.text parameters "OnFailure") fun policy =>
      .done { scene with haltOnFailure := policy == "Halt" }

/-- The commands that control a run. -/
def control : List Registration :=
  [⟨Loop.definition, structural Loop.problems⟩,
   ⟨closer "EndFor" "End of a For loop" .closeLoop, structural unchecked⟩,
   ⟨Conditional.definition, structural Conditional.problems⟩,
   ⟨closer "EndIf" "End of an If block" .closeCondition, structural unchecked⟩,
   exit, setErrorPolicy]

end Workflow.Builtin
