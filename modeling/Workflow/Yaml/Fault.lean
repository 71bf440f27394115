import Workflow.Decimal.Layout
import Workflow.Text.Escaped
import Workflow.Yaml.Resolution
import Workflow.Yaml.SyntaxError

/-!
# Faults of YAML texts

Reading a text ends with a fault if its characters or its form are wrong, if an alias stands for
nothing, or if a node does not fit what it is read as.  A node that does not fit is told by its
path from the outermost node and by its place.  The wording is in this module alone.
-/

namespace Workflow.Yaml

/-- The way from the outermost node of a document to a node. -/
inductive NodePath where
  | root
  | item (list : NodePath) (index : Nat)
  /-- The value of a key, which has a name if it is written as a scalar. -/
  | field (record : NodePath) (name : Option String)
  deriving DecidableEq, Repr

def NodePath.text : NodePath → String
  | .root => "."
  | .item list index => s!"{list.text}[{index}]"
  | .field .root name => name.getD "?"
  | .field record name => s!"{record.text}." ++ name.getD "?"

/-- What a node is. -/
inductive NodeKind where
  | plain (value : PlainValue) (text : String)
  | text (value : String)
  | sequence
  | mapping
  deriving DecidableEq, Repr

/-- Floats in messages have a point. -/
def floatLayout : Decimal.Layout := { Decimal.Layout.plain with pointZero := true }

/-- How an integer is called; those of more than 64 bits are told by their size. -/
def integerName (value : Int) : String :=
  let size :=
    if Nat.pow 2 64 ≤ value then " as u128" else if value < -(Nat.pow 2 63) then " as i128" else ""
  s!"integer `{String.ofList (Decimal.signedNumeral value)}`{size}"

def NodeKind.name : NodeKind → String
  | .plain .nothing _ => "unit value"
  | .plain (.truth value) _ => s!"boolean `{value}`"
  | .plain (.integer value) _ => integerName value
  | .plain (.float value) _ => s!"floating point `{floatLayout.render value}`"
  | .plain .text value | .text value => s!"string {Text.escaped value}"
  | .sequence => "sequence"
  | .mapping => "map"

/-- What a node is read as. -/
inductive Form where
  | truth
  | natural
  | text
  | path
  | list
  | mapping
  | fieldName
  | record (name : String)
  deriving DecidableEq, Repr

def Form.name : Form → String
  | .truth => "a boolean"
  | .natural => "usize"
  | .text => "a string"
  | .path => "path string"
  | .list => "a sequence"
  | .mapping => "a map"
  | .fieldName => "field identifier"
  | .record name => s!"struct {name}"

/-- The types that a tag can give to a scalar. -/
inductive ScalarType where
  | truth
  | integer
  | float
  | null
  deriving DecidableEq, Repr

def ScalarType.name : ScalarType → String
  | .truth => "a boolean"
  | .integer => "an integer"
  | .float => "a float"
  | .null => "null"

/-- How a node does not fit what it is read as. -/
inductive Misfit where
  | kind (found : NodeKind) (form : Form)
  /-- A text that denotes no value of the type of its tag. -/
  | tagged (text : String) (type : ScalarType)
  | missingField (name : String)
  | duplicateField (name : String)
  /-- A text that names nothing, with the complaint about it. -/
  | refused (complaint : String)
  deriving DecidableEq, Repr

def Misfit.message : Misfit → String
  | .kind found form => s!"invalid type: {found.name}, expected {form.name}"
  | .tagged text type => s!"invalid value: string {Text.escaped text}, expected {type.name}"
  | .missingField name => s!"missing field `{name}`"
  | .duplicateField name => s!"duplicate field `{name}`"
  | .refused complaint => complaint

/-- Why a text could not be read. -/
inductive Fault where
  /-- The file does not give a text. -/
  | unreadable (reason : String)
  /-- A character that may not stand in a text, behind as many bytes. -/
  | forbiddenCharacter (offset : Nat)
  | form (error : SyntaxError)
  | unknownAnchor (mark : Mark)
  | tooManyAliases
  | secondDocument
  /-- A node that does not fit, and where it stands if that is known. -/
  | misfit (cause : Misfit) (place : Option (NodePath × Mark))
  deriving DecidableEq, Repr

namespace Fault

/-- A misfit without a place gets one. -/
def placedAt (path : NodePath) (mark : Mark) : Fault → Fault
  | .misfit cause none => .misfit cause (some (path, mark))
  | fault => fault

def message : Fault → String
  | .unreadable reason => reason
  | .forbiddenCharacter offset =>
      "control characters are not allowed" ++ if offset = 0 then "" else s!" at position {offset}"
  | .form error => error.message
  | .unknownAnchor mark => "unknown anchor" ++ mark.suffix
  | .tooManyAliases => "repetition limit exceeded"
  | .secondDocument =>
      "deserializing from YAML containing more than one document is not supported"
  | .misfit cause none => cause.message
  | .misfit cause (some (path, mark)) =>
      (if path = .root then "" else s!"{path.text}: ") ++ cause.message ++ mark.suffix

end Fault

end Workflow.Yaml
