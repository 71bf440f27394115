import Workflow.Decimal.Layout
import Workflow.Decimal.Reader
import Workflow.FilePath
import Workflow.Text.Blank

/-!
# Values

Properties and validated parameters hold typed values.  A value has one text form, which is
what a property reference expands to, and can be viewed as another type where that makes
sense: numbers and booleans may also be given as text.
-/

namespace Workflow

/-- A typed value. -/
inductive Value where
  | text (content : String)
  | integer (number : Int)
  | float (number : Float)
  | boolean (truth : Bool)
  | path (location : FilePath)
  | list (items : List Value)
  deriving Repr, Inhabited

/-- The truth value that a text names, in any case and with blanks around it. -/
def readBoolean (text : String) : Option Bool :=
  match String.ofList ((Text.trim text.toList).map Text.lowerAscii) with
  | "true" => some true
  | "false" => some false
  | _ => none

mutual

def Value.display : Value → String
  | .text content => content
  | .integer number => String.ofList (Decimal.signedNumeral number)
  | .float number => Decimal.Layout.plain.render number
  | .boolean truth => if truth then "True" else "False"
  | .path location => location.text
  | .list items => "[" ++ Value.displayAll items ++ "]"

/-- The texts of several values with commas between them. -/
def Value.displayAll : List Value → String
  | [] => ""
  | [value] => value.display
  | value :: rest => value.display ++ "," ++ Value.displayAll rest

end

namespace Value

def text? : Value → Option String
  | .text content => some content
  | _ => none

/-- An integer, or the one that a text spells. -/
def integer? : Value → Option Int
  | .integer number => some number
  | .text content => Decimal.readSigned (Text.trim content.toList)
  | _ => none

/-- A number, or the one that a text spells. -/
def float? : Value → Option Float
  | .float number => some number
  | .integer number => some (Float.ofInt number)
  | .text content => Decimal.readFloat (Text.trim content.toList)
  | _ => none

/-- A truth value, or the one that a text names. -/
def boolean? : Value → Option Bool
  | .boolean truth => some truth
  | .text content => readBoolean content
  | _ => none

def path? : Value → Option FilePath
  | .path location => some location
  | _ => none

end Value

end Workflow
