import Workflow.Yaml.Style

/-!
# Writing YAML

Records and lists are written in block style.  The list of a field starts in the column of the
field; a list or a record within a list starts on the line of its hyphen.
-/

namespace Workflow.Yaml

/-- A value to be written. -/
inductive Content where
  | text (value : String)
  | number (value : Nat)
  | list (items : List Content)
  | record (fields : List (String × Content))
  deriving Repr, Inhabited

namespace Content

/-- The blanks before a column. -/
def margin (column : Nat) : List Char := List.replicate column ' '

mutual

/-- A value after a hyphen, with its further lines in a column. -/
def afterHyphen (column : Nat) : Content → List Char
  | .text value => Style.write column value
  | .number value => (toString value).toList ++ ['\n']
  | .list [] => ['[', ']', '\n']
  | .list (item :: rest) => '-' :: ' ' :: afterHyphen (column + 2) item ++ items column rest
  | .record [] => ['\x7b', '\x7d', '\n']
  | .record ((name, value) :: rest) =>
      name.toList ++ ':' :: afterColon column value ++ fields column rest

/-- The value of a field that starts in a column. -/
def afterColon (column : Nat) : Content → List Char
  | .text value => ' ' :: Style.write (column + 2) value
  | .number value => ' ' :: (toString value).toList ++ ['\n']
  | .list [] => [' ', '[', ']', '\n']
  | .list (item :: rest) => '\n' :: items column (item :: rest)
  | .record [] => [' ', '\x7b', '\x7d', '\n']
  | .record (field :: rest) => '\n' :: fields (column + 2) (field :: rest)

/-- Items on lines of their own, with their hyphens in a column. -/
def items (column : Nat) : List Content → List Char
  | [] => []
  | item :: rest =>
      margin column ++ '-' :: ' ' :: afterHyphen (column + 2) item ++ items column rest

def fields (column : Nat) : List (String × Content) → List Char
  | [] => []
  | (name, value) :: rest =>
      margin column ++ name.toList ++ ':' :: afterColon column value ++ fields column rest

end

/-- The document of a value. -/
def print (content : Content) : String := String.ofList (afterHyphen 0 content)

end Content

end Workflow.Yaml
