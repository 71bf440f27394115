import Workflow.Json
import Workflow.Decimal.Layout
import Workflow.Text.Hexadecimal

/-!
# Writing JSON

Two forms of one value: the compact form without any blanks, and the indented form with one
item or member a line, two blanks for each level, and `[]` and empty braces on one line.
Texts escape the quote, the backslash and the control characters below the blank; everything
else stands for itself.
-/

namespace Workflow.Json

/-- The form of a character inside a quoted text. -/
def escape (c : Char) : List Char :=
  if c == '"' then ['\\', '"']
  else if c == '\\' then ['\\', '\\']
  else if c == '\n' then ['\\', 'n']
  else if c == '\r' then ['\\', 'r']
  else if c == '\t' then ['\\', 't']
  else if c == '\x08' then ['\\', 'b']
  else if c == '\x0c' then ['\\', 'f']
  else if c.toNat < 0x20 then '\\' :: 'u' :: Text.hexDigits 4 c.toNat
  else [c]

def quote (content : String) : List Char := '"' :: (content.toList.flatMap escape ++ ['"'])

def newLine (level : Nat) : List Char := '\n' :: List.replicate (2 * level) ' '

/-- A value that holds no other values. -/
def scalar : Json → List Char
  | .null => "null".toList
  | .boolean truth => (if truth then "true" else "false").toList
  | .integer number => Decimal.signedNumeral number
  | .float number => (Decimal.Layout.json.render number).toList
  | .text content => quote content
  | .array _ | .object _ => []

mutual

def compactList : Json → List Char
  | .array items => '[' :: (compactItems items ++ [']'])
  | .object members => '\x7b' :: (compactMembers members ++ ['\x7d'])
  | value => scalar value

/-- The compact forms of the items of an array with commas between them. -/
def compactItems : List Json → List Char
  | [] => []
  | [item] => compactList item
  | item :: rest => compactList item ++ ',' :: compactItems rest

/-- The compact forms of the members of an object with commas between them. -/
def compactMembers : List (String × Json) → List Char
  | [] => []
  | [(key, value)] => quote key ++ ':' :: compactList value
  | (key, value) :: rest => quote key ++ ':' :: (compactList value ++ ',' :: compactMembers rest)

end

mutual

/-- The indented form of a value that stands at the given level. -/
def prettyList (level : Nat) : Json → List Char
  | .array [] => ['[', ']']
  | .array (item :: rest) =>
      '[' :: (prettyItems (level + 1) (item :: rest) ++ newLine level ++ [']'])
  | .object [] => ['\x7b', '\x7d']
  | .object (member :: rest) =>
      '\x7b' :: (prettyMembers (level + 1) (member :: rest) ++ newLine level ++ ['\x7d'])
  | value => scalar value

/-- The indented forms of the items of an array, each on its own line. -/
def prettyItems (level : Nat) : List Json → List Char
  | [] => []
  | [item] => newLine level ++ prettyList level item
  | item :: rest => newLine level ++ prettyList level item ++ ',' :: prettyItems level rest

/-- The indented forms of the members of an object, each on its own line. -/
def prettyMembers (level : Nat) : List (String × Json) → List Char
  | [] => []
  | [(key, value)] => newLine level ++ quote key ++ ':' :: ' ' :: prettyList level value
  | (key, value) :: rest =>
      newLine level ++ quote key ++ ':' :: ' ' :: (prettyList level value ++
        ',' :: prettyMembers level rest)

end

def compact (value : Json) : String := String.ofList (compactList value)

/-- The indented form of a value. -/
def pretty (value : Json) : String := String.ofList (prettyList 0 value)

end Workflow.Json
