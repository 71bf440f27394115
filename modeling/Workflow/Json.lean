/-!
# JSON values

The members of an object are sorted by their keys, and each key occurs once: writing a member
puts it in its place or replaces the one with its key.  Numbers that fit 64 bits and have
neither fraction nor exponent are integers, all others are floats.
-/

namespace Workflow

/-- A JSON value. -/
inductive Json where
  | null
  | boolean (truth : Bool)
  | integer (number : Int)
  | float (number : Float)
  | text (content : String)
  | array (items : List Json)
  | object (members : List (String × Json))
  deriving Repr, Inhabited

namespace Json

/-- Members sorted by key, after writing one more. -/
def write (key : String) (value : Json) : List (String × Json) → List (String × Json)
  | [] => [(key, value)]
  | member :: rest =>
      if key = member.1 then (key, value) :: rest
      else if key < member.1 then (key, value) :: member :: rest
      else member :: write key value rest

/-- The object with the given members; of members with one key the last counts. -/
def ofMembers (members : List (String × Json)) : Json :=
  .object (members.foldl (fun sorted member => write member.1 member.2 sorted) [])

def member? (key : String) : Json → Option Json
  | .object members => (members.find? fun member => member.1 == key).map Prod.snd
  | _ => none

def text? : Json → Option String
  | .text content => some content
  | _ => none

def items? : Json → Option (List Json)
  | .array items => some items
  | _ => none

end Json

end Workflow
