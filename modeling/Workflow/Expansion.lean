import Workflow.Text.Alphanumeric
import Workflow.Text.Search

/-!
# Expansion of property references

Parameter values may refer to properties as `${Name}`, `${Name:-fallback}` or `$Name`.  A
known name is replaced by its text, an unknown one by its fallback if it has one; any other
reference stays as it is written.  Replacements are not expanded again, and two dollar signs
stand for one.
-/

namespace Workflow.Expansion

/-- A character of a name that is not enclosed in braces. -/
def isNameCharacter (c : Char) : Bool := c == '_' || Text.isAlphanumeric c

/-- The content of a braced reference as a name and a fallback.  A separator in first place
does not count, because the name before it would be empty. -/
def splitFallback (content : List Char) : List Char × Option (List Char) :=
  match Text.splitFirst [':', '-'] content with
  | some (c :: name, fallback) => (c :: name, some fallback)
  | _ => (content, none)

/-- What a braced reference expands to. -/
def braced (find : String → Option String) (content : List Char) : List Char :=
  let (name, fallback) := splitFallback content
  match find (String.ofList name), fallback with
  | some value, _ => value.toList
  | none, some fallback => fallback
  | none, none => '$' :: '{' :: (content ++ ['}'])

def bare (find : String → Option String) (name : List Char) : List Char :=
  match find (String.ofList name) with
  | some value => value.toList
  | none => '$' :: name

/-- The text with its references replaced. -/
def expandList (find : String → Option String) : List Char → List Char
  | [] => []
  | '$' :: '$' :: text => '$' :: expandList find text
  | '$' :: '{' :: text =>
      match found : Text.splitOnce (· == '}') text with
      | some (content, rest) =>
          have := Text.length_splitOnce found
          braced find content ++ expandList find rest
      | none => '$' :: '{' :: expandList find text
  | '$' :: c :: text =>
      if isNameCharacter c then
        have := (List.dropWhile_sublist (l := text) isNameCharacter).length_le
        bare find (c :: text.takeWhile isNameCharacter) ++
          expandList find (text.dropWhile isNameCharacter)
      else '$' :: expandList find (c :: text)
  | c :: text => c :: expandList find text
  termination_by text => text.length
  decreasing_by all_goals simp_wf; try omega

/-- A text with its property references replaced. -/
def expand (find : String → Option String) (text : String) : String :=
  String.ofList (expandList find text.toList)

end Workflow.Expansion
