import Workflow.Call
import Workflow.Proofs.Text.Trimming

/-!
# The written forms of a call

A call can be written in many ways: with blanks between its tokens, and with every value in
quotes or without.  A written form keeps all of these choices, so that its text can be put
together without reading it.  Two valid forms with the same text are equal, and each form stands
for one list of parameters.
-/

namespace Workflow.Call

open Text

/-- How a value is written: in quotes with blanks around them, or bare. -/
inductive WrittenValue where
  | quoted (before content after : List Char)
  | bare (written : List Char)

namespace WrittenValue

/-- The characters between the equals sign of a parameter and its end. -/
def text : WrittenValue → List Char
  | .quoted before content after => before ++ '"' :: (content ++ '"' :: after)
  | .bare written => written

/-- The value that is meant. -/
def content : WrittenValue → List Char
  | .quoted _ content _ => content
  | .bare written => trim written

/-- Only ASCII blanks stand around quotes.  A bare value holds neither a separator nor, apart
from the blanks around it, a quote. -/
def IsValid : WrittenValue → Prop
  | .quoted before content after =>
      AllAsciiBlank before ∧ '"' ∉ content ∧ AllAsciiBlank after
  | .bare written =>
      ',' ∉ written ∧ ')' ∉ written ∧ (Call.skipBlanks written).head? ≠ some '"' ∧
        '"' ∉ trim written

end WrittenValue

/-- How a parameter is written. -/
@[ext] structure WrittenParameter where
  key : List Char
  value : WrittenValue

namespace WrittenParameter

/-- The key, an equals sign and the value. -/
def text (written : WrittenParameter) : List Char := written.key ++ '=' :: written.value.text

/-- The key and the value that are meant. -/
def meaning (written : WrittenParameter) : String × String :=
  (String.ofList (trim written.key), String.ofList written.value.content)

/-- A key holds none of the marks of a parameter list and is not blank. -/
def IsValid (written : WrittenParameter) : Prop :=
  '=' ∉ written.key ∧ ',' ∉ written.key ∧ ')' ∉ written.key ∧ trim written.key ≠ [] ∧
    written.value.IsValid

/-- Parameters with commas between them. -/
def joined : WrittenParameter → List WrittenParameter → List Char
  | first, [] => first.text
  | first, second :: others => first.text ++ ',' :: joined second others

end WrittenParameter

/-- How a parameter list is written: blank, or as one or more parameters. -/
inductive WrittenList where
  | blank (blanks : List Char)
  | filled (first : WrittenParameter) (others : List WrittenParameter)

namespace WrittenList

/-- The characters between the parentheses. -/
def text : WrittenList → List Char
  | .blank blanks => blanks
  | .filled first others => WrittenParameter.joined first others

/-- The parameters that are meant, in order. -/
def meaning : WrittenList → List (String × String)
  | .blank _ => []
  | .filled first others => (first :: others).map WrittenParameter.meaning

/-- Every parameter is valid and no key is repeated. -/
def IsValid : WrittenList → Prop
  | .blank blanks => AllAsciiBlank blanks
  | .filled first others =>
      (∀ written ∈ first :: others, written.IsValid) ∧
        (((first :: others).map WrittenParameter.meaning).map Prod.fst).Nodup

end WrittenList

/-- How a call is written. -/
@[ext] structure WrittenCall where
  name : List Char
  gap : List Char
  list : WrittenList

namespace WrittenCall

/-- The name, a gap and the parameter list in parentheses. -/
def text (written : WrittenCall) : List Char :=
  written.name ++ (written.gap ++ '(' :: (written.list.text ++ [')']))

/-- The gap is blank and the name and the parameter list are valid. -/
def IsValid (written : WrittenCall) : Prop :=
  Call.isName written.name = true ∧ AllBlank written.gap ∧ written.list.IsValid

end WrittenCall

end Workflow.Call
