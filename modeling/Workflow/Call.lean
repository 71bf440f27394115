import Workflow.OrderedMap
import Workflow.Text.Blank
import Workflow.Text.Search

/-!
# Command calls

A call is a command name with parameters in parentheses, each a key and a value.  A value in
quotes may hold anything but a quote; a value without quotes is trimmed and ends at the next
comma or closing parenthesis.  `Call.read` reads a trimmed line and `Call.render` writes a call
with every value in quotes.
-/

namespace Workflow

/-- A command name with its parameters in the order in which they are written. -/
structure Call where
  name : String
  parameters : OrderedMap String

/-- Why a line is no call. -/
inductive CallFault where
  | invalidName (name : String)
  | missingOpen
  | missingClose
  | trailing (text : String)
  | missingEquals (key : String)
  | emptyKey
  | unterminatedQuote (key : String)
  | separatorExpected (key : String)
  | strayQuote (key : String)
  | duplicateKey (key : String)
  deriving DecidableEq, Repr

/-- The wording of the reason. -/
def CallFault.message : CallFault → String
  | .invalidName name => s!"invalid command name `{name}`"
  | .missingOpen => "expected `(` after command name"
  | .missingClose => "missing closing `)`"
  | .trailing text => s!"unexpected text after `)`: `{text}`"
  | .missingEquals key => s!"parameter `{key}` has no `=`"
  | .emptyKey => "empty parameter name"
  | .unterminatedQuote key => s!"unterminated quoted value for `{key}`"
  | .separatorExpected key => s!"expected `,` or `)` after value of `{key}`"
  | .strayQuote key => s!"unquoted value of `{key}` contains `\"`"
  | .duplicateKey key => s!"parameter `{key}` is given more than once"

namespace Call

/-- A character of a command name. -/
def isNameCharacter (c : Char) : Bool := Text.isAsciiAlphanumeric c || c == '_'

/-- Whether a text may be a command name. -/
def isName (text : List Char) : Bool := text != [] && text.all isNameCharacter

/-- The text without the ASCII blanks at its front. -/
def skipBlanks (text : List Char) : List Char := text.dropWhile Text.isAsciiBlank

/-- A character that cannot be part of a key. -/
def endsKey (c : Char) : Bool := c == '=' || c == ',' || c == ')'

/-- A character that cannot be part of a value without quotes. -/
def endsValue (c : Char) : Bool := c == ',' || c == ')'

/-- The value of a key and the text after it. -/
def readValue (key : String) (text : List Char) : Except CallFault (String × List Char) :=
  match text with
  | '"' :: rest =>
      match Text.splitOnce (· == '"') rest with
      | none => .error (.unterminatedQuote key)
      | some (value, rest) => .ok (String.ofList value, skipBlanks rest)
  | _ =>
      let value := Text.trim (text.takeWhile fun c => !endsValue c)
      if value.contains '"' then .error (.strayQuote key)
      else .ok (String.ofList value, text.dropWhile fun c => !endsValue c)

/-- A key with its value and the text after them. -/
def readParameter (text : List Char) : Except CallFault ((String × String) × List Char) :=
  let key := Text.trim (text.takeWhile fun c => !endsKey c)
  match text.dropWhile fun c => !endsKey c with
  | [] => .error .missingClose
  | '=' :: rest =>
      if key = [] then .error .emptyKey
      else
        match readValue (String.ofList key) (skipBlanks rest) with
        | .error fault => .error fault
        | .ok (value, rest) => .ok ((String.ofList key, value), rest)
  | _ => if key = [] then .error .emptyKey else .error (.missingEquals (String.ofList key))

theorem length_skipBlanks (text : List Char) : (skipBlanks text).length ≤ text.length :=
  (List.dropWhile_sublist _).length_le

theorem length_readValue {key value : String} {text rest : List Char}
    (read : readValue key text = .ok (value, rest)) : rest.length ≤ text.length := by
  unfold readValue at read
  split at read
  · split at read
    · cases read
    · next found =>
      cases read
      have shorter := Text.length_splitOnce found
      have skipped := length_skipBlanks ‹List Char›
      rw [List.length_cons]
      grind
  · dsimp only at read
    split at read
    · cases read
    · cases read
      exact (List.dropWhile_sublist _).length_le

theorem length_readParameter {found : String × String} {text rest : List Char}
    (read : readParameter text = .ok (found, rest)) : rest.length < text.length := by
  unfold readParameter at read
  have dropped := (List.dropWhile_sublist (l := text) fun c => !endsKey c).length_le
  split at read
  · cases read
  · next after split =>
    rw [split, List.length_cons] at dropped
    dsimp only at read
    split at read
    · cases read
    · split at read
      · cases read
      · next value =>
        cases read
        have shorter := length_readValue value
        have skipped := length_skipBlanks after
        omega
  · dsimp only at read
    split at read <;> cases read

/-- The start of the next parameter, if a comma says that there is one. -/
def afterComma? : (text : List Char) → Option (List Char)
  | ',' :: rest => some (skipBlanks rest)
  | _ => none

theorem length_afterComma? {text rest : List Char} (found : afterComma? text = some rest) :
    rest.length < text.length := by
  unfold afterComma? at found
  split at found
  · cases found
    have skipped := length_skipBlanks ‹List Char›
    rw [List.length_cons]
    omega
  · cases found

/-- The parameters of a list that ends behind the value of a key, and the text after them. -/
def endOfList (known : OrderedMap String) (key : String) :
    (text : List Char) → Except CallFault (OrderedMap String × List Char)
  | ')' :: rest => .ok (known, rest)
  | [] => .error .missingClose
  | _ => .error (.separatorExpected key)

/-- The parameters up to the closing parenthesis, after those already read, and the text after
them. -/
def readParameters (known : OrderedMap String) (text : List Char) :
    Except CallFault (OrderedMap String × List Char) :=
  match read : readParameter text with
  | .error fault => .error fault
  | .ok ((key, value), rest) =>
      if known.contains key then .error (.duplicateKey key)
      else
        match next : afterComma? rest with
        | some start =>
            have := length_readParameter read
            have := length_afterComma? next
            readParameters (known.insert key value) start
        | none => endOfList (known.insert key value) key rest
  termination_by text.length

/-- The parameters after the opening parenthesis, and the text after the closing one. -/
def readParameterList (text : List Char) : Except CallFault (OrderedMap String × List Char) :=
  match skipBlanks text with
  | ')' :: rest => .ok (.empty, rest)
  | start => readParameters .empty start

/-- The complaint about a line without an opening parenthesis. -/
def withoutOpen (text : List Char) : CallFault :=
  let name := text.takeWhile fun c => !Text.isBlank c
  if isName name then .missingOpen else .invalidName (String.ofList name)

/-- The call that a trimmed line holds. -/
def read (line : List Char) : Except CallFault Call :=
  match Text.splitOnce (· == '(') line with
  | none => .error (withoutOpen line)
  | some (before, rest) =>
      let name := Text.trim before
      if isName name then
        match readParameterList rest with
        | .error fault => .error fault
        | .ok (parameters, rest) =>
            match Text.trim rest with
            | [] => .ok ⟨String.ofList name, parameters⟩
            | trailing => .error (.trailing (String.ofList trailing))
      else .error (.invalidName (String.ofList name))

/-- A parameter with its value in quotes. -/
def renderParameter (parameter : String × String) : String :=
  parameter.1 ++ "=\"" ++ parameter.2 ++ "\""

/-- The call as a line of text. -/
def render (call : Call) : String :=
  call.name ++ "(" ++ ",".intercalate (call.parameters.entries.map renderParameter) ++ ")"

end Call

end Workflow
