import Workflow.Json
import Workflow.Decimal.Reader
import Workflow.Text.Hexadecimal

/-!
# Reading JSON

The reader takes a text from left to right and stops at the first fault, which it reports with
the line and the column where reading stopped; columns count bytes.  At most 127 arrays and
objects may be open at once.

Numbers keep the first digits that fit 64 bits.  A float is made from these digits by one
multiplication or division with a power of ten.
-/

namespace Workflow.Json

/-- Why a text is no JSON value. -/
inductive Cause where
  | endInArray
  | endInObject
  | endInText
  | endInValue
  | colonExpected
  | arrayEndExpected
  | objectEndExpected
  | wordExpected
  | valueExpected
  | invalidEscape
  | invalidNumber
  | numberOutOfRange
  | controlCharacter
  | keyExpected
  | loneSurrogate
  | trailingComma
  | trailingCharacters
  | incompleteEscape
  | tooDeep
  deriving DecidableEq, Repr

/-- The wording of the reason. -/
def Cause.message : Cause → String
  | .endInArray => "EOF while parsing a list"
  | .endInObject => "EOF while parsing an object"
  | .endInText => "EOF while parsing a string"
  | .endInValue => "EOF while parsing a value"
  | .colonExpected => "expected `:`"
  | .arrayEndExpected => "expected `,` or `]`"
  | .objectEndExpected => "expected `,` or `\x7d`"
  | .wordExpected => "expected ident"
  | .valueExpected => "expected value"
  | .invalidEscape => "invalid escape"
  | .invalidNumber => "invalid number"
  | .numberOutOfRange => "number out of range"
  | .controlCharacter => "control character (\\u0000-\\u001F) found while parsing a string"
  | .keyExpected => "key must be a string"
  | .loneSurrogate => "lone leading surrogate in hex escape"
  | .trailingComma => "trailing comma"
  | .trailingCharacters => "trailing characters"
  | .incompleteEscape => "unexpected end of hex escape"
  | .tooDeep => "recursion limit exceeded"

/-- A fault with the number of bytes that follow the place where reading stopped. -/
structure Fault where
  cause : Cause
  bytesLeft : Nat
  deriving DecidableEq, Repr

/-- A fault with its place in the text. -/
structure ReadError where
  cause : Cause
  line : Nat
  column : Nat
  deriving DecidableEq, Repr

/-- The wording of a fault. -/
def ReadError.message (error : ReadError) : String :=
  s!"{error.cause.message} at line {error.line} column {error.column}"

/-- The number of bytes of a text. -/
def byteCount (input : List Char) : Nat := input.foldl (fun count c => count + c.utf8Size) 0

/-- A value read from the front of a text with what follows it. -/
abbrev Step (α : Type) := Except Fault (α × List Char)

/-- A fault at the very place where the rest of the text starts. -/
def failHere {α : Type} (cause : Cause) (rest : List Char) : Except Fault α :=
  .error ⟨cause, byteCount rest⟩

/-- A fault at the first byte of the rest of the text, or at the end of the text. -/
def failAt {α : Type} (cause : Cause) (rest : List Char) : Except Fault α :=
  .error ⟨cause, byteCount rest - 1⟩

/-- A blank between tokens. -/
def isBlank (c : Char) : Bool := c == ' ' || c == '\n' || c == '\t' || c == '\r'

/-- The text without the blanks at its front. -/
def skipBlanks (input : List Char) : List Char := input.dropWhile isBlank

/-- A number written with four hexadecimal digits.  Four bytes are taken in any case. -/
def hexNumber (input : List Char) : Step Nat :=
  if byteCount (input.take 4) < 4 then .error ⟨.endInText, 0⟩
  else
    match input with
    | a :: b :: c :: d :: rest =>
        match Text.hexValue? a, Text.hexValue? b, Text.hexValue? c, Text.hexValue? d with
        | some a, some b, some c, some d => .ok (((a * 16 + b) * 16 + c) * 16 + d, rest)
        | _, _, _, _ => .error ⟨.invalidEscape, byteCount input - 4⟩
    | _ => .error ⟨.invalidEscape, byteCount input - 4⟩

/-- The character that a number of four digits stands for, with the second number that a
number from the first range needs after it. -/
def codePoint (number : Nat) (rest : List Char) : Step Char :=
  if 0xDC00 ≤ number ∧ number ≤ 0xDFFF then failHere .loneSurrogate rest
  else if number < 0xD800 ∨ 0xDBFF < number then .ok (Char.ofNat number, rest)
  else
    match rest with
    | [] => failHere .endInText []
    | '\\' :: [] => failHere .endInText []
    | '\\' :: 'u' :: rest =>
        match hexNumber rest with
        | .error fault => .error fault
        | .ok (second, rest) =>
            if second < 0xDC00 ∨ 0xDFFF < second then failHere .loneSurrogate rest
            else .ok (Char.ofNat ((number - 0xD800) * 0x400 + (second - 0xDC00) + 0x10000), rest)
    | '\\' :: rest => failAt .incompleteEscape rest
    | rest => failAt .incompleteEscape rest

/-- The character after `\u`.  A character beyond 16 bits is written as two numbers, the
first and the second of which come from ranges of their own. -/
def unicodeEscape (input : List Char) : Step Char :=
  match hexNumber input with
  | .error fault => .error fault
  | .ok (number, rest) => codePoint number rest

/-- The character of an escape after its backslash. -/
def escaped (input : List Char) : Step Char :=
  match input with
  | [] => failHere .endInText []
  | '"' :: rest => .ok ('"', rest)
  | '\\' :: rest => .ok ('\\', rest)
  | '/' :: rest => .ok ('/', rest)
  | 'b' :: rest => .ok ('\x08', rest)
  | 'f' :: rest => .ok ('\x0c', rest)
  | 'n' :: rest => .ok ('\n', rest)
  | 'r' :: rest => .ok ('\r', rest)
  | 't' :: rest => .ok ('\t', rest)
  | 'u' :: rest => unicodeEscape rest
  | rest => failAt .invalidEscape rest

/-- A quoted text after its first quote.  `read` holds the characters read so far, the last
one first. -/
def quoted : (fuel : Nat) → (read : List Char) → List Char → Step String
  | 0, _, rest => failHere .endInText rest
  | _, _, [] => failHere .endInText []
  | fuel + 1, read, c :: rest =>
      if c == '"' then .ok (String.ofList read.reverse, rest)
      else if c == '\\' then
        match escaped rest with
        | .ok (c, rest) => quoted fuel (c :: read) rest
        | .error fault => .error fault
      else if c.toNat < 0x20 then failHere .controlCharacter rest
      else quoted fuel (c :: read) rest

/-- A fixed word whose first character has been read. -/
def word (value : Json) : (expected input : List Char) → Step Json
  | [], rest => .ok (value, rest)
  | _ :: _, [] => failHere .endInValue []
  | e :: expected, c :: rest =>
      if e = c then word value expected rest else failAt .wordExpected (c :: rest)

/-- The largest integer of 64 bits without sign. -/
def maxUnsigned : Nat := Nat.pow 2 64 - 1

/-- The longest run of leading digits whose value fits 64 bits: the value, the number of
digits taken, and the rest. -/
def significand : (value taken : Nat) → List Char → Nat × Nat × List Char
  | value, taken, [] => (value, taken, [])
  | value, taken, c :: rest =>
      if Decimal.isDigit c then
        let next := value * 10 + Decimal.digitValue c
        if next ≤ maxUnsigned then significand next (taken + 1) rest else (value, taken, c :: rest)
      else (value, taken, c :: rest)

/-- The largest power of ten that a float can hold. -/
def maxPower : Nat := 308

/-- A float divided by a power of ten; large powers are split. -/
def scaleDown (value : Float) (power : Nat) : Float :=
  if power ≤ maxPower then value / Decimal.nearestFloat 1 power
  else if value == 0.0 then value
  else scaleDown (value / Decimal.nearestFloat 1 maxPower) (power - maxPower)
  termination_by power
  decreasing_by simp [maxPower] at *; omega

/-- The float with the given digits and exponent; none if it is too large. -/
def scaled (digits : Nat) (exponent : Int) : Option Float :=
  let value := Float.ofNat digits
  if exponent < 0 then some (scaleDown value exponent.natAbs)
  else if exponent.toNat ≤ maxPower then
    let product := value * Decimal.nearestFloat 1 exponent
    if product.isInf then none else some product
  else if digits = 0 then some value
  else none

def signedFloat (negative : Bool) (value : Float) : Json :=
  .float (if negative then -value else value)

/-- The largest exponent whose digits are all read before it counts as too large. -/
def maxExponent : Nat := Nat.pow 2 31 - 1

/-- The end of a number without an exponent part. -/
def finishFloat (negative : Bool) (digits : Nat) (exponent : Int) (rest : List Char) : Step Json :=
  match scaled digits exponent with
  | some value => .ok (signedFloat negative value, rest)
  | none => failHere .numberOutOfRange rest

/-- The digits of an exponent while it does not count as too large: its value and the rest;
none with what follows the digit that makes it too large. -/
def exponentDigits : (value : Nat) → List Char → Option Nat × List Char
  | value, [] => (some value, [])
  | value, c :: rest =>
      if Decimal.isDigit c then
        let next := value * 10 + Decimal.digitValue c
        if next ≤ maxExponent then exponentDigits next rest else (none, rest)
      else (some value, c :: rest)

/-- An exponent part after its mark, which ends a number. -/
def exponentPart (negative : Bool) (digits : Nat) (exponent : Int) (input : List Char) :
    Step Json :=
  let (down, input) := match input with
    | '+' :: rest => (false, rest)
    | '-' :: rest => (true, rest)
    | rest => (false, rest)
  match input with
  | [] => failHere .endInValue []
  | c :: rest =>
      if Decimal.isDigit c then
        match exponentDigits (Decimal.digitValue c) rest with
        | (some power, rest) =>
            finishFloat negative digits (if down then exponent - power else exponent + power) rest
        | (none, rest) =>
            if digits ≠ 0 ∧ down = false then failHere .numberOutOfRange rest
            else .ok (signedFloat negative 0.0, rest.dropWhile Decimal.isDigit)
      else failAt .invalidNumber (c :: rest)

/-- What follows the digits of a float: an exponent part or the end of the number. -/
def afterDigits (negative : Bool) (digits : Nat) (exponent : Int) (input : List Char) : Step Json :=
  match input with
  | 'e' :: rest | 'E' :: rest => exponentPart negative digits exponent rest
  | rest => finishFloat negative digits exponent rest

/-- A fraction after its point.  `exponent` is the power of ten of the digits before it. -/
def fraction (negative : Bool) (digits : Nat) (exponent : Int) (input : List Char) : Step Json :=
  let (longer, taken, rest) := significand digits 0 input
  match rest with
  | c :: _ =>
      if Decimal.isDigit c then
        afterDigits negative longer (exponent - taken) (rest.dropWhile Decimal.isDigit)
      else if taken = 0 then failAt .invalidNumber rest
      else afterDigits negative longer (exponent - taken) rest
  | [] =>
      if taken = 0 then failHere .endInValue []
      else afterDigits negative longer (exponent - taken) []

/-- An integer, or a float if it does not fit 64 bits or is a negative zero. -/
def wholeNumber (negative : Bool) (digits : Nat) : Json :=
  if negative then
    if 0 < digits ∧ digits ≤ Nat.pow 2 63 then .integer (-(digits : Int))
    else .float (-(Float.ofNat digits))
  else .integer digits

/-- What follows the leading digits of a number that all fit 64 bits. -/
def afterWhole (negative : Bool) (digits : Nat) (input : List Char) : Step Json :=
  match input with
  | '.' :: rest => fraction negative digits 0 rest
  | 'e' :: rest | 'E' :: rest => exponentPart negative digits 0 rest
  | rest => .ok (wholeNumber negative digits, rest)

/-- A number after its sign. -/
def number (negative : Bool) (input : List Char) : Step Json :=
  match input with
  | [] => failHere .endInValue []
  | '0' :: rest =>
      match rest with
      | c :: _ =>
          if Decimal.isDigit c then failAt .invalidNumber rest else afterWhole negative 0 rest
      | [] => afterWhole negative 0 []
  | c :: rest =>
      if Decimal.isDigit c then
        let (digits, _, rest) := significand (Decimal.digitValue c) 1 rest
        let dropped := rest.takeWhile Decimal.isDigit
        if dropped = [] then afterWhole negative digits rest
        else
          match rest.dropWhile Decimal.isDigit with
          | '.' :: rest => fraction negative digits dropped.length rest
          | rest => afterDigits negative digits dropped.length rest
      else failAt .invalidNumber (c :: rest)

/-- The colon after a key. -/
def colon (input : List Char) : Except Fault (List Char) :=
  match skipBlanks input with
  | ':' :: rest => .ok rest
  | [] => failHere .endInObject []
  | rest => failAt .colonExpected rest

mutual

/-- A value.  `depth` is the number of arrays and objects that may still be opened. -/
def value : (fuel depth : Nat) → List Char → Step Json
  | 0, _, rest => failHere .endInValue rest
  | fuel + 1, depth, input =>
      match skipBlanks input with
      | [] => failHere .endInValue []
      | 'n' :: rest => word .null "ull".toList rest
      | 't' :: rest => word (.boolean true) "rue".toList rest
      | 'f' :: rest => word (.boolean false) "alse".toList rest
      | '-' :: rest => number true rest
      | '"' :: rest =>
          match quoted fuel [] rest with
          | .error fault => .error fault
          | .ok (content, rest) => .ok (.text content, rest)
      | '[' :: rest =>
          match depth with
          | 0 => failAt .tooDeep ('[' :: rest)
          | depth + 1 => firstItem fuel depth (skipBlanks rest)
      | '\x7b' :: rest =>
          match depth with
          | 0 => failAt .tooDeep ('\x7b' :: rest)
          | depth + 1 => firstMember fuel depth (skipBlanks rest)
      | c :: rest =>
          if Decimal.isDigit c then number false (c :: rest)
          else failAt .valueExpected (c :: rest)

/-- The content of an array after its bracket. -/
def firstItem : (fuel depth : Nat) → List Char → Step Json
  | 0, _, rest => failHere .endInArray rest
  | _, _, [] => failHere .endInArray []
  | fuel + 1, depth, input@(c :: rest) =>
      if c == ']' then .ok (.array [], rest)
      else
        match value fuel depth input with
        | .error fault => .error fault
        | .ok (item, rest) => moreItems fuel depth [item] (skipBlanks rest)

/-- The items of an array after those already read, the last one first. -/
def moreItems : (fuel depth : Nat) → (read : List Json) → List Char → Step Json
  | 0, _, _, rest => failHere .endInArray rest
  | _, _, _, [] => failHere .endInArray []
  | fuel + 1, depth, read, input@(c :: rest) =>
      if c == ']' then .ok (.array read.reverse, rest)
      else if c == ',' then
        match skipBlanks rest with
        | [] => failHere .endInValue []
        | ']' :: rest => failAt .trailingComma (']' :: rest)
        | input =>
            match value fuel depth input with
            | .error fault => .error fault
            | .ok (item, rest) => moreItems fuel depth (item :: read) (skipBlanks rest)
      else failAt .arrayEndExpected input

/-- The content of an object after its brace. -/
def firstMember : (fuel depth : Nat) → List Char → Step Json
  | 0, _, rest => failHere .endInObject rest
  | _, _, [] => failHere .endInObject []
  | fuel + 1, depth, input@(c :: rest) =>
      if c == '\x7d' then .ok (.object [], rest)
      else if c == '"' then
        match keyedValue fuel depth rest with
        | .error fault => .error fault
        | .ok (found, rest) => moreMembers fuel depth [found] (skipBlanks rest)
      else failAt .keyExpected input

/-- The members of an object after those already read, the last one first. -/
def moreMembers : (fuel depth : Nat) → (read : List (String × Json)) → List Char → Step Json
  | 0, _, _, rest => failHere .endInObject rest
  | _, _, _, [] => failHere .endInObject []
  | fuel + 1, depth, read, input@(c :: rest) =>
      if c == '\x7d' then .ok (ofMembers read.reverse, rest)
      else if c == ',' then
        match skipBlanks rest with
        | [] => failHere .endInValue []
        | '\x7d' :: rest => failAt .trailingComma ('\x7d' :: rest)
        | '"' :: rest =>
            match keyedValue fuel depth rest with
            | .error fault => .error fault
            | .ok (found, rest) => moreMembers fuel depth (found :: read) (skipBlanks rest)
        | rest => failAt .keyExpected rest
      else failAt .objectEndExpected input

/-- A member after the first quote of its key. -/
def keyedValue : (fuel depth : Nat) → List Char → Step (String × Json)
  | 0, _, rest => failHere .endInObject rest
  | fuel + 1, depth, input =>
      match quoted fuel [] input with
      | .error fault => .error fault
      | .ok (key, rest) =>
          match colon rest with
          | .error fault => .error fault
          | .ok rest =>
              match value fuel depth rest with
              | .error fault => .error fault
              | .ok (found, rest) => .ok ((key, found), rest)

end

/-- The number of arrays and objects that may be open at once. -/
def maxDepth : Nat := 127

/-- The line and the column after the given number of bytes of a text. -/
def placeAfter : (bytes line column : Nat) → List Char → Nat × Nat
  | _, line, column, [] => (line, column)
  | bytes, line, column, c :: rest =>
      if bytes < c.utf8Size then (line, column + bytes)
      else if c == '\n' then placeAfter (bytes - 1) (line + 1) 0 rest
      else placeAfter (bytes - c.utf8Size) line (column + c.utf8Size) rest

/-- A fault with its place in the whole text. -/
def locate (input : List Char) (fault : Fault) : ReadError :=
  let (line, column) := placeAfter (byteCount input - fault.bytesLeft) 1 0 input
  ⟨fault.cause, line, column⟩

/-- A value with nothing but blanks after it. -/
def document (input : List Char) : Except Fault Json := do
  let (found, rest) ← value (2 * input.length + 2) maxDepth input
  match skipBlanks rest with
  | [] => .ok found
  | rest => failAt .trailingCharacters rest

/-- The value that a text denotes. -/
def read (input : String) : Except ReadError Json :=
  match document input.toList with
  | .ok found => .ok found
  | .error fault => .error (locate input.toList fault)

end Workflow.Json
