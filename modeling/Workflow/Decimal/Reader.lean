import Workflow.Text.Search
import Workflow.Decimal.Shortest

/-!
# Reading numbers

The accepted forms of integers and floats.  Integers have decimal digits and an optional
sign and must fit their 64 bits.  A float is a decimal with an optional point and exponent,
or one of the words `inf`, `infinity` and `nan` in any case; its value is the nearest
float.  Blanks and underscores are accepted nowhere.
-/

namespace Workflow.Decimal

def isDigit (c : Char) : Bool := '0' ≤ c && c ≤ '9'

def digitValue (c : Char) : Nat := c.toNat - '0'.toNat

/-- The number that a run of digits denotes. -/
def digitsValue (digits : List Char) : Nat :=
  digits.foldl (fun value c => value * 10 + digitValue c) 0

/-- A non-empty run of digits, and nothing else. -/
def readDigits (text : List Char) : Option Nat :=
  if text ≠ [] ∧ text.all isDigit then some (digitsValue text) else none

/-- An unsigned 64-bit integer; a plus sign is allowed. -/
def readUnsigned (text : List Char) : Option Nat := do
  let digits := match text with
    | '+' :: rest => rest
    | _ => text
  let value ← readDigits digits
  if value < Nat.pow 2 64 then some value else none

/-- A signed 64-bit integer. -/
def readSigned (text : List Char) : Option Int := do
  let value ← match text with
    | '+' :: rest => (readDigits rest).map Int.ofNat
    | '-' :: rest => (readDigits rest).map fun n => -Int.ofNat n
    | _ => (readDigits text).map Int.ofNat
  if -(Nat.pow 2 63) ≤ value ∧ value < Nat.pow 2 63 then some value else none

/-- The nearest float to `coefficient * 10 ^ exponent`.  Numbers far outside the range of
finite floats are decided by their size alone. -/
def nearestFloat (coefficient : Nat) (exponent : Int) : Float :=
  let size := (digitCount coefficient : Int) + exponent
  if coefficient = 0 ∨ size < -400 then 0.0
  else if 400 < size then 1.0 / 0.0
  else Float.ofScientific coefficient (exponent < 0) exponent.natAbs

/-- An exponent part without its mark: an optional sign and at least one digit. -/
def readExponent (text : List Char) : Option Int :=
  match text with
  | '+' :: rest => (readDigits rest).map Int.ofNat
  | '-' :: rest => (readDigits rest).map fun n => -Int.ofNat n
  | _ => (readDigits text).map Int.ofNat

/-- A decimal without sign: digits with an optional point, at least one digit on one of its
sides, and an optional exponent part. -/
def readDecimal (text : List Char) : Option Float := do
  let whole := text.takeWhile isDigit
  let rest := text.dropWhile isDigit
  let (fraction, rest) := match rest with
    | '.' :: rest => (rest.takeWhile isDigit, rest.dropWhile isDigit)
    | _ => ([], rest)
  if whole = [] ∧ fraction = [] then none
  else
    let power ← match rest with
      | [] => some 0
      | mark :: rest => if mark == 'e' || mark == 'E' then readExponent rest else none
    some (nearestFloat (digitsValue (whole ++ fraction)) (power - fraction.length))

/-- A magnitude: a decimal, or a word for infinity or for no number. -/
def readMagnitude (text : List Char) : Option Float :=
  let word := String.ofList (text.map Text.lowerAscii)
  if word = "inf" ∨ word = "infinity" then some (1.0 / 0.0)
  else if word = "nan" then some (0.0 / 0.0)
  else readDecimal text

def readFloat (text : List Char) : Option Float :=
  match text with
  | '+' :: rest => readMagnitude rest
  | '-' :: rest => (readMagnitude rest).map fun value => -value
  | _ => readMagnitude text

/-- Whether a float is finite and has no fractional part. -/
def isIntegral (value : Float) : Bool :=
  !value.isNaN && !value.isInf && (Binary.ofFloat value).isIntegral

/-- The integer part of a float, clamped to 64 signed bits; zero for no number. -/
def toSigned (value : Float) : Int :=
  if value.isNaN then 0
  else
    let negative := value < 0
    let magnitude := if value.isInf then Nat.pow 2 63 else (Binary.ofFloat value).truncate
    if negative then max (-(Nat.pow 2 63)) (-(magnitude : Int))
    else min (Nat.pow 2 63 - 1) (magnitude : Int)

end Workflow.Decimal
