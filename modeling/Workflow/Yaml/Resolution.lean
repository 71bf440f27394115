import Workflow.Decimal.Reader
import Workflow.Text.Hexadecimal

/-!
# What plain scalars mean

A plain scalar may be a word for nothing or for a truth value, or a number.  Integers may be
written in a base of their own; digits behind a spare zero are no number at all.
-/

namespace Workflow.Yaml

/-- What a plain scalar means: nothing, a truth value, a number, or its own text. -/
inductive PlainValue where
  | nothing
  | truth (value : Bool)
  | integer (value : Int)
  | float (value : Float)
  | text
  deriving DecidableEq, Repr

namespace Resolution

/-- Whether a text is a word for nothing. -/
def isNull (text : String) : Bool := ["~", "null", "Null", "NULL"].contains text

/-- The truth value that a word stands for. -/
def boolean? (text : String) : Option Bool :=
  if ["true", "True", "TRUE"].contains text then some true
  else if ["false", "False", "FALSE"].contains text then some false
  else none

/-- A text without a sign. -/
def unsigned : List Char → List Char
  | '+' :: rest | '-' :: rest => rest
  | text => text

/-- Whether a text is made of digits behind a spare zero. -/
def hasSpareZero (text : List Char) : Bool :=
  match unsigned text with
  | '0' :: next :: rest => (next :: rest).all Decimal.isDigit
  | _ => false

def digits? (base : Nat) (text : List Char) : Option Nat :=
  let digit (value : Option Nat) (c : Char) : Option Nat := do
    let digit ← Text.hexValue? c
    if digit < base then some ((← value) * base + digit) else none
  if text = [] then none else text.foldl digit (some 0)

/-- A number that says in which base it is written. -/
def based? : List Char → Option Nat
  | '0' :: 'x' :: rest => digits? 16 rest
  | '0' :: 'o' :: rest => digits? 8 rest
  | '0' :: 'b' :: rest => digits? 2 rest
  | _ => none

/-- The number that an unsigned integer denotes, which is written without a sign. -/
def magnitude? (text : List Char) : Option Nat :=
  (based? text).or (if hasSpareZero text then none else digits? 10 text)

/-- The unsigned integer below a bound that a text denotes.  A plus sign is allowed. -/
def natural? (bound : Nat) (text : List Char) : Option Nat :=
  let written := match text with
    | '+' :: rest => rest
    | text => text
  (magnitude? written).filter (· < bound)

/-- The integer of at most 128 bits that a text denotes. -/
def integer? (text : List Char) : Option Int :=
  match text with
  | '-' :: rest => ((magnitude? rest).filter (· ≤ Nat.pow 2 127)).map fun value => -Int.ofNat value
  | text => (natural? (Nat.pow 2 128) text).map Int.ofNat

/-- The words for an infinity or for no number, with their values. -/
def specialFloats : List (String × Float) :=
  let infinity : Float := 1.0 / 0.0
  ([".inf", ".Inf", ".INF", "+.inf", "+.Inf", "+.INF"].map fun word => (word, infinity)) ++
    ([".nan", ".NaN", ".NAN"].map fun word => (word, 0.0 / 0.0)) ++
    ["-.inf", "-.Inf", "-.INF"].map fun word => (word, -infinity)

def float? (text : List Char) : Option Float :=
  (specialFloats.lookup (String.ofList text)).or ((Decimal.readFloat text).filter Float.isFinite)

/-- The value of a plain scalar.  Digits behind a spare zero are a text. -/
def value (text : String) : PlainValue :=
  if text == "" || isNull text then .nothing
  else
    match boolean? text, integer? text.toList, float? text.toList with
    | some value, _, _ => .truth value
    | none, some value, _ => .integer value
    | none, none, some value => if hasSpareZero text.toList then .text else .float value
    | none, none, none => .text

end Resolution

end Workflow.Yaml
