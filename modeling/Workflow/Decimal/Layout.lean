import Workflow.Decimal.Shortest

/-!
# How a float is written

A layout fixes every decision about the text of a float except its digits.  Two layouts
are in use: `Layout.plain` for values in messages and parameters, and `Layout.json` for
numbers in documents.
-/

namespace Workflow.Decimal

/-- The decisions of a written form. -/
structure Layout where
  /-- The exponents of the leading digit that are written without an exponent part. -/
  positional : Int → Bool
  /-- Whether an integral value ends in `.0`. -/
  pointZero : Bool
  /-- Which of two equally near digit strings is written. -/
  tie : Tie

namespace Layout

/-- Values are written without an exponent whatever their size, integral ones without a
point; of two equally near digit strings the upper one is taken. -/
def plain : Layout where
  positional _ := true
  pointZero := false
  tie := .upward

/-- Numbers in documents keep a point or an exponent.  An exponent part always has a sign, and
is used below `1e-5` and from `1e16` on. -/
def json : Layout where
  positional exponent := -5 ≤ exponent && exponent ≤ 15
  pointZero := true
  tie := .toEven

end Layout

/-- The decimal digits of a natural number. -/
def numeral (n : Nat) : List Char := Nat.toDigits 10 n

/-- The decimal digits of an integer after a minus sign if it is negative. -/
def signedNumeral (n : Int) : List Char :=
  if n < 0 then '-' :: numeral n.natAbs else numeral n.natAbs

/-- `count` zeros. -/
def zeros (count : Nat) : List Char := List.replicate count '0'

/-- A decimal without an exponent part. -/
def Digits.positional (digits : Digits) (pointZero : Bool) : List Char :=
  let written := numeral digits.coefficient
  let ending := if pointZero then ['.', '0'] else []
  if 0 ≤ digits.exponent then written ++ zeros digits.exponent.toNat ++ ending
  else
    let places := (-digits.exponent).toNat
    if places < written.length then
      written.take (written.length - places) ++ '.' :: written.drop (written.length - places)
    else '0' :: '.' :: zeros (places - written.length) ++ written

/-- A decimal with one digit before the point and an exponent part. -/
def Digits.scientific (digits : Digits) : List Char :=
  let written := numeral digits.coefficient
  let exponent := digits.exponent + (written.length - 1 : Nat)
  let power := numeral exponent.natAbs
  let mantissa := match written with
    | leading :: next :: rest => leading :: '.' :: next :: rest
    | short => short
  mantissa ++ 'e' :: (if exponent < 0 then '-' else '+') :: power

def Layout.magnitude (layout : Layout) (value : Float) : List Char :=
  let binary := Binary.ofFloat value
  let digits := if binary.mantissa = 0 then ⟨0, 0⟩ else binary.shortest layout.tie
  let exponent := digits.exponent + ((numeral digits.coefficient).length - 1 : Nat)
  if layout.positional exponent then digits.positional layout.pointZero
  else digits.scientific

/-- Whether the sign bit of a float is set. -/
def isNegative (value : Float) : Bool := value.toBits >>> 63 == 1

def Layout.render (layout : Layout) (value : Float) : String :=
  if value.isNaN then "NaN"
  else
    let sign := if isNegative value then ['-'] else []
    let magnitude := if value.isInf then ['i', 'n', 'f'] else layout.magnitude value
    String.ofList (sign ++ magnitude)

end Workflow.Decimal
