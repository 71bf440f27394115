/-!
# The shortest decimal of a float

Which digits represent a binary float: the fewest that read back to it, and among those
the nearest to its exact value.  Everything is decided by exact integer arithmetic on
the decoded bits.  How the digits are laid out is the business of
`Workflow.Decimal.Layout`.
-/

namespace Workflow.Decimal

/-- A finite non-negative binary64 value, `mantissa * 2 ^ exponent`. -/
structure Binary where
  mantissa : Nat
  exponent : Int
  /-- The gap to the value below is half the gap to the value above. -/
  narrowBelow : Bool
  deriving Repr, DecidableEq

namespace Binary

/-- The magnitude of a finite float. -/
def ofFloat (value : Float) : Binary :=
  let bits := value.toBits
  let biased := ((bits >>> 52) &&& 0x7FF).toNat
  let fraction := (bits &&& 0xFFFFFFFFFFFFF).toNat
  if biased = 0 then ⟨fraction, -1074, false⟩
  else ⟨Nat.pow 2 52 + fraction, (biased : Int) - 1075, fraction == 0 && biased > 1⟩

/-- The value without its fractional part, as a natural number. -/
def truncate (value : Binary) : Nat :=
  value.mantissa * Nat.pow 2 value.exponent.toNat / Nat.pow 2 (-value.exponent).toNat

/-- Whether the value has no fractional part. -/
def isIntegral (value : Binary) : Bool :=
  value.mantissa * Nat.pow 2 value.exponent.toNat % Nat.pow 2 (-value.exponent).toNat == 0

end Binary

/-- A decimal number, `coefficient * 10 ^ exponent`. -/
structure Digits where
  coefficient : Nat
  exponent : Int
  deriving Repr, DecidableEq

/-- Which of two equally near candidates is taken. -/
inductive Tie where
  | toEven
  | upward
  deriving Repr, DecidableEq

/-- Compare `coefficient * 10 ^ scale` with `mantissa * 2 ^ power`, exactly. -/
def compareScaled (coefficient : Nat) (scale : Int) (mantissa : Nat) (power : Int) : Ordering :=
  compare (coefficient * Nat.pow 10 scale.toNat * Nat.pow 2 (-power).toNat)
    (mantissa * Nat.pow 2 power.toNat * Nat.pow 10 (-scale).toNat)

/-- Whether a decimal lies among the reals that round to the value: between the halfway
points to its neighbours, the ends included when the mantissa is even. -/
def Binary.readsBack (value : Binary) (digits : Digits) : Bool :=
  let low := if value.narrowBelow then 4 * value.mantissa - 1 else 4 * value.mantissa - 2
  let high := 4 * value.mantissa + 2
  let closed := value.mantissa % 2 == 0
  let atLow := compareScaled digits.coefficient digits.exponent low (value.exponent - 2)
  let atHigh := compareScaled digits.coefficient digits.exponent high (value.exponent - 2)
  (atLow == .gt || (closed && atLow == .eq)) && (atHigh == .lt || (closed && atHigh == .eq))

/-- The number of decimal digits of a natural number. -/
def digitCount (n : Nat) : Nat := (Nat.toDigits 10 n).length

/-- The least `k` with the value below `10 ^ k`.  The value is scaled by `10 ^ 400`, far
beyond its last binary digit, and the digits of the result are counted. -/
def Binary.magnitude (value : Binary) : Int :=
  let scaled := value.mantissa * Nat.pow 10 400 * Nat.pow 2 value.exponent.toNat /
    Nat.pow 2 (-value.exponent).toNat
  (digitCount scaled : Int) - 400

/-- The multiple of `10 ^ scale` at or below the value, in units of `10 ^ scale`. -/
def Binary.floorAt (value : Binary) (scale : Int) : Nat :=
  value.mantissa * Nat.pow 2 value.exponent.toNat * Nat.pow 10 (-scale).toNat /
    (Nat.pow 2 (-value.exponent).toNat * Nat.pow 10 scale.toNat)

/-- Of the value's two neighbours on the grid of multiples of `10 ^ scale`, the nearest
one that reads back. -/
def Binary.nearestAt (value : Binary) (tie : Tie) (scale : Int) : Option Digits :=
  let below := value.floorAt scale
  let lower : Digits := ⟨below, scale⟩
  let upper : Digits := ⟨below + 1, scale⟩
  match value.readsBack lower, value.readsBack upper with
  | false, false => none
  | true, false => some lower
  | false, true => some upper
  | true, true =>
      match compareScaled (2 * below + 1) scale (2 * value.mantissa) value.exponent with
      | .gt => some lower
      | .lt => some upper
      | .eq =>
          match tie with
          | .upward => some upper
          | .toEven => if below % 2 = 0 then some lower else some upper

def Binary.exact (value : Binary) : Digits :=
  ⟨value.mantissa * Nat.pow 2 value.exponent.toNat * Nat.pow 5 (-value.exponent).toNat,
    -((-value.exponent).toNat : Int)⟩

/-- Trailing zeros of the coefficient moved into the exponent; `steps` bounds their
number. -/
def Digits.normalize : (steps : Nat) → Digits → Digits
  | 0, digits => digits
  | steps + 1, digits =>
      if digits.coefficient ≠ 0 ∧ digits.coefficient % 10 = 0 then
        Digits.normalize steps ⟨digits.coefficient / 10, digits.exponent + 1⟩
      else digits

/-- The fewest digits that read back to a non-zero value, and the nearest of those.
Seventeen digits always suffice. -/
def Binary.shortest (value : Binary) (tie : Tie) : Digits :=
  let magnitude := value.magnitude
  let found := (List.range 17).findSome? fun n : Nat =>
    value.nearestAt tie (magnitude - (n + 1 : Nat))
  Digits.normalize 400 (found.getD value.exact)

end Workflow.Decimal
