/-!
# Bytes of a text

`validLength` finds how far a sequence of bytes is well-formed UTF-8, counting only whole
characters.  It follows the table of well-formed byte sequences: the first byte of a
character decides how many bytes follow it and from which range the second one comes.
-/

namespace Workflow.Text

/-- Whether a byte lies in a closed range. -/
def isBetween (low high byte : UInt8) : Bool := low ≤ byte && byte ≤ high

/-- Whether a byte may stand in third or fourth place of a character. -/
def isTail (byte : UInt8) : Bool := isBetween 0x80 0xBF byte

/-- Whether two bytes make up a character. -/
def isPair (first second : UInt8) : Bool := isBetween 0xC2 0xDF first && isTail second

/-- Whether two bytes start a character of three bytes. -/
def startsTriple (first second : UInt8) : Bool :=
  (first == 0xE0 && isBetween 0xA0 0xBF second) ||
    (isBetween 0xE1 0xEC first && isTail second) ||
    (first == 0xED && isBetween 0x80 0x9F second) ||
    (isBetween 0xEE 0xEF first && isTail second)

/-- Whether two bytes start a character of four bytes. -/
def startsQuadruple (first second : UInt8) : Bool :=
  (first == 0xF0 && isBetween 0x90 0xBF second) ||
    (isBetween 0xF1 0xF3 first && isTail second) ||
    (first == 0xF4 && isBetween 0x80 0x8F second)

/-- The number of leading bytes that make up whole characters. -/
def validLength : List UInt8 → Nat
  | [] => 0
  | [a] => if a < 0x80 then 1 else 0
  | [a, b] =>
      if a < 0x80 then 1 + validLength [b] else if isPair a b then 2 else 0
  | [a, b, c] =>
      if a < 0x80 then 1 + validLength [b, c]
      else if isPair a b then 2 + validLength [c]
      else if startsTriple a b && isTail c then 3
      else 0
  | a :: b :: c :: d :: rest =>
      if a < 0x80 then 1 + validLength (b :: c :: d :: rest)
      else if isPair a b then 2 + validLength (c :: d :: rest)
      else if startsTriple a b && isTail c then 3 + validLength (d :: rest)
      else if startsQuadruple a b && isTail c && isTail d then 4 + validLength rest
      else 0

/-- The text that a sequence of bytes encodes. -/
def decode? (bytes : List UInt8) : Option String := String.fromUTF8? ⟨bytes.toArray⟩

def encode (text : String) : List UInt8 := text.toUTF8.data.toList

end Workflow.Text
