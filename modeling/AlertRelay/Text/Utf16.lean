/-!
# UTF-16

In UTF-16 a character is one unit of two bytes, or two units, a high and a low surrogate.
`Utf16.decodeLossy` reads bytes as text and puts one replacement character in the place of each
surrogate that stands alone and of what is cut off by the end.
-/

namespace AlertRelay.Utf16

/-- The order of the two bytes of a unit. -/
inductive ByteOrder where
  | highFirst
  | lowFirst
  deriving DecidableEq, Repr

/-- The unit of two bytes. -/
def ByteOrder.unit (order : ByteOrder) (a b : UInt8) : Nat :=
  match order with
  | .highFirst => 256 * a.toNat + b.toNat
  | .lowFirst => 256 * b.toNat + a.toNat

/-- A unit that begins a character of two units. -/
def isHigh (unit : Nat) : Bool :=
  0xD800 ≤ unit && unit < 0xDC00

/-- A unit that ends a character of two units. -/
def isLow (unit : Nat) : Bool :=
  0xDC00 ≤ unit && unit < 0xE000

/-- What stands in the place of what is no text. -/
def replacement : Char := '\uFFFD'

/-- Decodes bytes behind a high surrogate, if there is one. -/
def decodeFrom (order : ByteOrder) : Option Nat → List UInt8 → List Char
  | high, a :: b :: rest =>
    let unit := order.unit a b
    match high with
    | some h =>
      if isLow unit then
        Char.ofNat (0x10000 + (h - 0xD800) * 0x400 + (unit - 0xDC00)) :: decodeFrom order none rest
      else if isHigh unit then replacement :: decodeFrom order (some unit) rest
      else replacement :: Char.ofNat unit :: decodeFrom order none rest
    | none =>
      if isHigh unit then decodeFrom order (some unit) rest
      else if isLow unit then replacement :: decodeFrom order none rest
      else Char.ofNat unit :: decodeFrom order none rest
  | none, [] => []
  | _, _ => [replacement]

/-- The text that some bytes stand for, with a replacement character for what is not text. -/
def decodeLossy (order : ByteOrder) (bytes : List UInt8) : List Char :=
  decodeFrom order none bytes

end AlertRelay.Utf16
