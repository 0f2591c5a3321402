/-!
# UTF-8

`Utf8.decode` reads bytes as text and says where and how it fails: the fault is the longest start
of a character that the bytes hold, or that they end within a character. `Utf8.decodeLossy` puts
one replacement character in the place of each such fault and goes on.
-/

namespace AlertRelay.Utf8

/-- What stands at the head of some bytes. -/
inductive Scan where
  /-- A character of the given width. -/
  | char (c : Char) (width : Nat)
  /-- Bytes, this many of them, that no character starts with. -/
  | bad (length : Nat)
  /-- The start of a character that is cut off by the end. -/
  | cut
  deriving DecidableEq, Repr

/-- The width of the character that a byte starts and the range of its second byte. -/
def lead (b : UInt8) : Option (Nat × UInt8 × UInt8) :=
  if b < 0x80 then some (1, 0x80, 0xBF)
  else if b < 0xC2 then none
  else if b < 0xE0 then some (2, 0x80, 0xBF)
  else if b == 0xE0 then some (3, 0xA0, 0xBF)
  else if b == 0xED then some (3, 0x80, 0x9F)
  else if b < 0xF0 then some (3, 0x80, 0xBF)
  else if b == 0xF0 then some (4, 0x90, 0xBF)
  else if b < 0xF4 then some (4, 0x80, 0xBF)
  else if b == 0xF4 then some (4, 0x80, 0x8F)
  else none

/-- A byte that continues a character. -/
def isTail (b : UInt8) : Bool :=
  0x80 ≤ b && b ≤ 0xBF

/-- The six payload bits of a continuation byte behind those read before. -/
def shift (n : Nat) (b : UInt8) : Nat :=
  n * 64 + (b.toNat - 0x80)

/-- What stands at the head of `b :: rest`. -/
def scan (b : UInt8) (rest : List UInt8) : Scan :=
  match lead b with
  | none => .bad 1
  | some (1, _, _) => .char (Char.ofNat b.toNat) 1
  | some (width, low, high) =>
    match rest with
    | [] => .cut
    | b₁ :: rest =>
      if b₁ < low || high < b₁ then .bad 1
      else if width = 2 then .char (Char.ofNat (shift (b.toNat - 0xC0) b₁)) 2
      else match rest with
        | [] => .cut
        | b₂ :: rest =>
          if !isTail b₂ then .bad 2
          else if width = 3 then .char (Char.ofNat (shift (shift (b.toNat - 0xE0) b₁) b₂)) 3
          else match rest with
            | [] => .cut
            | b₃ :: _ =>
              if !isTail b₃ then .bad 3
              else .char (Char.ofNat (shift (shift (shift (b.toNat - 0xF0) b₁) b₂) b₃)) 4

/-- Why some bytes are not text, with the index of the first byte at fault. -/
inductive Fault where
  | invalid (length index : Nat)
  | incomplete (index : Nat)
  deriving DecidableEq, Repr

/-- The words for a fault. -/
def Fault.message : Fault → String
  | .invalid length index => s!"invalid utf-8 sequence of {length} bytes from index {index}"
  | .incomplete index => s!"incomplete utf-8 byte sequence from index {index}"

/-- Decodes the bytes at `index`, the first `skip` of which belong to a character read before. -/
def decodeFrom (index skip : Nat) : List UInt8 → Except Fault (List Char)
  | [] => .ok []
  | b :: rest =>
    match skip with
    | skip + 1 => decodeFrom (index + 1) skip rest
    | 0 =>
      match scan b rest with
      | .char c width => (decodeFrom (index + 1) (width - 1) rest).map (c :: ·)
      | .bad length => .error (.invalid length index)
      | .cut => .error (.incomplete index)

/-- The text that some bytes stand for. -/
def decode (bytes : List UInt8) : Except Fault (List Char) :=
  decodeFrom 0 0 bytes

/-- Decodes with one replacement character for each fault; the first `skip` bytes belong to what
was read before. -/
def decodeLossyFrom (skip : Nat) : List UInt8 → List Char
  | [] => []
  | b :: rest =>
    match skip with
    | skip + 1 => decodeLossyFrom skip rest
    | 0 =>
      match scan b rest with
      | .char c width => c :: decodeLossyFrom (width - 1) rest
      | .bad length => '\uFFFD' :: decodeLossyFrom (length - 1) rest
      | .cut => ['\uFFFD']

/-- The text that some bytes stand for, with a replacement character for what is not text. -/
def decodeLossy (bytes : List UInt8) : List Char :=
  decodeLossyFrom 0 bytes

/-- The bytes of one character. -/
def encodeChar (c : Char) : List UInt8 :=
  let n := c.toNat
  let tail (k : Nat) : UInt8 := UInt8.ofNat (0x80 + n / Nat.pow 64 k % 64)
  if n < 0x80 then [UInt8.ofNat n]
  else if n < 0x800 then [UInt8.ofNat (0xC0 + n / 64), tail 0]
  else if n < 0x10000 then [UInt8.ofNat (0xE0 + n / Nat.pow 64 2), tail 1, tail 0]
  else [UInt8.ofNat (0xF0 + n / Nat.pow 64 3), tail 2, tail 1, tail 0]

/-- The bytes of a text. -/
def encode (cs : List Char) : List UInt8 :=
  cs.flatMap encodeChar

end AlertRelay.Utf8
