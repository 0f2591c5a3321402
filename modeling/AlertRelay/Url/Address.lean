import AlertRelay.Text.Digits
import AlertRelay.Text.Split

/-!
# Addresses

A host may be given by its address. An address of four bytes is one to four numbers with points
between them, each decimal, octal behind a zero, or hexadecimal behind `0x`; the last number fills
all bytes that are left. An address of eight groups is hexadecimal numbers with colons between them,
one run of zeros may be left out, and the last two groups may be written as four decimal bytes.
-/

namespace AlertRelay.Url

/-! ## Four bytes -/

/-- The number that digits of a base stand for. -/
def readBase? (base : Nat) (cs : List Char) : Option Nat :=
  cs.foldl (fun n c => n.bind fun n => ((Text.hexValue? c).filter (· < base)).map (base * n + ·))
    (some 0)

/-- Reads one number of an address. Nothing behind `0x`, or nothing at all behind `0`, is zero. -/
def readAddressNumber? : List Char → Option Nat
  | [] => none
  | '0' :: 'x' :: digits => readBase? 16 digits
  | '0' :: 'X' :: digits => readBase? 16 digits
  | '0' :: c :: digits => readBase? 8 (c :: digits)
  | digits => readBase? 10 digits

/-- The parts of a host between its points, without an empty last one. -/
def addressParts (host : List Char) : List (List Char) :=
  let parts := Text.splitChars '.' host
  if parts.getLast? == some [] then parts.dropLast else parts

/-- Whether a host must be an address: its last part is a number or at least a row of digits. -/
def endsInNumber (host : List Char) : Bool :=
  match (addressParts host).getLast? with
  | some last => (!last.isEmpty && last.all Text.isDigit) || (readAddressNumber? last).isSome
  | none => false

/-- The address that some numbers stand for: all but the last are bytes. -/
def addressOf? (numbers : List Nat) : Option Nat :=
  numbers.getLast?.bind fun last =>
    let bytes := numbers.dropLast
    let limit := Nat.pow 256 (4 - bytes.length)
    if 4 < numbers.length || bytes.any (255 < ·) || limit ≤ last then none
    else some (bytes.foldl (fun n b => 256 * n + b) 0 * limit + last)

/-- Reads an address of four bytes. -/
def readAddress? (host : List Char) : Option Nat :=
  ((addressParts host).mapM readAddressNumber?).bind addressOf?

/-- The four bytes of an address with points between them. -/
def addressChars (address : Nat) : List Char :=
  let byte (k : Nat) : List Char := Nat.toDigits 10 (address / Nat.pow 256 k % 256)
  byte 3 ++ '.' :: byte 2 ++ '.' :: byte 1 ++ '.' :: byte 0

/-! ## Eight groups -/

/-- Reads a decimal byte without leading zeros. -/
def readDecimalByte? (cs : List Char) : Option Nat :=
  if cs.head? == some '0' && 1 < cs.length then none
  else (Text.readDigits? cs).filter (· ≤ 255)

/-- Reads the two groups that four decimal bytes stand for. -/
def readLastGroups? (cs : List Char) : Option (List Nat) :=
  match (Text.splitChars '.' cs).mapM readDecimalByte? with
  | some [a, b, c, d] => some [256 * a + b, 256 * c + d]
  | _ => none

/-- The groups read so far, the last of which comes first, and behind how many of them a run of
zeros was left out. -/
structure Groups where
  back : List Nat := []
  gap : Option Nat := none

/-- Reads groups up to the end. A colon at the beginning leaves out a run of zeros, of which one is
put in its place. The first argument bounds the number of steps; each one reads a character. -/
def readGroups? : Nat → Groups → List Char → Option Groups
  | _, g, [] => some g
  | 0, _, _ => none
  | steps + 1, g, c :: cs =>
    if g.back.length = 8 then none
    else if c = ':' then
      if g.gap.isSome then none
      else readGroups? steps ⟨0 :: g.back, some (g.back.length + 1)⟩ cs
    else
      let digits := ((c :: cs).take 4).takeWhile fun c => (Text.hexValue? c).isSome
      let group := (readBase? 16 digits).getD 0
      match (c :: cs).drop digits.length with
      | [] => some { g with back := group :: g.back }
      | [':'] => none
      | ':' :: rest => readGroups? steps { g with back := group :: g.back } rest
      | '.' :: _ =>
        if digits.isEmpty || 6 < g.back.length then none
        else (readLastGroups? (c :: cs)).map fun last => { g with back := last.reverse ++ g.back }
      | _ => none

/-- All eight groups: zeros are put where a run of them was left out. -/
def Groups.all? (g : Groups) : Option (List Nat) :=
  let groups := g.back.reverse
  match g.gap with
  | some k => some (groups.take k ++ List.replicate (8 - groups.length) 0 ++ groups.drop k)
  | none => if groups.length = 8 then some groups else none

/-- Reads an address of eight groups. -/
def readLongAddress? (cs : List Char) : Option (List Nat) :=
  let start : Option (Groups × List Char) := match cs with
    | [_] => none
    | ':' :: ':' :: rest => some (⟨[0], some 1⟩, rest)
    | ':' :: _ => none
    | [] => none
    | cs => some ({}, cs)
  start.bind fun (g, rest) => (readGroups? (rest.length + 1) g rest).bind Groups.all?

/-- The number of zeros in front. -/
def zerosInFront (groups : List Nat) : Nat :=
  (groups.takeWhile (· = 0)).length

/-- The place and the length of the first of the longest runs of zeros. -/
def longestRun (groups : List Nat) : Nat × Nat :=
  let runs := (List.range groups.length).map fun i => (i, zerosInFront (groups.drop i))
  runs.foldl (fun best run => if best.2 < run.2 then run else best) (0, 0)

/-- Groups with colons between them. -/
def groupChars (groups : List Nat) : List Char :=
  [':'].intercalate (groups.map Text.hexDigits)

/-- An address of eight groups in brackets. The longest run of at least two zeros is left out. -/
def longAddressChars (groups : List Nat) : List Char :=
  let (start, length) := longestRun groups
  let inner := if length < 2 then groupChars groups
    else groupChars (groups.take start) ++ [':', ':'] ++ groupChars (groups.drop (start + length))
  '[' :: inner ++ [']']

end AlertRelay.Url
