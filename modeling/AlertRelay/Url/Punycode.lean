/-!
# Punycode

A label with characters beyond ASCII is written with ASCII alone: first its ASCII characters, then,
behind a hyphen if there were any, where the others have to be put, in the order of their codes. The
places are given as differences, each a number of variable length in 36 digits whose thresholds
follow a bias; the bias is adapted behind every number.
-/

namespace AlertRelay.Punycode

/-- The digit for a number below 36: letters first. -/
def digit (n : Nat) : Char :=
  if n < 26 then Char.ofNat ('a'.toNat + n) else Char.ofNat ('0'.toNat + (n - 26))

/-- The value of a digit. -/
def digitValue? (c : Char) : Option Nat :=
  if 'a' ≤ c && c ≤ 'z' then some (c.toNat - 'a'.toNat)
  else if 'A' ≤ c && c ≤ 'Z' then some (c.toNat - 'A'.toNat)
  else if '0' ≤ c && c ≤ '9' then some (c.toNat - '0'.toNat + 26)
  else none

/-- The threshold of a digit, from 1 to 26; `place` is 36 for the first digit of a number, 72 for
the second one, and so on. -/
def threshold (place bias : Nat) : Nat :=
  max 1 (min 26 (place - bias))

theorem threshold_pos (place bias : Nat) : 0 < threshold place bias := by
  unfold threshold
  omega

theorem threshold_le (place bias : Nat) : threshold place bias ≤ 26 := by
  unfold threshold
  omega

/-- The bias for a difference that is already scaled, and `place` so far. -/
def settle (place delta : Nat) : Nat :=
  if 455 < delta then settle (place + 36) (delta / 35)
  else place + 36 * delta / (delta + 38)
termination_by delta

/-- The bias behind a difference, when so many characters are placed now. -/
def adapt (delta placed : Nat) (isFirst : Bool) : Nat :=
  let delta := if isFirst then delta / 700 else delta / 2
  settle 0 (delta + delta / placed)

/-- The code of the first character beyond ASCII. -/
def firstCode : Nat := 128

/-- The bias of the first difference. -/
def firstBias : Nat := 72

/-! ## Writing -/

/-- The digits of a difference. -/
def numberChars (bias place n : Nat) : List Char :=
  let t := threshold place bias
  if n < t then [digit n]
  else digit (t + (n - t) % (36 - t)) :: numberChars bias (place + 36) ((n - t) / (36 - t))
termination_by n
decreasing_by
  have := threshold_pos place bias
  have := threshold_le place bias
  have : (n - threshold place bias) / (36 - threshold place bias) ≤ n - threshold place bias :=
    Nat.div_le_self ..
  omega

/-- What was written so far, in reverse, the next difference, and how many characters are placed. -/
structure Writer where
  back : List Char
  delta : Nat := 0
  bias : Nat := firstBias
  placed : Nat

/-- Passes a character of the label while characters of the code `code` are placed. -/
def Writer.pass (basic code : Nat) (w : Writer) (c : Char) : Writer :=
  if c.toNat < code then { w with delta := w.delta + 1 }
  else if c.toNat = code then
    { back := (numberChars w.bias 36 w.delta).reverse ++ w.back
      bias := adapt w.delta (w.placed + 1) (w.placed = basic)
      placed := w.placed + 1 }
  else w

/-- Places all characters of the given codes, which ascend; `next` is the code behind the last one
that was placed. -/
def Writer.place (basic : Nat) (label : List Char) : Nat → Writer → List Nat → Writer
  | _, w, [] => w
  | next, w, code :: codes =>
    let w := { w with delta := w.delta + (code - next) * (w.placed + 1) }
    let w := label.foldl (Writer.pass basic code) w
    place basic label (code + 1) { w with delta := w.delta + 1 } codes

/-- The codes beyond ASCII, ascending, each once. -/
def wideCodes (label : List Char) : List Nat :=
  let codes := ((label.map Char.toNat).filter (firstCode ≤ ·)).mergeSort
  (codes.foldr (fun code kept => if kept.head? == some code then kept else code :: kept) [])

/-- The written form of a label. -/
def encode (label : List Char) : List Char :=
  let basic := label.filter (·.toNat < firstCode)
  let start := if basic.isEmpty then [] else '-' :: basic.reverse
  let w : Writer := { back := start, placed := basic.length }
  (w.place basic.length label firstCode (wideCodes label)).back.reverse

/-! ## Reading -/

/-- The greatest weight of a digit. -/
def weightLimit : Nat := Nat.pow 2 32 - 1

/-- The label so far, the code of the last character placed, the number that is being read with the
weight and the place of its next digit, and what the number was when its first digit was read. -/
structure Reader where
  label : List Char
  code : Nat := firstCode
  number : Nat := 0
  start : Nat := 0
  bias : Nat := firstBias
  weight : Nat := 1
  place : Nat := 36

/-- Places a character: the number tells its code and its place in the label. -/
def Reader.insert? (r : Reader) (number : Nat) : Option Reader :=
  let size := r.label.length + 1
  let code := r.code + number / size
  let index := number % size
  if Nat.isValidChar code then
    some {
      label := r.label.take index ++ Char.ofNat code :: r.label.drop index
      code
      number := index + 1
      start := index + 1
      bias := adapt (number - r.start) size (r.start = 0) }
  else none

/-- Reads a digit. One that is below its threshold is the last digit of its number. -/
def Reader.next? (r : Reader) (c : Char) : Option Reader :=
  (digitValue? c).bind fun d =>
    let t := threshold r.place r.bias
    let number := r.number + d * r.weight
    let weight := r.weight * (36 - t)
    if d < t then r.insert? number
    else if weightLimit < weight then none
    else some { r with number, weight, place := r.place + 36 }

/-- Reads the written form of a label. A hyphen at its beginning ends nothing. -/
def decode? (cs : List Char) : Option (List Char) :=
  let digits := (cs.reverse.takeWhile (· != '-')).reverse
  let basic := cs.take (cs.length - digits.length - 1)
  let digits := if basic.isEmpty then cs else digits
  ((digits.foldl (fun r c => r.bind (Reader.next? · c)) (some { label := basic })).filter
    (·.place = 36)).map Reader.label

end AlertRelay.Punycode
