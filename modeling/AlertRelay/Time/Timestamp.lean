import AlertRelay.Text.Blank
import AlertRelay.Text.Digits
import AlertRelay.Time.Date

/-!
# Timestamps

A `Timestamp` is a date and time of day in UTC, down to the nanosecond; its second is 60 in a leap
second. `Timestamp.text` writes it in the form of RFC 3339, and `Timestamp.read?` reads that form
with any offset, and rather more: blanks may stand in front of every number and separator, years
may have a sign and any number of digits, and the other numbers may have one digit.
-/

namespace AlertRelay

/-- Seconds in a day. -/
def secondsPerDay : Nat := 86400

/-- How many seconds the clocks of a place are ahead of UTC: less than a day in either direction. -/
structure Offset where
  seconds : Int
  natAbs_lt : seconds.natAbs < secondsPerDay := by decide
  deriving DecidableEq, Repr

/-- The offset of UTC. -/
def Offset.utc : Offset := ⟨0, by decide⟩

/-- A sign, hours and minutes, and seconds if there are any, with colons between them. -/
def Offset.chars (o : Offset) : List Char :=
  let n := o.seconds.natAbs
  (if o.seconds < 0 then '-' else '+') :: Text.padded 2 (n / 3600) ++
    ':' :: Text.padded 2 (n / 60 % 60) ++ if n % 60 = 0 then [] else ':' :: Text.padded 2 (n % 60)

/-- A date and time of day in UTC. -/
structure Timestamp where
  date : Date
  hour : Nat
  minute : Nat
  second : Nat
  nanos : Nat
  deriving DecidableEq, Repr

namespace Timestamp

/-- The instant that computers count from. -/
def epoch : Timestamp := ⟨Date.epoch, 0, 0, 0, 0⟩

instance : Inhabited Timestamp := ⟨epoch⟩

/-! ## Writing -/

/-- A year: four digits, behind a sign if it is not one of the years 0 to 9999. -/
def yearChars (year : Int) : List Char :=
  if 0 ≤ year && year ≤ 9999 then Text.padded 4 year.toNat
  else (if year < 0 then '-' else '+') :: Text.padded 4 year.natAbs

/-- Year, month and day with hyphens between them. -/
def dateChars (d : Date) : List Char :=
  yearChars d.year ++ '-' :: Text.padded 2 d.month ++ '-' :: Text.padded 2 d.day

/-- Hour, minute and second with colons between them. -/
def clockChars (t : Timestamp) : List Char :=
  Text.padded 2 t.hour ++ ':' :: Text.padded 2 t.minute ++ ':' :: Text.padded 2 t.second

/-- A fraction of a second in three, six or nine digits, the fewest that are exact. -/
def fractionChars (nanos : Nat) : List Char :=
  if nanos = 0 then []
  else if nanos % 1000000 = 0 then '.' :: Text.padded 3 (nanos / 1000000)
  else if nanos % 1000 = 0 then '.' :: Text.padded 6 (nanos / 1000)
  else '.' :: Text.padded 9 nanos

/-- The form of RFC 3339, as characters. -/
def chars (t : Timestamp) : List Char :=
  dateChars t.date ++ 'T' :: clockChars t ++ fractionChars t.nanos ++ ['Z']

/-- The form of RFC 3339. -/
def text (t : Timestamp) : String :=
  String.ofList t.chars

/-- What clocks show that are ahead of UTC. The second 60 of a leap second is the one behind the 59
that it follows. -/
def atOffset (t : Timestamp) (o : Offset) : Timestamp :=
  let seconds := (t.hour * 3600 + t.minute * 60 + min t.second 59 : Nat) + o.seconds
  let date :=
    if seconds < 0 then t.date.previous
    else if secondsPerDay ≤ seconds then t.date.next else t.date
  let seconds := (seconds % secondsPerDay).toNat
  ⟨date, seconds / 3600, seconds / 60 % 60, seconds % 60 + (t.second - 59), t.nanos⟩

/-- The form for readers in a place: date, time of day to the second, and the offset. -/
def longText (t : Timestamp) (o : Offset) : String :=
  let shown := t.atOffset o
  String.ofList (dateChars shown.date ++ ' ' :: clockChars shown ++ ' ' :: o.chars)

/-! ## Reading -/

/-- Drops the blanks in front. -/
def skipBlanks (cs : List Char) : List Char :=
  cs.dropWhile Text.isBlank

/-- A number of one to `width` digits, behind blanks. -/
def readNumber? (width : Nat) (cs : List Char) : Option (Nat × List Char) :=
  let cs := skipBlanks cs
  let digits := (cs.take width).takeWhile Text.isDigit
  if digits.isEmpty then none else some (Text.digitsValue digits, cs.drop digits.length)

/-- A year, behind blanks: up to four digits, or any number of them behind a sign. -/
def readYear? (cs : List Char) : Option (Int × List Char) :=
  match skipBlanks cs with
  | '-' :: rest => signed (-1) rest
  | '+' :: rest => signed 1 rest
  | cs => (readNumber? 4 cs).map fun (n, rest) => ((n : Int), rest)
where
  /-- The digits behind the sign of a year; no blank may stand between them. -/
  signed (sign : Int) (cs : List Char) : Option (Int × List Char) :=
    let digits := cs.takeWhile Text.isDigit
    if digits.isEmpty then none
    else some (sign * Text.digitsValue digits, cs.dropWhile Text.isDigit)

/-- A separator, behind blanks. -/
def readSeparator? (c : Char) (cs : List Char) : Option (List Char) :=
  match skipBlanks cs with
  | d :: rest => if d = c then some rest else none
  | [] => none

/-- The nanoseconds that the digits of a fraction stand for. Digits past the ninth are dropped. -/
def fractionValue (digits : List Char) : Nat :=
  Text.digitsValue (digits.take 9) * Nat.pow 10 (9 - digits.length)

/-- An optional fraction: a point and at least one digit. -/
def readFraction? : List Char → Option (Nat × List Char)
  | '.' :: rest =>
    let digits := rest.takeWhile Text.isDigit
    if digits.isEmpty then none else some (fractionValue digits, rest.dropWhile Text.isDigit)
  | cs => some (0, cs)

/-- The two digits and the two digits of an offset, in minutes. Colons and blanks may stand between
them. -/
def readOffsetDigits? : List Char → Option (Nat × List Char)
  | a :: b :: rest =>
    if Text.isDigit a && Text.isDigit b then
      match rest.dropWhile fun c => c == ':' || Text.isBlank c with
      | c :: d :: rest =>
        if Text.isDigit c && Text.isDigit d && c ≤ '5' then
          some (Text.digitsValue [a, b] * 60 + Text.digitsValue [c, d], rest)
        else none
      | _ => none
    else none
  | _ => none

/-- A letter that is the given upper-case one in either case. -/
def isLetter (upper c : Char) : Bool :=
  c == upper || c == upper.toLower

/-- An offset in minutes: `Z`, `UTC`, or a sign and digits. -/
def readOffset? (cs : List Char) : Option (Int × List Char) :=
  match cs with
  | '+' :: rest => (readOffsetDigits? rest).map fun (n, rest) => ((n : Int), rest)
  | '-' :: rest => (readOffsetDigits? rest).map fun (n, rest) => (-(n : Int), rest)
  | '\u2212' :: rest => (readOffsetDigits? rest).map fun (n, rest) => (-(n : Int), rest)
  | 'Z' :: rest => some (0, rest)
  | 'z' :: rest => some (0, rest)
  | u :: t :: c :: rest =>
    if isLetter 'U' u && isLetter 'T' t && isLetter 'C' c then some (0, rest) else none
  | _ => none

/-- Minutes in a day. -/
def minutesPerDay : Int := 1440

/-- The time in UTC of a local date and time of day with an offset of so many minutes, if its date
is in the range. -/
def ofLocal? (date : Date) (hour minute second nanos : Nat) (offset : Int) : Option Timestamp :=
  let minutes := (hour * 60 + minute : Int) - offset
  let date :=
    if minutes < 0 then date.previous else if minutesPerDay ≤ minutes then date.next else date
  let minutes := (minutes % minutesPerDay).toNat
  if date.isValid then some ⟨date, minutes / 60, minutes % 60, second, nanos⟩ else none

/-- Reads a date and time of day with an offset. -/
def readChars? (cs : List Char) : Option Timestamp := do
  let (year, cs) ← readYear? cs
  let cs ← readSeparator? '-' cs
  let (month, cs) ← readNumber? 2 cs
  let cs ← readSeparator? '-' cs
  let (day, cs) ← readNumber? 2 cs
  let cs ← match cs with
    | 'T' :: rest => some rest
    | 't' :: rest => some rest
    | ' ' :: rest => some rest
    | _ => none
  let (hour, cs) ← readNumber? 2 cs
  let cs ← readSeparator? ':' cs
  let (minute, cs) ← readNumber? 2 cs
  let cs ← readSeparator? ':' cs
  let (second, cs) ← readNumber? 2 cs
  let (nanos, cs) ← readFraction? cs
  let (offset, cs) ← readOffset? (skipBlanks cs)
  let date : Date := ⟨year, month, day⟩
  if date.isValid && hour < 24 && minute < 60 && second ≤ 60 && offset.natAbs < minutesPerDay.toNat
      && (skipBlanks cs).isEmpty then
    ofLocal? date hour minute second nanos offset
  else none

/-- Reads a date and time of day with an offset. -/
def read? (s : String) : Option Timestamp :=
  readChars? s.toList

end Timestamp

end AlertRelay
