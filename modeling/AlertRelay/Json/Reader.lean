import AlertRelay.Json.Doc
import AlertRelay.Text.Digits

/-!
# Reading JSON

`Json.read` turns a text into a `Document`. The reader is a descent over the characters that gives,
with each value, what is left of the text, or nothing where a fault stopped it. Blanks are the four
of the format: space, tab, line feed and carriage return.
-/

namespace AlertRelay.Json

/-- The blanks of the format. -/
def isSpace (c : Char) : Bool :=
  c == ' ' || c == '\t' || c == '\n' || c == '\r'

/-- Drops the blanks in front. -/
def skipSpaces (cs : List Char) : List Char :=
  cs.dropWhile isSpace

/-- The number that four hexadecimal digits stand for. -/
def hexUnit? (a b c d : Char) : Option Nat := do
  let a ← Text.hexValue? a
  let b ← Text.hexValue? b
  let c ← Text.hexValue? c
  let d ← Text.hexValue? d
  return ((a * 16 + b) * 16 + c) * 16 + d

/-- The character behind a backslash that a short escape stands for. -/
def shortEscape? (c : Char) : Option Char :=
  match c with
  | '"' => some '"'
  | '\\' => some '\\'
  | '/' => some '/'
  | 'b' => some '\x08'
  | 'f' => some '\x0c'
  | 'n' => some '\n'
  | 'r' => some '\r'
  | 't' => some '\t'
  | _ => none

/-- The codes of a string up to its closing quote, and what follows it. Escapes by number are kept
as they are; control characters are not allowed. -/
def stringCodes? : List Char → Option (List Nat × List Char)
  | [] => none
  | '"' :: rest => some ([], rest)
  | '\\' :: 'u' :: a :: b :: c :: d :: rest =>
    match hexUnit? a b c d with
    | none => none
    | some n => (stringCodes? rest).map fun (codes, rest) => (n :: codes, rest)
  | '\\' :: e :: rest =>
    match shortEscape? e with
    | none => none
    | some c => (stringCodes? rest).map fun (codes, rest) => (c.toNat :: codes, rest)
  | c :: rest =>
    if c == '\\' || c.toNat < 0x20 then none
    else (stringCodes? rest).map fun (codes, rest) => (c.toNat :: codes, rest)

/-- A code for the first half of a surrogate pair. -/
def isHighSurrogate (n : Nat) : Bool :=
  0xD800 ≤ n && n < 0xDC00

/-- A code for the second half of a surrogate pair. -/
def isLowSurrogate (n : Nat) : Bool :=
  0xDC00 ≤ n && n < 0xE000

/-- The characters for some codes, unless half of a surrogate pair stands alone. -/
def charsOfCodes? : List Nat → Option (List Char)
  | [] => some []
  | n :: rest =>
    if isHighSurrogate n then
      match rest with
      | m :: rest =>
        if isLowSurrogate m then
          let code := 0x10000 + (n - 0xD800) * 0x400 + (m - 0xDC00)
          (charsOfCodes? rest).map (Char.ofNat code :: ·)
        else none
      | [] => none
    else if isLowSurrogate n then none
    else (charsOfCodes? rest).map (Char.ofNat n :: ·)

/-- A string behind its opening quote. -/
def readString? (cs : List Char) : Option (Option String × List Char) :=
  (stringCodes? cs).map fun (codes, rest) => ((charsOfCodes? codes).map String.ofList, rest)

/-- The digits of a significand as a number of at most 64 bits and a power of ten. Digits of the
whole part that no longer fit count as zeros, digits of the fraction that no longer fit are
dropped. -/
def significand (whole fraction : List Char) : Nat × Int :=
  let fits (n : Nat) (c : Char) : Bool := 10 * n + Text.digitValue c ≤ Number.greatest
  let rec wholePart : Nat → List Char → Nat × Int
    | n, [] => (n, 0)
    | n, c :: rest =>
      if fits n c then wholePart (10 * n + Text.digitValue c) rest else (n, rest.length + 1)
  let rec fractionPart : Nat → Int → List Char → Nat × Int
    | n, e, [] => (n, e)
    | n, e, c :: rest =>
      if fits n c then fractionPart (10 * n + Text.digitValue c) (e - 1) rest else (n, e)
  let (n, e) := wholePart 0 whole
  fractionPart n e fraction

/-- The number with the given digits; `exponent` is `none` for a numeral without one. -/
def numberOf (negative : Bool) (whole fraction : List Char) (exponent : Option Int) : Number :=
  let value := Text.digitsValue whole
  if fraction.isEmpty && exponent.isNone && !negative && value ≤ Number.greatest then
    .integer value
  else if fraction.isEmpty && exponent.isNone && negative && 0 < value &&
      value ≤ Number.leastSize then
    .integer (-value)
  else
    let (n, e) := significand whole fraction
    match Binary64.ofDecimal? n (e + exponent.getD 0) with
    | some x => .real negative x
    | none => .tooLarge

/-- The exponent behind its letter: an optional sign and at least one digit. -/
def readExponent? (cs : List Char) : Option (Int × List Char) :=
  let (negative, cs) := match cs with
    | '+' :: rest => (false, rest)
    | '-' :: rest => (true, rest)
    | _ => (false, cs)
  let digits := cs.takeWhile Text.isDigit
  if digits.isEmpty then none
  else
    let n : Int := Text.digitsValue digits
    some (if negative then -n else n, cs.dropWhile Text.isDigit)

/-- The exponent at the head of the text, if there is one. -/
def readOptionalExponent? (cs : List Char) : Option (Option Int × List Char) :=
  match cs with
  | 'e' :: rest => (readExponent? rest).map fun (e, rest) => (some e, rest)
  | 'E' :: rest => (readExponent? rest).map fun (e, rest) => (some e, rest)
  | _ => some (none, cs)

/-- A number without its sign: a whole part without superfluous zeros, then optional parts. -/
def readUnsigned? (negative : Bool) (cs : List Char) : Option (Number × List Char) :=
  let whole := cs.takeWhile Text.isDigit
  let rest := cs.dropWhile Text.isDigit
  if whole.isEmpty || (whole.head? == some '0' && 1 < whole.length) then none
  else
    match rest with
    | '.' :: rest =>
      let fraction := rest.takeWhile Text.isDigit
      if fraction.isEmpty then none
      else (readOptionalExponent? (rest.dropWhile Text.isDigit)).map fun (e, rest) =>
        (numberOf negative whole fraction e, rest)
    | _ => (readOptionalExponent? rest).map fun (e, rest) => (numberOf negative whole [] e, rest)

/-- A number. -/
def readNumber? : List Char → Option (Number × List Char)
  | '-' :: rest => readUnsigned? true rest
  | cs => readUnsigned? false cs

/-- A value that is one of the three words of the format. -/
def readWord (word : List Char) (value : Doc) (cs : List Char) : Doc × Option (List Char) :=
  if word.isPrefixOf cs then (value, some (cs.drop word.length)) else (.broken, none)

mutual

/-- The value at the head of a text and what is left, if it is whole. -/
def readValue : Nat → List Char → Doc × Option (List Char)
  | 0, _ => (.broken, none)
  | fuel + 1, cs =>
    match skipSpaces cs with
    | [] => (.broken, none)
    | '"' :: rest =>
      match readString? rest with
      | some (s, rest) => (.text s, some rest)
      | none => (.broken, none)
    | '[' :: rest =>
      match skipSpaces rest with
      | ']' :: rest => (.array [] true, some rest)
      | _ =>
        let (items, rest) := readItems fuel rest
        (.array items rest.isSome, rest)
    | '\x7b' :: rest =>
      match skipSpaces rest with
      | '\x7d' :: rest => (.object [] true, some rest)
      | _ =>
        let (members, rest) := readMembers fuel rest
        (.object members rest.isSome, rest)
    | 'n' :: rest => readWord ['u', 'l', 'l'] .null rest
    | 't' :: rest => readWord ['r', 'u', 'e'] (.bool true) rest
    | 'f' :: rest => readWord ['a', 'l', 's', 'e'] (.bool false) rest
    | cs =>
      match readNumber? cs with
      | some (n, rest) => (.number n, some rest)
      | none => (.broken, none)

/-- One or more items of an array and what is left behind its bracket. -/
def readItems : Nat → List Char → List Doc × Option (List Char)
  | 0, _ => ([.broken], none)
  | fuel + 1, cs =>
    match readValue fuel cs with
    | (item, none) => ([item], none)
    | (item, some rest) =>
      match skipSpaces rest with
      | ']' :: rest => ([item], some rest)
      | ',' :: rest =>
        let (items, rest) := readItems fuel rest
        (item :: items, rest)
      | _ => ([item], none)

/-- One or more members of an object and what is left behind its brace. -/
def readMembers : Nat → List Char → List (Option String × Doc) × Option (List Char)
  | 0, _ => ([], none)
  | fuel + 1, cs =>
    match skipSpaces cs with
    | '"' :: rest =>
      match readString? rest with
      | none => ([], none)
      | some (name, rest) =>
        match skipSpaces rest with
        | ':' :: rest =>
          match readValue fuel rest with
          | (value, none) => ([(name, value)], none)
          | (value, some rest) =>
            match skipSpaces rest with
            | '\x7d' :: rest => ([(name, value)], some rest)
            | ',' :: rest =>
              let (members, rest) := readMembers fuel rest
              ((name, value) :: members, rest)
            | _ => ([(name, value)], none)
        | _ => ([(name, .broken)], none)
    | _ => ([], none)

end

/-- The document that a list of characters holds. Every value or item takes at least one character,
so the descent needs no more steps than twice their number. -/
def readChars (cs : List Char) : Document :=
  let (root, rest) := readValue (2 * cs.length + 2) cs
  ⟨root, (rest.map fun r => (skipSpaces r).isEmpty).getD false⟩

/-- The document that a text holds. -/
def read (s : String) : Document :=
  readChars s.toList

end AlertRelay.Json
