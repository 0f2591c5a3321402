/-!
# Identifiers

A `Uuid` is 32 hexadecimal digits. It is written with hyphens, in lower case, and read in either
case, without hyphens or with them, and then also in braces or behind `urn:uuid:`.
-/

namespace AlertRelay

/-- A hexadecimal digit in lower case. -/
def isLowerHex (c : Char) : Bool :=
  ('0' ≤ c && c ≤ '9') || ('a' ≤ c && c ≤ 'f')

/-- A universally unique identifier. -/
structure Uuid where
  digits : List Char
  size_eq : digits.length = 32
  isHex : digits.all isLowerHex = true
  deriving DecidableEq

namespace Uuid

/-- The identifier of 32 digits, if that is what they are. -/
def ofDigits? (cs : List Char) : Option Uuid :=
  let digits := cs.map Char.toLower
  if h : digits.length = 32 ∧ digits.all isLowerHex = true then some ⟨digits, h.1, h.2⟩ else none

/-- The identifier of zeros. -/
def nil : Uuid := ⟨List.replicate 32 '0', by decide, by decide⟩

/-- The identifier of 32 digits that are all `f`. -/
def max : Uuid := ⟨List.replicate 32 'f', by decide, by decide⟩

instance : Inhabited Uuid := ⟨nil⟩

/-- The lengths of the groups between the hyphens. -/
def groups : List Nat := [8, 4, 4, 4, 12]

/-- Digits with hyphens between groups of the given lengths. -/
def hyphenate : List Nat → List Char → List Char
  | [], cs => cs
  | [_], cs => cs
  | n :: ns, cs => cs.take n ++ '-' :: hyphenate ns (cs.drop n)

/-- The written form, as characters. -/
def chars (u : Uuid) : List Char :=
  hyphenate groups u.digits

/-- The written form. -/
def text (u : Uuid) : String :=
  String.ofList u.chars

/-- The digits of groups of the given lengths with hyphens between them. -/
def dehyphenate? : List Nat → List Char → Option (List Char)
  | [], cs => some cs
  | [_], cs => some cs
  | n :: ns, cs =>
    match cs.drop n with
    | '-' :: rest => (dehyphenate? ns rest).map (cs.take n ++ ·)
    | _ => none

/-- Reads the form with hyphens. -/
def readHyphenated? (cs : List Char) : Option Uuid :=
  if cs.length = 36 then (dehyphenate? groups cs).bind ofDigits? else none

/-- What stands in front of an identifier in a name, in either case. -/
def urn : List Char := ['u', 'r', 'n', ':', 'u', 'u', 'i', 'd', ':']

/-- Reads any of the four forms. -/
def readChars? (cs : List Char) : Option Uuid :=
  if cs.length = 32 then ofDigits? cs
  else if cs.length = 36 then readHyphenated? cs
  else if cs.length = 38 && cs.head? == some '\x7b' && cs.getLast? == some '\x7d' then
    readHyphenated? ((cs.drop 1).take 36)
  else if cs.length = 45 && urn.isPrefixOf (cs.map Char.toLower) then readHyphenated? (cs.drop 9)
  else none

/-- Reads any of the four forms. -/
def read? (s : String) : Option Uuid :=
  readChars? s.toList

end Uuid

end AlertRelay
