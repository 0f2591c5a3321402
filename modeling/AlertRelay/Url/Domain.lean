import AlertRelay.Text.Composed
import AlertRelay.Text.Direction
import AlertRelay.Text.Joining
import AlertRelay.Text.Split
import AlertRelay.Url.Mapping
import AlertRelay.Url.Punycode

/-!
# Domains

A domain is a row of labels with points between them. Machines know domains in ASCII alone, and
`Domain.toAscii?` brings a domain to that form: every character is mapped, the text is composed, and
every label with characters beyond ASCII is written in Punycode behind `xn--`. A label that is
written so already must be what would be written. Labels must not begin with a mark, joiners must be
in place, and directions must be clear. Of the characters of ASCII those that delimit the parts of a
URL, spaces and control characters are forbidden.
-/

namespace AlertRelay.Url

/-- A label as it is shown and as it is written. -/
structure Label where
  shown : List Char
  written : List Char
  deriving DecidableEq, Repr

namespace Label

/-- What stands in front of Punycode. -/
def punycodeMark : List Char := "xn--".toList

/-- The greatest length of a label that is written in Punycode. -/
def shownLimit : Nat := 1000

/-- The greatest length of the Punycode of a label. -/
def writtenLimit : Nat := 2000

/-- Whether labels may look like that. -/
def isProper (cs : List Char) : Bool :=
  !cs.head?.any Text.isMark && Text.joinersFit cs && cs.length ≤ shownLimit

/-- Whether nothing changes when a text is mapped and composed. -/
def isNormal (cs : List Char) : Bool :=
  cs.all (fun c => mapChar? c == some [c]) && Text.compose cs == cs

/-- Reads a label behind the mark of Punycode. It must have a character beyond ASCII. -/
def ofPunycode? (code : List Char) : Option Label :=
  if code.any (!isAscii ·) || code.getLast? == some '-' || writtenLimit < code.length then none
  else (Punycode.decode? code).bind fun cs =>
    if cs.all isAscii || punycodeMark.isPrefixOf cs || !isNormal cs || !isProper cs then none
    else some ⟨cs, punycodeMark ++ code⟩

/-- Reads a label of mapped and composed text. -/
def read? (cs : List Char) : Option Label :=
  if punycodeMark.isPrefixOf cs then ofPunycode? (cs.drop punycodeMark.length)
  else if cs.all isAscii then some ⟨cs, cs⟩
  else if isProper cs then some ⟨cs, punycodeMark ++ Punycode.encode cs⟩
  else none

end Label

namespace Domain

/-- A character of ASCII that no domain can have. -/
def isForbidden (c : Char) : Bool :=
  c.toNat ≤ 0x20 || c == '%' || c == '#' || c == '/' || c == ':' || c == '<' || c == '>' ||
    c == '?' || c == '@' || c == '[' || c == '\\' || c == ']' || c == '^' || c == '|' ||
    c == '\x7f'

/-- The mapped and composed form of a text. -/
def normalize? (cs : List Char) : Option (List Char) :=
  if cs.all isAscii then some (cs.map Char.toLower)
  else (cs.mapM mapChar?).map fun mapped => Text.compose mapped.flatten

/-- The form of a domain in ASCII. -/
def toAscii? (cs : List Char) : Option (List Char) := do
  let labels ← (Text.splitChars '.' (← normalize? cs)).mapM Label.read?
  let written := ['.'].intercalate (labels.map Label.written)
  if Text.directionsFit (labels.map Label.shown) && !written.any isForbidden then return written
  else none

end Domain

end AlertRelay.Url
