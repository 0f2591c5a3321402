import AlertRelay.Url.Address
import AlertRelay.Url.Domain
import AlertRelay.Url.Percent

/-!
# Hosts

The host of a URL is a domain or an address. Schemes that always have a host take a domain for the
name of a machine and bring it to its ASCII form; with other schemes a host that is not an address
in brackets is any text without delimiters.
-/

namespace AlertRelay.Url

/-- A host. -/
inductive Host where
  | domain (name : List Char)
  | address (value : Nat)
  | longAddress (groups : List Nat)
  deriving DecidableEq, Repr

namespace Host

/-- The written form of a host. -/
def chars : Host → List Char
  | .domain name => name
  | .address value => addressChars value
  | .longAddress groups => longAddressChars groups

/-- What stands in brackets, if a text is in brackets. -/
def inBrackets? (cs : List Char) : Option (List Char) :=
  if cs.getLast? == some ']' then some (cs.drop 1).dropLast else none

/-- Reads the address of eight groups that a text in brackets is. -/
def readBrackets? (cs : List Char) : Option Host :=
  (inBrackets? cs).bind fun inner => (readLongAddress? inner).map .longAddress

/-- Reads the host of a scheme that always has one. -/
def readSpecial? (cs : List Char) : Option Host :=
  if cs.head? == some '[' then readBrackets? cs
  else do
    let name ← Domain.toAscii? (← Percent.decodeText? cs)
    if name.isEmpty then none
    else if endsInNumber name then (readAddress? name).map .address
    else return .domain name

/-- A character that no host has that is just a text. -/
def isDelimiter (c : Char) : Bool :=
  c == '\x00' || c == '\t' || c == '\n' || c == '\r' || c == ' ' || c == '#' || c == '/' ||
    c == ':' || c == '<' || c == '>' || c == '?' || c == '@' || c == '[' || c == '\\' ||
    c == ']' || c == '^' || c == '|'

/-- Reads the host of any other scheme. -/
def readOther? (cs : List Char) : Option Host :=
  if cs.head? == some '[' then readBrackets? cs
  else if cs.any isDelimiter then none
  else some (.domain (Percent.encode isControlOrWide cs))

end Host

end AlertRelay.Url
