import AlertRelay.Text.Digits
import AlertRelay.Text.Hidden

/-!
# Quoted text

`quote` writes a text between double quotes so that it stays on one line and can be told from its
surroundings: a quote or a backslash gets a backslash in front, the four common control characters
have short escapes, and every other hidden character is written as its hexadecimal code in braces.
-/

namespace AlertRelay.Text

/-- The written form of one character of quoted text. -/
def quoteChar (c : Char) : List Char :=
  if c = '\x00' then ['\\', '0']
  else if c = '\t' then ['\\', 't']
  else if c = '\r' then ['\\', 'r']
  else if c = '\n' then ['\\', 'n']
  else if c = '"' then ['\\', '"']
  else if c = '\\' then ['\\', '\\']
  else if isHidden c then ['\\', 'u', '\x7b'] ++ hexDigits c.toNat ++ ['\x7d']
  else [c]

/-- The quoted form of a list of characters. -/
def quoteChars (cs : List Char) : List Char :=
  '"' :: (cs.flatMap quoteChar ++ ['"'])

/-- The quoted form of a text. -/
def quote (s : String) : String :=
  String.ofList (quoteChars s.toList)

end AlertRelay.Text
