import AlertRelay.Text.Digits
import AlertRelay.Text.Utf8

/-!
# Percent encoding

In a URL a character that would be misread is written as the bytes of its UTF-8 form, each as a
percent sign and two hexadecimal digits. Which characters these are depends on the part of the URL;
characters beyond ASCII and control characters always are among them.
-/

namespace AlertRelay.Url

/-- Control characters and everything beyond ASCII. -/
def isControlOrWide (c : Char) : Bool :=
  c.toNat < 0x20 || 0x7F ≤ c.toNat

/-- What is encoded in a fragment. -/
def inFragmentSet (c : Char) : Bool :=
  isControlOrWide c || c == ' ' || c == '"' || c == '<' || c == '>' || c == '\x60'

/-- What is encoded in a query. -/
def inQuerySet (c : Char) : Bool :=
  isControlOrWide c || c == ' ' || c == '"' || c == '#' || c == '<' || c == '>'

/-- What is encoded in the query of a special scheme. -/
def inSpecialQuerySet (c : Char) : Bool :=
  inQuerySet c || c == '\''

/-- What is encoded in a path. -/
def inPathSet (c : Char) : Bool :=
  inFragmentSet c || c == '#' || c == '?' || c == '\x7b' || c == '\x7d'

/-- What is encoded in a user name or a password. -/
def inUserSet (c : Char) : Bool :=
  inPathSet c || c == '/' || c == ':' || c == ';' || c == '=' || c == '@' || c == '[' ||
    c == '\\' || c == ']' || c == '^' || c == '|'

namespace Percent

/-- A percent sign and the two upper-case hexadecimal digits of a byte. -/
def encodeByte (b : UInt8) : List Char :=
  ['%', (Nat.digitChar (b.toNat / 16)).toUpper, (Nat.digitChar (b.toNat % 16)).toUpper]

/-- Encodes the characters of a set. -/
def encode (set : Char → Bool) (cs : List Char) : List Char :=
  cs.flatMap fun c => if set c then (Utf8.encodeChar c).flatMap encodeByte else [c]

/-- The bytes that a text stands for. A percent sign without two digits behind it stands for
itself. The bytes before the text are given in reverse, and the first `skip` characters belong to
what was read before. -/
def decodeFrom (back : List UInt8) (skip : Nat) : List Char → List UInt8
  | [] => back.reverse
  | c :: rest =>
    match skip with
    | skip + 1 => decodeFrom back skip rest
    | 0 =>
      match c, rest with
      | '%', a :: b :: _ =>
        match Text.hexValue? a, Text.hexValue? b with
        | some a, some b => decodeFrom (UInt8.ofNat (16 * a + b) :: back) 2 rest
        | _, _ => decodeFrom (0x25 :: back) 0 rest
      | _, _ => decodeFrom ((Utf8.encodeChar c).reverse ++ back) 0 rest

/-- The bytes that a text stands for. -/
def decode (cs : List Char) : List UInt8 :=
  decodeFrom [] 0 cs

/-- The text that a text stands for, if its bytes are one. -/
def decodeText? (cs : List Char) : Option (List Char) :=
  (Utf8.decode (decode cs)).toOption

end Percent

end AlertRelay.Url
