import AlertRelay.Text.Digits
import AlertRelay.Text.Quoted
import AlertRelay.Text.Split
import AlertRelay.Text.Utf8

/-!
# Replies of a mail server

A reply is one or more lines. Each starts with the three characters of a code; a hyphen behind the
code says that another line follows. The code of the last line counts, and the texts behind the
codes are put together. `readReply` takes one reply off the lines that a server sends.
-/

namespace AlertRelay.Smtp

/-- A line of a reply. -/
structure ReplyLine where
  code : Nat
  continues : Bool
  text : List Char
  deriving DecidableEq, Repr

/-- A whole reply. -/
structure Reply where
  code : Nat
  text : List Char
  deriving DecidableEq, Repr

/-- Why no reply can be read. -/
inductive ReplyFault where
  | closed
  | notText (fault : Utf8.Fault)
  | malformed (line : List Char)
  deriving DecidableEq, Repr

/-- The words for a reply that cannot be read. -/
def ReplyFault.message : ReplyFault → String
  | .closed => "connection closed by server"
  | .notText fault => fault.message
  | .malformed line => "malformed reply: " ++ String.ofList (Text.quoteChars line)

/-- The greatest code. -/
def codeLimit : Nat := 65535

/-- A carriage return or a line feed. -/
def isBreak (c : Char) : Bool :=
  c == '\r' || c == '\n'

/-- Drops all breaks at the end of a line. -/
def dropBreaks (line : List Char) : List Char :=
  (line.reverse.dropWhile isBreak).reverse

/-- The line with the given characters. The character behind the code is not part of the text; if it
is not an ASCII character there is no text. -/
def ReplyLine.ofChars? : List Char → Option ReplyLine
  | a :: b :: c :: rest =>
    (Text.readNumeral? codeLimit [a, b, c]).map fun code =>
      match rest with
      | [] => ⟨code, false, []⟩
      | d :: text => ⟨code, d == '-', if d.toNat < 0x80 then text else []⟩
  | _ => none

/-- Reads a line from its bytes. -/
def ReplyLine.read (bytes : List UInt8) : Except ReplyFault ReplyLine :=
  match Utf8.decode bytes with
  | .error fault => .error (.notText fault)
  | .ok cs =>
    let line := dropBreaks cs
    match ReplyLine.ofChars? line with
    | some r => .ok r
    | none => .error (.malformed line)

/-- The texts behind some lines and in front of the last one, with blanks between them. -/
def joinTexts (texts : List (List Char)) : List Char :=
  [' '].intercalate texts

/-- Takes one reply off the lines, of which some texts are read already. -/
def readReplyFrom (texts : List (List Char)) :
    List (List UInt8) → Except ReplyFault (Reply × List (List UInt8))
  | [] => .error .closed
  | bytes :: rest => do
    let line ← ReplyLine.read bytes
    let texts := texts ++ [line.text]
    if line.continues then readReplyFrom texts rest
    else .ok (⟨line.code, joinTexts texts⟩, rest)

/-- Takes one reply off the lines that a server sends, and gives what is left. -/
def readReply (lines : List (List UInt8)) : Except ReplyFault (Reply × List (List UInt8)) :=
  readReplyFrom [] lines

end AlertRelay.Smtp
