import AlertRelay.Json.Doc
import AlertRelay.Text.Quoted

/-!
# Writing JSON

A `Value` is what this library writes: there are no real numbers in it, and the members of an
object keep the order they are given in. `Value.write` gives the compact text; within a string only
the quote, the backslash and the C0 control characters are escaped. `Value.toDoc` is what a reader
gets back.
-/

namespace AlertRelay.Json

/-- A JSON value to be written. -/
inductive Value where
  | null
  | bool (value : Bool)
  | integer (value : Int)
  | text (value : String)
  | array (items : List Value)
  | object (members : List (String × Value))
  deriving Inhabited, Repr

/-- The written form of one character of a string. -/
def escapeChar (c : Char) : List Char :=
  match c with
  | '"' => ['\\', '"']
  | '\\' => ['\\', '\\']
  | '\x08' => ['\\', 'b']
  | '\t' => ['\\', 't']
  | '\n' => ['\\', 'n']
  | '\x0c' => ['\\', 'f']
  | '\r' => ['\\', 'r']
  | c =>
    if c.toNat < 0x20 then
      let digits := Text.hexDigits c.toNat
      ['\\', 'u'] ++ List.replicate (4 - digits.length) '0' ++ digits
    else [c]

/-- The written form of a string. -/
def writeString (s : String) : List Char :=
  '"' :: (s.toList.flatMap escapeChar ++ ['"'])

/-- The written form of an integer. -/
def writeInt (n : Int) : List Char :=
  if n < 0 then '-' :: Nat.toDigits 10 n.natAbs else Nat.toDigits 10 n.natAbs

mutual

/-- The compact text of a value, as characters. -/
def Value.chars : Value → List Char
  | .null => ['n', 'u', 'l', 'l']
  | .bool true => ['t', 'r', 'u', 'e']
  | .bool false => ['f', 'a', 'l', 's', 'e']
  | .integer n => writeInt n
  | .text s => writeString s
  | .array [] => ['[', ']']
  | .array (item :: items) => '[' :: (item.chars ++ Value.itemChars items ++ [']'])
  | .object [] => ['\x7b', '\x7d']
  | .object ((name, value) :: members) =>
    '\x7b' :: (writeString name ++ ':' :: value.chars ++ Value.memberChars members ++ ['\x7d'])

/-- The items behind the first one, each behind a comma. -/
def Value.itemChars : List Value → List Char
  | [] => []
  | item :: items => ',' :: (item.chars ++ Value.itemChars items)

/-- The members behind the first one, each behind a comma. -/
def Value.memberChars : List (String × Value) → List Char
  | [] => []
  | (name, value) :: members =>
    ',' :: (writeString name ++ ':' :: value.chars ++ Value.memberChars members)

end

/-- The compact text of a value. -/
def Value.write (v : Value) : String :=
  String.ofList v.chars

mutual

/-- The value as a reader meets it. -/
def Value.toDoc : Value → Doc
  | .null => .null
  | .bool b => .bool b
  | .integer n => .number (.integer n)
  | .text s => .text (some s)
  | .array items => .array (Value.itemDocs items) true
  | .object members => .object (Value.memberDocs members) true

/-- The items as a reader meets them. -/
def Value.itemDocs : List Value → List Doc
  | [] => []
  | item :: items => item.toDoc :: Value.itemDocs items

/-- The members as a reader meets them. -/
def Value.memberDocs : List (String × Value) → List (Option String × Doc)
  | [] => []
  | (name, value) :: members => (some name, value.toDoc) :: Value.memberDocs members

end

end AlertRelay.Json
