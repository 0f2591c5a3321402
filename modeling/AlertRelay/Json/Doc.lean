import AlertRelay.Number.Binary64

/-!
# JSON texts as far as they are well-formed

A `Doc` is what a reader meets when it goes through a JSON text from left to right. Up to the first
fault it is the value that the text stands for; the fault itself is a `broken` value, or an array
or object that is not closed. Nothing behind a fault is kept, so a reader that takes the parts of a
`Doc` in order finds the same error first as one that reads the characters.

Two things are at fault only for a reader that needs them: a string with half of a surrogate pair,
which stands for no text, and a number too large for any value.
-/

namespace AlertRelay.Json

/-- A number: an integer of at most 64 bits, signed or not, or a real number. A minus sign in front
of zero makes a real number. -/
inductive Number where
  | integer (value : Int)
  | real (negative : Bool) (magnitude : Binary64)
  | tooLarge
  deriving DecidableEq, Repr

/-- A JSON text up to its first fault. The text of a string is `none` if it holds half of a
surrogate pair; `closed` says that an array or object is read to its closing bracket. -/
inductive Doc where
  | null
  | bool (value : Bool)
  | number (value : Number)
  | text (value : Option String)
  | array (items : List Doc) (closed : Bool)
  | object (members : List (Option String × Doc)) (closed : Bool)
  | broken
  deriving Inhabited, Repr

/-- The largest integer that is kept as an integer. -/
def Number.greatest : Nat := Nat.pow 2 64 - 1

/-- The size of the least integer that is kept as an integer. -/
def Number.leastSize : Nat := Nat.pow 2 63

/-- Whether a value is read to its end without a fault. A fault inside an array or object keeps it
from being closed, so its parts need not be looked at. -/
def Doc.isWhole : Doc → Bool
  | .array _ closed => closed
  | .object _ closed => closed
  | .broken => false
  | _ => true

/-- A whole JSON text: its value, and whether nothing but blanks follows it. -/
structure Document where
  root : Doc
  ended : Bool
  deriving Inhabited, Repr

end AlertRelay.Json
