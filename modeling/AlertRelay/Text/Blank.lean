/-!
# Blank characters

A character is blank when it has the Unicode property White_Space. `trim` drops the blanks at both
ends of a text, and a text is blank when nothing is left. A zero-width space or a byte order mark
is not blank.
-/

namespace AlertRelay.Text

/-- The characters with the property White_Space. -/
def isBlank (c : Char) : Bool :=
  let n := c.toNat
  (0x09 ≤ n && n ≤ 0x0D) || n == 0x20 || n == 0x85 || n == 0xA0 || n == 0x1680 ||
    (0x2000 ≤ n && n ≤ 0x200A) || n == 0x2028 || n == 0x2029 || n == 0x202F || n == 0x205F ||
    n == 0x3000

/-- Drops the blanks at the end of a list of characters. -/
def dropTrailingBlanks : List Char → List Char
  | [] => []
  | c :: rest =>
    match dropTrailingBlanks rest with
    | [] => if isBlank c then [] else [c]
    | kept => c :: kept

/-- Drops the blanks at both ends of a list of characters. -/
def trimChars (cs : List Char) : List Char :=
  dropTrailingBlanks (cs.dropWhile isBlank)

/-- Drops the blanks at both ends of a text. -/
def trim (s : String) : String :=
  String.ofList (trimChars s.toList)

/-- A text of blanks only, or the empty text. -/
def isBlankText (s : String) : Bool :=
  s.toList.all isBlank

/-- The given text unless it is missing or blank. -/
def nonBlank (s : Option String) : Option String :=
  s.filter fun t => !isBlankText t

end AlertRelay.Text
