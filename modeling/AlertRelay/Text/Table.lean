import AlertRelay.Text.Digits

/-!
# Tables of characters

Data about many characters is kept as a text: rows with spaces or line ends between them, each of
them hexadecimal numbers with commas between them. `Table.rows` reads such a text. Where the rows
are ranges, a row holds the first and the last code of a range, and perhaps more about it.
-/

namespace AlertRelay.Text

/-- Rows of numbers. -/
abbrev Table := List (List Nat)

namespace Table

/-- A table that is read: the rows, the row and the number so far, rows and row in reverse. -/
structure Partial where
  rows : List (List Nat) := []
  row : List Nat := []
  number : Option Nat := none

/-- Ends the number, if there is one. -/
def Partial.endNumber (p : Partial) : Partial :=
  { p with row := p.number.toList ++ p.row, number := none }

/-- Ends the row, if there is one. -/
def Partial.endRow (p : Partial) : Partial :=
  let p := p.endNumber
  if p.row.isEmpty then p else { rows := p.row.reverse :: p.rows }

/-- Reads a character. -/
def Partial.next (p : Partial) (c : Char) : Partial :=
  match hexValue? c with
  | some d => { p with number := some (16 * p.number.getD 0 + d) }
  | none => if c = ',' then p.endNumber else p.endRow

/-- The table that a text stands for. -/
def rows (text : String) : Table :=
  (text.toList.foldl Partial.next {}).endRow.rows.reverse

/-- Whether a row is a range that holds a character. -/
def holds (c : Char) : List Nat → Bool
  | first :: last :: _ => first ≤ c.toNat && c.toNat ≤ last
  | _ => false

/-- The row of ranges that holds a character. -/
def row? (t : Table) (c : Char) : Option (List Nat) :=
  List.find? (holds c) t

/-- Whether one of some ranges holds a character. -/
def contains (t : Table) (c : Char) : Bool :=
  List.any t (holds c)

end Table

end AlertRelay.Text
