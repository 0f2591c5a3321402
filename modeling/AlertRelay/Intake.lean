import AlertRelay.Record.Reader
import AlertRelay.Text.Split
import AlertRelay.Text.Utf8

/-!
# Records from lines of input

Every line of the input that is not blank should hold a record. A line that does not is skipped, and
a line that is not text ends the reading.
-/

namespace AlertRelay

/-- What was read: the records in their order, why lines were skipped, and why the reading ended
early if it did. -/
structure Intake where
  accepted : List EventRecord := []
  skipped : List ReadFault := []
  fault : Option Utf8.Fault := none

namespace Intake

/-- Drops a line feed at the end, and with it a carriage return in front of it. -/
def dropLineEnd (line : List Char) : List Char :=
  match line.reverse with
  | '\n' :: '\r' :: rest => rest.reverse
  | '\n' :: rest => rest.reverse
  | _ => line

/-- Reads lines; the line of the given number takes the identifier `fresh` of that number if it has
none of its own. -/
def readLines (fresh : Nat → Uuid) (number : Nat) : List (List UInt8) → Intake
  | [] => {}
  | bytes :: rest =>
    match Utf8.decode bytes with
    | .error fault => { fault := some fault }
    | .ok cs =>
      let line := dropLineEnd cs
      let others := readLines fresh (number + 1) rest
      if line.all Text.isBlank then others
      else match EventRecord.read (fresh number) (String.ofList line) with
        | .ok r => { others with accepted := r :: others.accepted }
        | .error fault => { others with skipped := fault :: others.skipped }

/-- Reads the lines of some input. -/
def read (fresh : Nat → Uuid) (input : List UInt8) : Intake :=
  readLines fresh 0 (Text.byteLines input)

end Intake

end AlertRelay
