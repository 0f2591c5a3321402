import AlertRelay.Json.Doc
import AlertRelay.Number.Shortest
import AlertRelay.Text.Quoted

/-!
# What was found and what was wanted

A reader that meets a value of the wrong kind says what it found. `Found.ofDoc?` names the kind of
a value; it is `none` for a value at fault, of which only that can be said.
-/

namespace AlertRelay.Json

/-- The kind of a value, with the value itself if it is a small one. -/
inductive Found where
  | null
  | bool (value : Bool)
  | integer (value : Int)
  | real (negative : Bool) (magnitude : Binary64)
  | text (value : String)
  | sequence
  | map
  deriving DecidableEq, Repr

/-- The words for what was found. -/
def Found.message : Found → String
  | .null => "null"
  | .bool true => "boolean `true`"
  | .bool false => "boolean `false`"
  | .integer n => s!"integer `{n}`"
  | .real negative x => s!"floating point `{x.decimalText negative}`"
  | .text s => s!"string {Text.quote s}"
  | .sequence => "sequence"
  | .map => "map"

/-- The kind of a value, unless the value is at fault. Arrays and objects are known by their opening
bracket. -/
def Found.ofDoc? : Doc → Option Found
  | .null => some .null
  | .bool b => some (.bool b)
  | .number (.integer n) => some (.integer n)
  | .number (.real negative x) => some (.real negative x)
  | .number .tooLarge => none
  | .text (some s) => some (.text s)
  | .text none => none
  | .array _ _ => some .sequence
  | .object _ _ => some .map
  | .broken => none

end AlertRelay.Json
