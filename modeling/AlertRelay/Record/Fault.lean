import AlertRelay.Json.Mismatch
import AlertRelay.Record.Basic

/-!
# Why a record cannot be read

A text that is not well-formed, a value of the wrong kind or out of range, a field that is missing
or given twice, an unknown name, too few or too many elements, an identifier or a timestamp that is
none, or a record with nothing to show.
-/

namespace AlertRelay

/-- The values that a reader may want. -/
inductive Wanted where
  | text
  | int32
  | sequence
  | map
  | record
  | alert
  | termination
  | uuid
  | timestamp
  | nameOrMap
  | unit
  | singleName
  deriving DecidableEq, Repr

/-- The words for what was wanted. -/
def Wanted.message : Wanted → String
  | .text => "a string"
  | .int32 => "i32"
  | .sequence => "a sequence"
  | .map => "a map"
  | .record => "struct RawEventRecord"
  | .alert => "struct AlertContext"
  | .termination => "struct SessionTerminationResult"
  | .uuid => "a formatted UUID string"
  | .timestamp => "an RFC 3339 formatted date and time string"
  | .nameOrMap => "string or map"
  | .unit => "unit"
  | .singleName => "map with a single key"

/-- Why a record cannot be read. -/
inductive ReadFault where
  /-- The text is not well-formed at the place where reading came to. -/
  | malformed
  | wrongType (found : Json.Found) (wanted : Wanted)
  | wrongValue (found : Json.Found) (wanted : Wanted)
  | missingField (name : String)
  | duplicateField (name : String)
  | unknownName (name : String) (known : List String)
  /-- The element at this index is missing from a list of `count` fields. -/
  | tooFew (index : Nat) (wanted : Wanted) (count : Nat)
  /-- A list of this length has more elements than there are fields. -/
  | tooMany (length : Nat)
  | noSummary (fault : MissingSummary)
  | badUuid
  | badTimestamp
  deriving DecidableEq, Repr

/-- A name between backticks. -/
def ticked (s : String) : String := s!"`{s}`"

/-- The names that a reader knows, in words. -/
def knownNames (names : List String) : String :=
  match names with
  | [a, b] => s!"{ticked a} or {ticked b}"
  | _ => "one of " ++ ", ".intercalate (names.map ticked)

/-- The words for a fault, where there are any: the wording of faults in the form of texts,
identifiers and timestamps is left open. -/
def ReadFault.message? : ReadFault → Option String
  | .malformed => none
  | .wrongType found wanted => some s!"invalid type: {found.message}, expected {wanted.message}"
  | .wrongValue found wanted => some s!"invalid value: {found.message}, expected {wanted.message}"
  | .missingField name => some s!"missing field {ticked name}"
  | .duplicateField name => some s!"duplicate field {ticked name}"
  | .unknownName name known => some s!"unknown variant {ticked name}, expected {knownNames known}"
  | .tooFew index wanted count =>
    some s!"invalid length {index}, expected {wanted.message} with {count} elements"
  | .tooMany length => some s!"invalid length {length}, expected fewer elements in array"
  | .noSummary fault => some fault.message
  | .badUuid => none
  | .badTimestamp => none

end AlertRelay
