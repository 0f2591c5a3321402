import AlertRelay.Json.Reader
import AlertRelay.Record.Fault
import AlertRelay.Channel

/-!
# Reading event records

A record is read from a JSON text, or from a JSON value that is already in memory. The parts are
taken in the order of the text, and the first fault wins: a part that is not well-formed, a field
that is given twice or has a value of the wrong kind. When an object ends, the first of its fields
that is missing is reported, and at the very end a record with nothing to show. Unknown fields are
passed over, whatever is in them.

Records, alerts and terminations may be given as objects or as lists of their fields; `Shape`
describes one of them, and `Shape.read` reads either form.
-/

namespace AlertRelay

/-- Where a value comes from. A list that is too long and a name that is neither a string nor an
object count as not well-formed in a text and as wrong data in a value. -/
inductive Source where
  | text
  | value
  deriving DecidableEq, Repr

/-- The result of reading. -/
abbrev ReadResult := Except ReadFault

/-- The fault for a value that is not of the wanted kind. -/
def wrongType {α : Type} (wanted : Wanted) (d : Json.Doc) : ReadResult α :=
  match Json.Found.ofDoc? d with
  | some found => .error (.wrongType found wanted)
  | none => .error .malformed

/-! ## Plain values -/

/-- Reads a string. -/
def readText (wanted : Wanted) : Json.Doc → ReadResult String
  | .text (some s) => .ok s
  | d => wrongType wanted d

/-- Reads a string or null. -/
def readOptionalText : Json.Doc → ReadResult (Option String)
  | .null => .ok none
  | d => (readText .text d).map some

/-- The least and the greatest number of 32 bits. -/
def int32Range : Int × Int := (-2147483648, 2147483647)

/-- Reads a number of 32 bits. -/
def readInt32 : Json.Doc → ReadResult Int
  | .number (.integer n) =>
    if int32Range.1 ≤ n ∧ n ≤ int32Range.2 then .ok n
    else .error (.wrongValue (.integer n) .int32)
  | d => wrongType .int32 d

/-- Reads an identifier. -/
def readUuid (d : Json.Doc) : ReadResult Uuid := do
  match Uuid.read? (← readText .uuid d) with
  | some u => .ok u
  | none => .error .badUuid

/-- Reads a timestamp. -/
def readTimestamp (d : Json.Doc) : ReadResult Timestamp := do
  match Timestamp.read? (← readText .timestamp d) with
  | some t => .ok t
  | none => .error .badTimestamp

/-- Reads the items of an array one after the other. -/
def readItemsWith {α : Type} (item : Json.Doc → ReadResult α) (closed : Bool) :
    List Json.Doc → ReadResult (List α)
  | [] => if closed then .ok [] else .error .malformed
  | d :: rest => do
    let x ← item d
    let xs ← readItemsWith item closed rest
    .ok (x :: xs)

/-- Reads an array. -/
def readList {α : Type} (item : Json.Doc → ReadResult α) : Json.Doc → ReadResult (List α)
  | .array items closed => readItemsWith item closed items
  | d => wrongType .sequence d

/-- Reads the members of an object into headers. A name given again replaces the earlier values. -/
def readHeaderMembers (closed : Bool) :
    Headers → List (Option String × Json.Doc) → ReadResult Headers
  | headers, [] => if closed then .ok headers else .error .malformed
  | headers, (some name, d) :: rest => do
    let values ← readList (readText .text) d
    readHeaderMembers closed (headers.insert name values) rest
  | _, (none, _) :: _ => .error .malformed

/-- Reads headers. -/
def readHeaders : Json.Doc → ReadResult Headers
  | .object members closed => readHeaderMembers closed [] members
  | d => wrongType .map d

/-! ## Names -/

/-- Looks a name up among the known ones. -/
def lookupName {α : Type} (ofName? : String → Option α) (known : List String) (name : String) :
    ReadResult α :=
  match ofName? name with
  | some x => .ok x
  | none => .error (.unknownName name known)

/-- Null, which may stand behind a name. -/
def readUnit : Json.Doc → ReadResult Unit
  | .null => .ok ()
  | d => wrongType .unit d

/-- Reads one of the known names: a string, or an object whose only member has that name and the
value null. -/
def readName {α : Type} (source : Source) (ofName? : String → Option α) (known : List String)
    (d : Json.Doc) : ReadResult α :=
  match source, d with
  | _, .text (some s) => lookupName ofName? known s
  | .value, .object [(some name, d)] _ => do
    let x ← lookupName ofName? known name
    readUnit d
    .ok x
  | .value, .object _ _ => .error (.wrongValue .map .singleName)
  | .value, d => wrongType .nameOrMap d
  | .text, .object ((some name, d) :: rest) closed => do
    let x ← lookupName ofName? known name
    readUnit d
    if rest.isEmpty && closed then .ok x else .error .malformed
  | .text, _ => .error .malformed

/-- Reads an action. -/
def readAction (source : Source) : Json.Doc → ReadResult Action :=
  readName source Action.ofName? (Action.all.map Action.name)

/-- Reads a channel. -/
def readChannel (source : Source) : Json.Doc → ReadResult Channel :=
  readName source Channel.ofName? (Channel.all.map Channel.name)

/-! ## Objects with fixed fields -/

/-- A field: its name and whether a list may end before it. -/
structure Field where
  name : String
  optional : Bool
  deriving DecidableEq, Repr

/-- A kind of object with fixed fields: how a draft takes up the value of a field, and how a
finished draft becomes a value. -/
structure Shape (δ α : Type) where
  wanted : Wanted
  fields : List Field
  empty : δ
  put : δ → String → Json.Doc → ReadResult δ
  finish : δ → ReadResult α

namespace Shape

variable {δ α : Type}

/-- Whether a field has the given name. -/
def knows (s : Shape δ α) (name : String) : Bool :=
  s.fields.any fun f => f.name == name

/-- Takes up the members of an object in their order; `seen` are the fields that came before. -/
def readMembers (s : Shape δ α) (closed : Bool) (seen : List String) (draft : δ) :
    List (Option String × Json.Doc) → ReadResult δ
  | [] => if closed then .ok draft else .error .malformed
  | (none, _) :: _ => .error .malformed
  | (some name, d) :: rest =>
    if s.knows name then
      if seen.contains name then .error (.duplicateField name)
      else do
        let draft ← s.put draft name d
        s.readMembers closed (name :: seen) draft rest
    else if d.isWhole then s.readMembers closed seen draft rest
    else .error .malformed

/-- Takes up the elements of a list, one for each field from number `index` on, and gives the
elements that are left. -/
def readElements (s : Shape δ α) (closed : Bool) (index : Nat) (draft : δ) :
    List Field → List Json.Doc → ReadResult (δ × List Json.Doc)
  | [], rest => .ok (draft, rest)
  | f :: fields, d :: rest => do
    let draft ← s.put draft f.name d
    s.readElements closed (index + 1) draft fields rest
  | f :: fields, [] =>
    if !closed then .error .malformed
    else if f.optional then s.readElements closed (index + 1) draft fields []
    else .error (.tooFew index s.wanted s.fields.length)

/-- Checks that a list ends behind its last field. -/
def checkEnd (source : Source) (length : Nat) (closed : Bool) (rest : List Json.Doc) :
    ReadResult Unit :=
  match source with
  | .text => if rest.isEmpty && closed then .ok () else .error .malformed
  | .value => if rest.isEmpty then .ok () else .error (.tooMany length)

/-- Reads an object, or a list of its fields. -/
def read (s : Shape δ α) (source : Source) : Json.Doc → ReadResult α
  | .object members closed => do
    let draft ← s.readMembers closed [] s.empty members
    s.finish draft
  | .array items closed => do
    let (draft, rest) ← s.readElements closed 0 s.empty s.fields items
    checkEnd source items.length closed rest
    s.finish draft
  | d => wrongType s.wanted d

end Shape

/-- The value of a required field, or the fault that it is missing. -/
def required {α : Type} (name : String) : Option α → ReadResult α
  | some x => .ok x
  | none => .error (.missingField name)

/-! ## Alerts, terminations and records -/

/-- The fields of an alert as far as they are read. -/
structure AlertDraft where
  username : Option String := none
  userIp : Option String := none
  senderIp : Option String := none
  arrival : Option Timestamp := none
  alertName : Option String := none
  searchId : Option String := none
  endpointPath : Option String := none
  httpMethod : Option String := none
  headers : Option Headers := none

/-- Takes up a field of an alert. -/
def AlertDraft.put (a : AlertDraft) (name : String) (d : Json.Doc) : ReadResult AlertDraft :=
  let text := readText .text d
  match name with
  | "username" => text.map fun s => { a with username := some s }
  | "user_ip" => text.map fun s => { a with userIp := some s }
  | "payload_sender_ip" => text.map fun s => { a with senderIp := some s }
  | "arrival_time" => (readTimestamp d).map fun t => { a with arrival := some t }
  | "alert_name" => text.map fun s => { a with alertName := some s }
  | "search_id" => text.map fun s => { a with searchId := some s }
  | "endpoint_path" => text.map fun s => { a with endpointPath := some s }
  | "http_method" => text.map fun s => { a with httpMethod := some s }
  | "headers" => (readHeaders d).map fun h => { a with headers := some h }
  | _ => .ok a

/-- The alert of a draft whose required fields are all there. -/
def AlertDraft.finish (a : AlertDraft) : ReadResult Alert := do
  let username ← required "username" a.username
  let userIp ← required "user_ip" a.userIp
  let senderIp ← required "payload_sender_ip" a.senderIp
  let arrival ← required "arrival_time" a.arrival
  let alertName ← required "alert_name" a.alertName
  let searchId ← required "search_id" a.searchId
  let endpointPath ← required "endpoint_path" a.endpointPath
  let httpMethod ← required "http_method" a.httpMethod
  return ⟨username, userIp, senderIp, arrival, alertName, searchId, endpointPath, httpMethod,
    a.headers.getD []⟩

/-- The shape of an alert. -/
def alertShape : Shape AlertDraft Alert where
  wanted := .alert
  fields :=
    [⟨"username", false⟩, ⟨"user_ip", false⟩, ⟨"payload_sender_ip", false⟩,
      ⟨"arrival_time", false⟩, ⟨"alert_name", false⟩, ⟨"search_id", false⟩,
      ⟨"endpoint_path", false⟩, ⟨"http_method", false⟩, ⟨"headers", true⟩]
  empty := {}
  put := AlertDraft.put
  finish := AlertDraft.finish

/-- The fields of a termination as far as they are read. -/
structure TerminationDraft where
  sessionId : Option String := none
  ipAddress : Option String := none
  exitCode : Option Int := none
  stdout : Option String := none
  stderr : Option String := none
  error : Option (Option String) := none

/-- Takes up a field of a termination. -/
def TerminationDraft.put (t : TerminationDraft) (name : String) (d : Json.Doc) :
    ReadResult TerminationDraft :=
  let text := readText .text d
  match name with
  | "session_id" => text.map fun s => { t with sessionId := some s }
  | "ip_address" => text.map fun s => { t with ipAddress := some s }
  | "exit_code" => (readInt32 d).map fun n => { t with exitCode := some n }
  | "stdout" => text.map fun s => { t with stdout := some s }
  | "stderr" => text.map fun s => { t with stderr := some s }
  | "error" => (readOptionalText d).map fun s => { t with error := some s }
  | _ => .ok t

/-- The termination of a draft whose required fields are all there. -/
def TerminationDraft.finish (t : TerminationDraft) : ReadResult Termination := do
  let sessionId ← required "session_id" t.sessionId
  let ipAddress ← required "ip_address" t.ipAddress
  let exitCode ← required "exit_code" t.exitCode
  return ⟨sessionId, ipAddress, exitCode, t.stdout.getD "", t.stderr.getD "", t.error.getD none⟩

/-- The shape of a termination. -/
def terminationShape : Shape TerminationDraft Termination where
  wanted := .termination
  fields :=
    [⟨"session_id", false⟩, ⟨"ip_address", false⟩, ⟨"exit_code", false⟩, ⟨"stdout", true⟩,
      ⟨"stderr", true⟩, ⟨"error", true⟩]
  empty := {}
  put := TerminationDraft.put
  finish := TerminationDraft.finish

/-- Reads a list of terminations. -/
def readTerminations (source : Source) : Json.Doc → ReadResult (List Termination) :=
  readList (terminationShape.read source)

/-- The fields of a record as far as they are read. -/
structure RecordDraft where
  id : Option Uuid := none
  alert : Option Alert := none
  error : Option (Option String) := none
  note : Option (Option String) := none
  action : Option Action := none
  terminations : Option (List Termination) := none

/-- Takes up a field of a record. -/
def RecordDraft.put (source : Source) (r : RecordDraft) (name : String) (d : Json.Doc) :
    ReadResult RecordDraft :=
  match name with
  | "id" => (readUuid d).map fun u => { r with id := some u }
  | "alert" => (alertShape.read source d).map fun a => { r with alert := some a }
  | "error" => (readOptionalText d).map fun s => { r with error := some s }
  | "note" => (readOptionalText d).map fun s => { r with note := some s }
  | "action" => (readAction source d).map fun a => { r with action := some a }
  | "terminations" => (readTerminations source d).map fun ts => { r with terminations := some ts }
  | _ => .ok r

/-- The fields of a record before its remarks are looked at. -/
structure RawRecord where
  id : Option Uuid
  alert : Alert
  error : Option String
  note : Option String
  action : Action
  terminations : List Termination

/-- The fields of a draft whose required fields are all there. -/
def RecordDraft.finish (r : RecordDraft) : ReadResult RawRecord := do
  let alert ← required "alert" r.alert
  let action ← required "action" r.action
  return ⟨r.id, alert, r.error.getD none, r.note.getD none, action, r.terminations.getD []⟩

/-- The shape of a record. -/
def recordShape (source : Source) : Shape RecordDraft RawRecord where
  wanted := .record
  fields :=
    [⟨"id", true⟩, ⟨"alert", false⟩, ⟨"error", true⟩, ⟨"note", true⟩, ⟨"action", false⟩,
      ⟨"terminations", true⟩]
  empty := {}
  put := RecordDraft.put source
  finish := RecordDraft.finish

/-- The record with the given fields; one without an identifier gets the fresh one. -/
def RawRecord.toRecord (fresh : Uuid) (r : RawRecord) : ReadResult EventRecord :=
  match EventRecord.make? (r.id.getD fresh) r.alert r.error r.note r.action r.terminations with
  | .ok record => .ok record
  | .error fault => .error (.noSummary fault)

/-- Reads a record from a JSON value. -/
def EventRecord.ofDoc (source : Source) (fresh : Uuid) (d : Json.Doc) : ReadResult EventRecord := do
  let raw ← (recordShape source).read source d
  raw.toRecord fresh

/-- Reads a record from a JSON text. What stands behind the value is looked at last. -/
def EventRecord.read (fresh : Uuid) (s : String) : ReadResult EventRecord := do
  let document := Json.read s
  let record ← EventRecord.ofDoc .text fresh document.root
  if document.ended then .ok record else .error .malformed

end AlertRelay
