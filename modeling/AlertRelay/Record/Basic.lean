import AlertRelay.Action
import AlertRelay.Text.Blank
import AlertRelay.Time.Timestamp
import AlertRelay.Uuid

/-!
# Event records

An `EventRecord` tells what became of one step of disabling an account: the alert that started it,
the action, a note or an error or both, and the outcome for each session that was ended. Blank
notes and errors count as missing, and a record with neither cannot be built.
-/

namespace AlertRelay

/-- The headers of a request: names in ascending order, each with its values. -/
abbrev Headers := List (String × List String)

/-- Sets the values of a header; the order of the names is kept and an earlier value is lost. -/
def Headers.insert (name : String) (values : List String) : Headers → Headers
  | [] => [(name, values)]
  | (other, kept) :: rest =>
    if name < other then (name, values) :: (other, kept) :: rest
    else if name = other then (name, values) :: rest
    else (other, kept) :: Headers.insert name values rest

/-- The alert that started the work, and the request it came with. -/
structure Alert where
  username : String := ""
  userIp : String := ""
  senderIp : String := ""
  arrival : Timestamp := .epoch
  alertName : String := ""
  searchId : String := ""
  endpointPath : String := ""
  httpMethod : String := ""
  headers : Headers := []
  deriving DecidableEq, Inhabited

/-- What came of ending one session. -/
structure Termination where
  sessionId : String
  ipAddress : String
  exitCode : Int
  stdout : String := ""
  stderr : String := ""
  error : Option String := none
  deriving DecidableEq, Inhabited

/-- A note or an error: a text that is not blank, if there is one. -/
abbrev Remark := Option String

/-- A remark is missing or shows something. -/
def Remark.Shown (r : Remark) : Prop :=
  ∀ s, r = some s → Text.isBlankText s = false

/-- What became of one step, with something to show for it. -/
structure EventRecord where
  id : Uuid
  alert : Alert
  error : Remark
  note : Remark
  action : Action
  terminations : List Termination
  error_shown : error.Shown
  note_shown : note.Shown
  has_remark : error ≠ none ∨ note ≠ none
  deriving DecidableEq

/-- A record that would have nothing to show. -/
structure MissingSummary where
  action : Action
  deriving DecidableEq, Repr

/-- The words for a record that would have nothing to show. -/
def MissingSummary.message (e : MissingSummary) : String :=
  s!"event record for action {e.action.label} has neither a note nor an error"

/-- What `nonBlank` keeps is not blank. -/
theorem shown_nonBlank (s : Option String) : Remark.Shown (Text.nonBlank s) := by
  intro t h
  have := (Option.filter_eq_some_iff.1 h).2
  simpa using this

/-- Builds a record. Blank remarks are dropped; with no remark left there is no record. -/
def EventRecord.make? (id : Uuid) (alert : Alert) (error note : Option String) (action : Action)
    (terminations : List Termination) : Except MissingSummary EventRecord :=
  if h : Text.nonBlank error ≠ none ∨ Text.nonBlank note ≠ none then
    .ok ⟨id, alert, Text.nonBlank error, Text.nonBlank note, action, terminations,
      shown_nonBlank error, shown_nonBlank note, h⟩
  else .error ⟨action⟩

end AlertRelay
