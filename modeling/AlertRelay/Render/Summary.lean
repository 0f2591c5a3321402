import AlertRelay.Record.Basic
import AlertRelay.Text.Quoted

/-!
# The parts that cards and mails share

Titles, summaries, the trailer with the name of the application, the list of ended sessions, and
values set as code.
-/

namespace AlertRelay

/-- Who sends the notifications: shown in titles and trailers. -/
structure Branding where
  appName : String
  appUrl : String
  deriving DecidableEq, Repr, Inhabited

/-- The time in the place where a message is made: how far its clocks are ahead of UTC at any time,
and what they show now. -/
structure LocalTime where
  offset : Timestamp → Offset
  text : String

/-- A time in a place whose clocks show UTC. -/
def LocalTime.utc (text : String) : LocalTime := ⟨fun _ => .utc, text⟩

/-- A time in the form for readers in a place. -/
def LocalTime.shown (l : LocalTime) (t : Timestamp) : String :=
  t.longText (l.offset t)

/-- The version of this program. -/
def version : String := "0.1.0"

/-- The trailer of a card, with the time at which it was made. -/
def Branding.markdownTrailer (b : Branding) (now : String) : String :=
  s!"Message generated by [{b.appName}]({b.appUrl}) (version {version}) at {now}"

/-- The trailer of a mail, with the time at which it was made. -/
def Branding.textileTrailer (b : Branding) (now : String) : String :=
  s!"Message generated by \"{b.appName}\":{b.appUrl} (version {version}) at {now}"

/-- The title of every message about a record. -/
def messageTitle (appName : String) (r : EventRecord) : String :=
  s!"{appName}: [{r.action.phase.text}] {r.action.text}"

/-- Shown for a record without a remark, of which there are none. -/
def missingSummary : String := "No note or error recorded for this event"

/-- The line that sums a record up: its note, or else its error. -/
def summaryText (r : EventRecord) : String :=
  match r.note, r.error with
  | some note, _ => s!"Summary: {note}"
  | none, some error => s!"Error: {error}"
  | none, none => missingSummary

/-- The entry for one ended session, as characters: a line of quoted fields and an empty line. -/
def Termination.entryChars (t : Termination) : List Char :=
  let field (name value : String) : List Char :=
    name.toList ++ ':' :: ' ' :: Text.quoteChars value.toList
  "- \x7b ".toList ++
    [',', ' '].intercalate
      [field "SessionID" t.sessionId, field "IPAddress" t.ipAddress,
        field "ExitCode" (toString t.exitCode), field "StdOut" t.stdout, field "StdErr" t.stderr,
        field "Error" (t.error.getD "None")] ++
    " \x7d\n\n".toList

/-- The list of ended sessions. -/
def terminationList (ts : List Termination) : String :=
  String.ofList (ts.flatMap Termination.entryChars)

/-- Sets a value as code, unless it is empty or would end the code itself. -/
def formatAsCode (s : String) : String :=
  if s.isEmpty || s.toList.contains '`' then s else s!"`{s}`"

end AlertRelay
