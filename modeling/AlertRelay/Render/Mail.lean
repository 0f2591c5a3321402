import AlertRelay.Render.Summary

/-!
# Mails

A notification by mail has three header lines and a body in sections like those of a card. The
details of the user are shown as a marker where the record leaves them empty; the lines about the
request and its headers show what the record holds.
-/

namespace AlertRelay.Mail

/-- Shown in the place of a detail that is empty. -/
def missingValue : String := "MISSING VALUE - Please file a bug report!"

/-- A line of a table. -/
def row (name value : String) : String :=
  s!"| {name} | {value} |\n"

/-- The value, or the marker for an empty one. -/
def orMissing (s : String) : String :=
  if s.isEmpty then missingValue else s

/-- The part about the summary of a record. -/
def summaryPart (r : EventRecord) : String :=
  s!"**Summary**\n\n<pre>\n{summaryText r}\n</pre>\n\n"

/-- The part about the error of a record. -/
def errorPart (r : EventRecord) : String :=
  "**Disable User Request Errors**\n\n" ++
    match r.error with
    | some error => s!"<pre>\n{error}\n</pre>\n\n"
    | none => "* None\n\n"

/-- The part about ended sessions, if there are any. -/
def terminationPart (r : EventRecord) : String :=
  if r.terminations.isEmpty then ""
  else "**Session Termination Results**\n\n" ++ terminationList r.terminations

/-- The lines about the user. -/
def detailRows (a : Alert) : List String :=
  [row "Username" (orMissing a.username), row "User IP" (orMissing a.userIp),
    row "Alert/Search Name" (orMissing a.alertName), row "Alert/Search ID" (orMissing a.searchId)]

/-- The lines about the request. -/
def requestRows (a : Alert) (now : LocalTime) : List String :=
  [row "Received at" (now.shown a.arrival), row "Endpoint path" a.endpointPath,
    row "HTTP Method" a.httpMethod, row "Alert Sender IP" a.senderIp]

/-- The lines about the headers of the request. -/
def headerRows (h : Headers) : List String :=
  if h.isEmpty then [row "None" "N/A"]
  else h.map fun (name, values) => row name (", ".intercalate values)

/-- A part with a table. -/
def table (title : String) (rows : List String) : String :=
  s!"**{title}**\n\n" ++ String.join rows ++ "\n"

/-- The body of the mail about a record, made at the time `now`. -/
def body (r : EventRecord) (branding : Branding) (now : LocalTime) : String :=
  summaryPart r ++ errorPart r ++ terminationPart r ++
    table "Disable User Request Details" (detailRows r.alert) ++
    table "Alert Request Summary" (requestRows r.alert now) ++
    table "Alert Request Headers" (headerRows r.alert.headers) ++
    branding.textileTrailer now.text

/-- The three header lines. -/
def header (sender : String) (recipients : List String) (subject : String) : String :=
  let addresses := ", ".intercalate recipients
  s!"To: {addresses}\r\nFrom: {sender}\r\nSubject: {subject}\r\n"

/-- The whole mail about a record, made at the time `now`. -/
def message (r : EventRecord) (sender : String) (recipients : List String) (branding : Branding)
    (now : LocalTime) : String :=
  header sender recipients (messageTitle branding.appName r) ++ "\r\n" ++ body r branding now ++
    "\r\n"

end AlertRelay.Mail
