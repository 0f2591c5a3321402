import AlertRelay.Json.Value
import AlertRelay.Render.Summary

/-!
# Cards

A notification for a webhook is a card: a title, a text and sections, each with a title, a text and
facts. A fact needs a name and a value; one that has not is left out, and the text of the card says
so. `Card.ofRecord` makes the card for a record.
-/

namespace AlertRelay

/-- A name and a value. -/
structure Fact where
  name : String
  value : String
  deriving DecidableEq, Repr

/-- A part of a card. -/
structure Section where
  title : String := ""
  text : String := ""
  facts : List Fact := []
  startGroup : Bool := true
  deriving DecidableEq, Repr

/-- Why a fact cannot be added to a section. -/
inductive FactFault where
  | emptyName
  | noValues (name : String)
  deriving DecidableEq, Repr

/-- The words for a fact that cannot be added. -/
def FactFault.message : FactFault → String
  | .emptyName => "fact name is empty"
  | .noValues name => s!"fact {Text.quote name} has no values"

/-- Adds a fact with the given values, separated by commas. -/
def Section.addFact (s : Section) (name : String) (values : List String) :
    Except FactFault Section :=
  if Text.isBlankText name then .error .emptyName
  else if values.isEmpty then .error (.noValues name)
  else .ok { s with facts := s.facts ++ [⟨name, ", ".intercalate values⟩] }

/-- A card. Its summary is its title. -/
structure Card where
  title : String
  text : String
  sections : List Section := []
  deriving DecidableEq, Repr

namespace Card

/-- The note on a card about a fact that was left out. -/
def factNote (sectionTitle : String) (fault : FactFault) : String :=
  formatAsCode s!"failed to add fact to section {Text.quote sectionTitle}: {fault.message}"

/-- Adds a fact with its values set as code to a section, or a note to the text of the card. -/
def addFact (c : Card) (s : Section) (name : String) (values : List String) : Card × Section :=
  match s.addFact name (values.map formatAsCode) with
  | .ok s => (c, s)
  | .error fault => ({ c with text := c.text ++ "\n\n" ++ factNote s.title fault }, s)

/-- Adds facts one after the other. -/
def addFacts (c : Card) (s : Section) (facts : List (String × List String)) : Card × Section :=
  facts.foldl (fun (c, s) (name, values) => c.addFact s name values) (c, s)

/-- Adds a section with the given facts. -/
def addSection (c : Card) (s : Section) (facts : List (String × List String)) : Card :=
  let (c, s) := c.addFacts s facts
  { c with sections := c.sections ++ [s] }

/-- Line breaks become marks for them. -/
def breakLines (s : String) : String :=
  String.ofList (s.toList.flatMap fun c => if c = '\n' then "<br>".toList else [c])

/-- The section about the error of a record. -/
def addErrors (c : Card) (r : EventRecord) : Card :=
  let title := "## Disable User Request Errors"
  match r.error with
  | some error => c.addSection { title } [("Error", [error])]
  | none => c.addSection { title, text := "None" } []

/-- The section about ended sessions, if there are any. -/
def addTerminations (c : Card) (r : EventRecord) : Card :=
  if r.terminations.isEmpty then c
  else
    c.addSection
      { title := "## Session Termination Results", text := terminationList r.terminations } []

/-- The section about the user. -/
def addDetails (c : Card) (a : Alert) : Card :=
  c.addSection { title := "## Disable User Request Details" }
    [("Username", [a.username]), ("User IP", [a.userIp]), ("Alert/Search Name", [a.alertName]),
      ("Alert/Search ID", [a.searchId])]

/-- The section about the request. -/
def addRequest (c : Card) (a : Alert) (now : LocalTime) : Card :=
  c.addSection { title := "## Alert Request Summary" }
    [("Received at", [now.shown a.arrival]), ("Endpoint path", [a.endpointPath]),
      ("HTTP Method", [a.httpMethod]), ("Alert Sender IP", [a.senderIp])]

/-- The section about the headers of the request. -/
def addHeaders (c : Card) (h : Headers) : Card :=
  c.addSection
    { title := "## Alert Request Headers", text := s!"{h.length} alert request headers provided" } h

/-- The card for a record, made at the time `now`. -/
def ofRecord (r : EventRecord) (branding : Branding) (now : LocalTime) : Card :=
  let c : Card := { title := messageTitle branding.appName r, text := summaryText r }
  let c := (c.addErrors r).addTerminations r
  let c := ((c.addDetails r.alert).addRequest r.alert now).addHeaders r.alert.headers
  c.addSection { text := breakLines (branding.markdownTrailer now.text) } []

end Card

/-- A fact as a JSON value. -/
def Fact.toValue (f : Fact) : Json.Value :=
  .object [("name", .text f.name), ("value", .text f.value)]

/-- A section as a JSON value, without what is empty in it. -/
def Section.toValue (s : Section) : Json.Value :=
  .object
    ((if s.title.isEmpty then [] else [("title", .text s.title)]) ++
      (if s.text.isEmpty then [] else [("text", .text s.text)]) ++
      (if s.facts.isEmpty then [] else [("facts", .array (s.facts.map Fact.toValue))]) ++
      [("startGroup", .bool s.startGroup)])

/-- A card as a JSON value. -/
def Card.toValue (c : Card) : Json.Value :=
  .object
    [("@type", .text "MessageCard"), ("@context", .text "https://schema.org/extensions"),
      ("summary", .text c.title), ("title", .text c.title), ("text", .text c.text),
      ("sections", .array (c.sections.map Section.toValue))]

end AlertRelay
