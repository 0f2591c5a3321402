import AlertRelay.Proofs.Record.RoundTrip
import AlertRelay.Proofs.Text.Utf8
import AlertRelay.Render.Card
import AlertRelay.Render.Mail

/-!
# No header is lost

Facts are added to a section one after the other; each of them either goes into the section or
leaves a note in the text of the card, and changes nothing else (`Card.addFacts_eq`). The facts of
the fixed sections have a name and a value whatever the record holds, so all notes on a card are
about headers. A mail has a line for each header. The headers are shown in the order in which the
record has them, which is that of the bytes of their names (`Headers.Ascending.inByteOrder`).
-/

namespace AlertRelay

/-! ### Facts -/

namespace Card

/-- Whether a fact can be added to a section: its name is not blank, and there is a value. -/
def isFact (e : String × List String) : Bool :=
  !Text.isBlankText e.1 && !e.2.isEmpty

/-- A fact as it is added, with its values set as code. -/
def factOf (e : String × List String) : Fact :=
  ⟨e.1, ", ".intercalate (e.2.map formatAsCode)⟩

/-- Why a fact is left out: for its name, or else for want of values. -/
def faultOf (e : String × List String) : FactFault :=
  if Text.isBlankText e.1 then .emptyName else .noValues e.1

/-- The notes about the facts that are left out of a section, each behind an empty line. -/
def notes (sectionTitle : String) (facts : List (String × List String)) : String :=
  String.join ((facts.filter fun e => !isFact e).map fun e =>
    "\n\n" ++ factNote sectionTitle (faultOf e))

variable {e : String × List String} {facts : List (String × List String)}

/-- A value under a name that is not blank can be added. -/
theorem isFact_single {name value : String} (h : Text.isBlankText name = false) :
    isFact (name, [value]) = true := by
  rw [isFact, h]
  rfl

theorem addFact_of_isFact (he : isFact e = true) (c : Card) (s : Section) :
    c.addFact s e.1 e.2 = (c, { s with facts := s.facts ++ [factOf e] }) := by
  obtain ⟨hname, hvalues⟩ := Bool.and_eq_true_iff.1 he
  have hsection : s.addFact e.1 (e.2.map formatAsCode) =
      .ok { s with facts := s.facts ++ [factOf e] } := by
    rw [Section.addFact, if_neg (by simpa using hname), if_neg (by simpa using hvalues)]
    rfl
  rw [addFact, hsection]

theorem addFact_of_not_isFact (he : isFact e = false) (c : Card) (s : Section) :
    c.addFact s e.1 e.2 =
      ({ c with text := c.text ++ "\n\n" ++ factNote s.title (faultOf e) }, s) := by
  have hsection : s.addFact e.1 (e.2.map formatAsCode) = .error (faultOf e) := by
    unfold Section.addFact faultOf
    by_cases hname : Text.isBlankText e.1 = true
    · rw [if_pos hname, if_pos hname]
    · have hvalues : e.2 = [] := by simpa [isFact, hname] using he
      rw [if_neg hname, if_neg hname, hvalues]
      rfl
  rw [addFact, hsection]

theorem addFacts_cons (c : Card) (s : Section) (e : String × List String)
    (facts : List (String × List String)) :
    c.addFacts s (e :: facts) =
      (c.addFact s e.1 e.2).1.addFacts (c.addFact s e.1 e.2).2 facts :=
  rfl

/-- Each fact goes into the section or leaves a note on the card, in the order of the facts. -/
theorem addFacts_eq (c : Card) (s : Section) (facts : List (String × List String)) :
    c.addFacts s facts =
      ({ c with text := c.text ++ notes s.title facts },
        { s with facts := s.facts ++ (facts.filter isFact).map factOf }) := by
  induction facts generalizing c s with
  | nil => simp [addFacts, notes]
  | cons e facts ih =>
    rw [addFacts_cons]
    by_cases he : isFact e = true
    · rw [addFact_of_isFact he, ih]
      simp [notes, he]
    · rw [Bool.not_eq_true] at he
      rw [addFact_of_not_isFact he, ih]
      simp [notes, he, String.append_assoc]

/-- A section is added with the facts that can be added, and with notes about the others. -/
theorem addSection_eq (c : Card) (s : Section) (facts : List (String × List String)) :
    c.addSection s facts =
      { c with
        text := c.text ++ notes s.title facts
        sections :=
          c.sections ++ [{ s with facts := s.facts ++ (facts.filter isFact).map factOf }] } := by
  rw [addSection, addFacts_eq]

/-- Facts that can all be added leave no notes. -/
theorem addSection_of_all_isFact (hfacts : facts.all isFact = true) (c : Card) (s : Section) :
    c.addSection s facts =
      { c with sections := c.sections ++ [{ s with facts := s.facts ++ facts.map factOf }] } := by
  have hall : ∀ e ∈ facts, isFact e = true := List.all_eq_true.1 hfacts
  have hshown : facts.filter isFact = facts := List.filter_eq_self.2 hall
  have hnotes : notes s.title facts = "" := by
    have hleft : facts.filter (fun e => !isFact e) = [] :=
      List.filter_eq_nil_iff.2 fun e he => by simp [hall e he]
    rw [notes, hleft]
    rfl
  rw [addSection_eq, hshown, hnotes, String.append_empty]

/-! ### The sections of a card -/

variable (r : EventRecord) (a : Alert)

/-- The title of the section about the headers. -/
def headersTitle : String := "## Alert Request Headers"

/-- A step of making a card adds these sections, none of them about headers, and nothing else. -/
structure AddsSections (step : Card → Card) (sections : List Section) : Prop where
  titles : ∀ s ∈ sections, s.title ≠ headersTitle
  step_eq : ∀ c : Card, step c = { c with sections := c.sections ++ sections }

/-- A section with facts that can all be added, under a title of its own. -/
theorem addsSections_addSection {s : Section} (htitle : s.title ≠ headersTitle)
    (hfacts : facts.all isFact = true) :
    AddsSections (·.addSection s facts) [{ s with facts := s.facts ++ facts.map factOf }] where
  titles := by
    intro added hadded
    rw [List.mem_singleton.1 hadded]
    exact htitle
  step_eq c := addSection_of_all_isFact hfacts c s

theorem exists_addErrors : ∃ sections, AddsSections (·.addErrors r) sections := by
  have htitle : "## Disable User Request Errors" ≠ headersTitle := by decide
  unfold addErrors
  rcases r.error with _ | error
  · exact ⟨_, addsSections_addSection htitle rfl⟩
  · refine ⟨_, addsSections_addSection htitle ?_⟩
    simp (disch := decide +kernel) only [List.all_cons, List.all_nil, isFact_single, Bool.and_self]

theorem exists_addTerminations : ∃ sections, AddsSections (·.addTerminations r) sections := by
  have htitle : "## Session Termination Results" ≠ headersTitle := by decide
  unfold addTerminations
  split
  · exact ⟨[], nofun, fun c => by rw [List.append_nil]⟩
  · exact ⟨_, addsSections_addSection htitle rfl⟩

theorem exists_addDetails : ∃ sections, AddsSections (·.addDetails a) sections := by
  have htitle : "## Disable User Request Details" ≠ headersTitle := by decide
  refine ⟨_, addsSections_addSection htitle ?_⟩
  simp (disch := decide +kernel) only [List.all_cons, List.all_nil, isFact_single, Bool.and_self]

theorem exists_addRequest (now : LocalTime) :
    ∃ sections, AddsSections (·.addRequest a now) sections := by
  have htitle : "## Alert Request Summary" ≠ headersTitle := by decide
  refine ⟨_, addsSections_addSection htitle ?_⟩
  simp (disch := decide +kernel) only [List.all_cons, List.all_nil, isFact_single, Bool.and_self]

end Card

/-! ### The order of the names -/

/-- The names of headers stand in the order of their bytes. -/
def Headers.InByteOrder (h : Headers) : Prop :=
  h.Pairwise fun a b => Utf8.encode a.1.toList < Utf8.encode b.1.toList

theorem Headers.Ascending.inByteOrder {h : Headers} (hh : h.Ascending) : h.InByteOrder :=
  hh.imp Utf8.encode_lt_encode

/-! ### Cards and mails with headers -/

namespace EventRecord

/-- The record with other headers. -/
def withHeaders (r : EventRecord) (h : Headers) : EventRecord :=
  { r with alert := { r.alert with headers := h } }

/-- What a card and a mail show of a record beside these parts, which have no headers in them: each
header is shown in its place, or noted in the text of the card. -/
structure ShowsHeaders (r : EventRecord) (branding : Branding) (now : LocalTime)
    (before : List Section) (trailer : Section) (front back : String) : Prop where
  title : (Card.ofRecord r branding now).title = messageTitle branding.appName r
  /-- Behind the summary there is one note for each header without a name or without values. -/
  text : (Card.ofRecord r branding now).text =
    summaryText r ++ Card.notes "## Alert Request Headers" r.alert.headers
  /-- The section about the headers tells how many there are and shows one fact for each of the
  others. -/
  sections : (Card.ofRecord r branding now).sections =
    before ++
      [{  title := "## Alert Request Headers"
          text := s!"{r.alert.headers.length} alert request headers provided"
          facts := (r.alert.headers.filter Card.isFact).map Card.factOf
          startGroup := true },
        trailer]
  /-- A mail has one line for each header, with its values as they are. -/
  body : Mail.body r branding now =
    front ++ "**Alert Request Headers**\n\n" ++
      String.join
        (if r.alert.headers = [] then ["| None | N/A |\n"]
        else r.alert.headers.map fun e =>
          "| " ++ e.1 ++ " | " ++ ", ".intercalate e.2 ++ " |\n") ++ "\n" ++ back

/-- The sections of a card that are not about headers do not depend on them. -/
theorem exists_ofRecord_withHeaders (r : EventRecord) (branding : Branding) (now : LocalTime) :
    ∃ before trailer, (∀ s ∈ trailer :: before, s.title ≠ Card.headersTitle) ∧
      ∀ h : Headers, Card.ofRecord (r.withHeaders h) branding now =
        { title := messageTitle branding.appName r
          text := summaryText r ++ Card.notes Card.headersTitle h
          sections := before ++
            [{  title := Card.headersTitle
                text := s!"{h.length} alert request headers provided"
                facts := (h.filter Card.isFact).map Card.factOf },
              trailer] } := by
  obtain ⟨errors, herrors⟩ := Card.exists_addErrors r
  obtain ⟨terminations, hterminations⟩ := Card.exists_addTerminations r
  obtain ⟨details, hdetails⟩ := Card.exists_addDetails r.alert
  obtain ⟨request, hrequest⟩ := Card.exists_addRequest r.alert now
  let trailer : Section := { text := Card.breakLines (branding.markdownTrailer now.text) }
  refine ⟨errors ++ terminations ++ details ++ request, trailer, ?titles, fun h => ?card⟩
  case titles =>
    intro s hs
    simp only [List.mem_cons, List.mem_append] at hs
    rcases hs with rfl | ((hs | hs) | hs) | hs
    · exact (show "" ≠ Card.headersTitle by decide)
    · exact herrors.titles s hs
    · exact hterminations.titles s hs
    · exact hdetails.titles s hs
    · exact hrequest.titles s hs
  case card =>
    let start : Card := { title := messageTitle branding.appName r, text := summaryText r }
    have hsteps : Card.ofRecord (r.withHeaders h) branding now =
        (((((start.addErrors r).addTerminations r).addDetails r.alert).addRequest
          r.alert now).addHeaders h).addSection trailer [] := rfl
    rw [hsteps, Card.addSection_of_all_isFact List.all_nil, Card.addHeaders, Card.addSection_eq,
      herrors.step_eq, hterminations.step_eq, hdetails.step_eq, hrequest.step_eq]
    simp [start, trailer, Card.headersTitle]

theorem headerRows_eq (h : Headers) :
    Mail.headerRows h =
      if h = [] then ["| None | N/A |\n"]
      else h.map fun e => "| " ++ e.1 ++ " | " ++ ", ".intercalate e.2 ++ " |\n" := by
  unfold Mail.headerRows
  simp only [List.isEmpty_iff]
  rfl

/-- The parts of a mail in front of the headers and behind them do not depend on them. -/
theorem exists_body_withHeaders (r : EventRecord) (branding : Branding) (now : LocalTime) :
    ∃ front back, ∀ h : Headers, Mail.body (r.withHeaders h) branding now =
      front ++ "**Alert Request Headers**\n\n" ++ String.join (Mail.headerRows h) ++ "\n" ++
        back := by
  let front := Mail.summaryPart r ++ Mail.errorPart r ++ Mail.terminationPart r ++
    Mail.table "Disable User Request Details" (Mail.detailRows r.alert) ++
    Mail.table "Alert Request Summary" (Mail.requestRows r.alert now)
  refine ⟨front, branding.textileTrailer now.text, fun h => ?_⟩
  have hbody : Mail.body (r.withHeaders h) branding now =
      front ++ ("**Alert Request Headers**\n\n" ++ String.join (Mail.headerRows h) ++ "\n") ++
        branding.textileTrailer now.text := rfl
  rw [hbody]
  simp only [String.append_assoc]

/-- The parts that are not about headers do not depend on them. -/
theorem exists_showsHeaders (r : EventRecord) (branding : Branding) (now : LocalTime) :
    ∃ before trailer front back, (∀ s ∈ trailer :: before, s.title ≠ Card.headersTitle) ∧
      ∀ h : Headers, (r.withHeaders h).ShowsHeaders branding now before trailer front back := by
  obtain ⟨before, trailer, htitles, hcard⟩ := r.exists_ofRecord_withHeaders branding now
  obtain ⟨front, back, hbody⟩ := r.exists_body_withHeaders branding now
  refine ⟨before, trailer, front, back, htitles, fun h => ?_⟩
  constructor
  · rw [hcard h]
    rfl
  · rw [hcard h]
    rfl
  · rw [hcard h]
    rfl
  · rw [hbody h, headerRows_eq]
    rfl

/-- No header is lost. A card shows each header with a name and values as a fact, in the order of
the bytes of the names, and has one note for each of the others, in the same order; a mail has one
line for each header. All else in the card and in the mail is the same whatever the headers are. -/
theorem showsHeaders (r : EventRecord) (hr : r.alert.headers.Ascending) (branding : Branding)
    (now : LocalTime) :
    r.alert.headers.InByteOrder ∧
      ∃ before trailer front back,
        (∀ s ∈ trailer :: before, s.title ≠ "## Alert Request Headers") ∧
        r.ShowsHeaders branding now before trailer front back ∧
        ∀ h : Headers, (r.withHeaders h).ShowsHeaders branding now before trailer front back := by
  obtain ⟨before, trailer, front, back, htitles, hshows⟩ := r.exists_showsHeaders branding now
  exact ⟨hr.inByteOrder, before, trailer, front, back, htitles, hshows r.alert.headers, hshows⟩

/-- A record of which one header has a name of wide blanks, and another one no values. -/
def poorHeaders : EventRecord where
  id := .nil
  alert := { headers := [("Accept", []), ("Via", ["a", "`b`", ""]), ("\u2003", ["c"])] }
  error := none
  note := some "a"
  action := .disabled
  terminations := []
  error_shown := shown_none
  note_shown := by
    intro s hs
    cases hs
    rfl
  has_remark := .inr (Option.some_ne_none _)

/-- Two of its headers are noted in the text of the card. -/
theorem poorHeaders_shown :
    poorHeaders.alert.headers.Ascending ∧
      poorHeaders.alert.headers.InByteOrder ∧
      (poorHeaders.alert.headers.filter Card.isFact).map Card.factOf = [⟨"Via", "`a`, `b`, "⟩] ∧
      ∃ before trailer front back,
        (∀ s ∈ trailer :: before, s.title ≠ "## Alert Request Headers") ∧
        poorHeaders.ShowsHeaders ⟨"App", ""⟩ (.utc "") before trailer front back ∧
        ∀ h : Headers,
          (poorHeaders.withHeaders h).ShowsHeaders ⟨"App", ""⟩ (.utc "") before trailer front back := by
  have hr : poorHeaders.alert.headers.Ascending := by
    unfold Headers.Ascending
    decide +kernel
  obtain ⟨horder, hshows⟩ := showsHeaders poorHeaders hr ⟨"App", ""⟩ (.utc "")
  exact ⟨hr, horder, by decide +kernel, hshows⟩

example : (Card.ofRecord poorHeaders ⟨"App", ""⟩ (.utc "")).text =
    "Summary: a" ++
      "\n\n`failed to add fact to section \"## Alert Request Headers\": " ++
      "fact \"Accept\" has no values`" ++
      "\n\n`failed to add fact to section \"## Alert Request Headers\": fact name is empty`" := by
  decide +kernel

end EventRecord

end AlertRelay
