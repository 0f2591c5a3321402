import AlertRelay.Proofs.Record.Faults
import AlertRelay.Proofs.Record.RoundTrip
import AlertRelay.Render.Card
import AlertRelay.Render.Mail

/-!
# Records have something to show

A record is built from given fields or read from a document, and both ways lead through
`EventRecord.make?`. It drops the remarks that consist of white space and rejects the fields if no
remark is left; all else is taken as it is (`EventRecord.IsBuiltFrom`). So every record has a
summary that shows its note or its error, and this summary is the beginning of the text of its card
and fills the first part of its mail (`EventRecord.Displays`). A card is made by adding to it, and
nothing that is added takes away from its text (`Card.Extends`).
-/

namespace AlertRelay

/-- A remark is missing or consists of white space. -/
def Remark.IsBlank (remark : Option String) : Prop :=
  ∀ s, remark = some s → ∀ ch ∈ s.toList, Text.isBlank ch = true

/-- What is kept of a remark: nothing if it is blank, and all of it if it is not. -/
def Remark.KeptFrom (kept : Remark) (given : Option String) : Prop :=
  (Remark.IsBlank given → kept = none) ∧ (¬Remark.IsBlank given → kept = given)

/-- A record with the given identifier has these fields, without the blank remarks. -/
structure EventRecord.IsBuiltFrom (r : EventRecord) (id : Uuid) (raw : RawRecord) : Prop where
  id : r.id = id
  alert : r.alert = raw.alert
  error : r.error.KeptFrom raw.error
  note : r.note.KeptFrom raw.note
  action : r.action = raw.action
  terminations : r.terminations = raw.terminations

/-- The summary of a record shows a remark, and a card and a mail show the summary. -/
structure EventRecord.Displays (r : EventRecord) : Prop where
  /-- The note is shown, or else the error. -/
  summary :
    (∃ note, r.note = some note ∧ ¬Remark.IsBlank (some note) ∧
        summaryText r = "Summary: " ++ note) ∨
      (r.note = none ∧ ∃ error, r.error = some error ∧ ¬Remark.IsBlank (some error) ∧
        summaryText r = "Error: " ++ error)
  not_missing : summaryText r ≠ missingSummary
  card : ∀ branding now, ∃ rest, (Card.ofRecord r branding now).text = summaryText r ++ rest
  mail : ∀ branding now, ∃ rest, Mail.body r branding now =
    "**Summary**\n\n<pre>\n" ++ summaryText r ++ "\n</pre>\n\n" ++ rest

/-! ### Remarks -/

namespace Remark

variable {remark : Option String}

/-- A remark is dropped exactly when it is blank. -/
theorem nonBlank_eq_none_iff : Text.nonBlank remark = none ↔ IsBlank remark := by
  rw [Text.nonBlank, Option.filter_eq_none_iff]
  constructor
  · intro h s hs ch hch
    have hblank : Text.isBlankText s = true := by simpa using h s hs
    exact List.all_eq_true.1 hblank ch hch
  · intro h s hs
    have hblank : Text.isBlankText s = true := List.all_eq_true.2 (h s hs)
    simp [hblank]

theorem keptFrom_nonBlank (remark : Option String) : KeptFrom (Text.nonBlank remark) remark := by
  constructor
  · exact nonBlank_eq_none_iff.2
  · intro hshown
    obtain ⟨s, hs⟩ := Option.ne_none_iff_exists'.1 fun h => hshown (nonBlank_eq_none_iff.1 h)
    rw [hs, (Option.filter_eq_some_iff.1 hs).1]

/-- A remark that shows something is not blank. -/
theorem Shown.not_isBlank {s : String} (h : Shown (some s)) : ¬IsBlank (some s) := by
  intro hblank
  have hall : Text.isBlankText s = true := List.all_eq_true.2 (hblank s rfl)
  exact Bool.false_ne_true ((h s rfl).symm.trans hall)

end Remark

/-! ### Building records -/

namespace EventRecord

variable {id : Uuid} {alert : Alert} {error note : Option String} {action : Action}
  {terminations : List Termination}

/-- Fields are rejected exactly when both remarks are blank. -/
theorem make?_eq_error_iff {fault : MissingSummary} :
    make? id alert error note action terminations = .error fault ↔
      fault = ⟨action⟩ ∧ Remark.IsBlank error ∧ Remark.IsBlank note := by
  rw [← Remark.nonBlank_eq_none_iff, ← Remark.nonBlank_eq_none_iff]
  unfold make?
  split
  · rename_i hremark
    constructor
    · intro h
      cases h
    · rintro ⟨-, herror, hnote⟩
      rcases hremark with h | h
      · exact absurd herror h
      · exact absurd hnote h
  · rename_i hremark
    obtain ⟨herror, hnote⟩ := not_or.1 hremark
    constructor
    · intro h
      exact ⟨(Except.error.inj h).symm, not_not.1 herror, not_not.1 hnote⟩
    · rintro ⟨rfl, -, -⟩
      rfl

/-- All else is taken as it is. -/
theorem isBuiltFrom_of_make? {r : EventRecord} {raw : RawRecord}
    (h : make? id raw.alert raw.error raw.note raw.action raw.terminations = .ok r) :
    r.IsBuiltFrom id raw := by
  unfold make? at h
  split at h
  · obtain rfl := Except.ok.inj h
    exact ⟨rfl, rfl, Remark.keptFrom_nonBlank _, Remark.keptFrom_nonBlank _, rfl, rfl⟩
  · cases h

end EventRecord

/-! ### Reading records -/

namespace RawRecord

variable {raw : RawRecord} {fresh : Uuid}

/-- A record is made of fields that are read in the way in which it is built. -/
theorem toRecord_eq_mapError (raw : RawRecord) (fresh : Uuid) :
    raw.toRecord fresh =
      (EventRecord.make? (raw.id.getD fresh) raw.alert raw.error raw.note raw.action
        raw.terminations).mapError .noSummary := by
  unfold toRecord
  split
  · rename_i h
    rw [h]
    rfl
  · rename_i h
    rw [h]
    rfl

theorem toRecord_eq_noSummary_iff {fault : MissingSummary} :
    raw.toRecord fresh = .error (.noSummary fault) ↔
      fault = ⟨raw.action⟩ ∧ Remark.IsBlank raw.error ∧ Remark.IsBlank raw.note := by
  unfold toRecord
  split
  · rename_i record h
    constructor
    · intro hfault
      cases hfault
    · intro hblank
      cases (EventRecord.make?_eq_error_iff.2 hblank).symm.trans h
  · rename_i e h
    constructor
    · intro hfault
      cases hfault
      exact EventRecord.make?_eq_error_iff.1 h
    · intro hblank
      cases (EventRecord.make?_eq_error_iff.2 hblank).symm.trans h
      rfl

end RawRecord

/-! ### Cards -/

namespace Card

/-- The text of a card begins with the text of another one. -/
def Extends (c c' : Card) : Prop :=
  ∃ rest, c'.text = c.text ++ rest

theorem Extends.refl (c : Card) : c.Extends c :=
  ⟨"", (String.append_empty).symm⟩

theorem Extends.trans {c c' c'' : Card} (h : c.Extends c') (h' : c'.Extends c'') :
    c.Extends c'' := by
  obtain ⟨rest, hrest⟩ := h
  obtain ⟨rest', hrest'⟩ := h'
  exact ⟨rest ++ rest', by rw [hrest', hrest, String.append_assoc]⟩

/-- A fact is added without a change of the text, or a note about it is put behind the text. -/
theorem extends_addFact (c : Card) (s : Section) (name : String) (values : List String) :
    c.Extends (c.addFact s name values).1 := by
  unfold addFact
  split
  · exact .refl c
  · exact ⟨_, String.append_assoc⟩

theorem extends_addFacts (c : Card) (s : Section) (facts : List (String × List String)) :
    c.Extends (c.addFacts s facts).1 := by
  unfold addFacts
  induction facts generalizing c s with
  | nil => exact .refl c
  | cons fact facts ih => exact (extends_addFact c s fact.1 fact.2).trans (ih _ _)

theorem extends_addSection (c : Card) (s : Section) (facts : List (String × List String)) :
    c.Extends (c.addSection s facts) :=
  extends_addFacts c s facts

theorem extends_addErrors (c : Card) (r : EventRecord) : c.Extends (c.addErrors r) := by
  unfold addErrors
  dsimp only
  split <;> exact extends_addSection _ _ _

theorem extends_addTerminations (c : Card) (r : EventRecord) :
    c.Extends (c.addTerminations r) := by
  unfold addTerminations
  split
  · exact .refl c
  · exact extends_addSection _ _ _

theorem extends_addDetails (c : Card) (a : Alert) : c.Extends (c.addDetails a) :=
  extends_addSection c _ _

theorem extends_addRequest (c : Card) (a : Alert) (now : LocalTime) :
    c.Extends (c.addRequest a now) :=
  extends_addSection c _ _

theorem extends_addHeaders (c : Card) (h : Headers) : c.Extends (c.addHeaders h) :=
  extends_addSection c _ _

/-- The card for a record extends the one that shows its summary alone. -/
theorem extends_ofRecord (r : EventRecord) (branding : Branding) (now : LocalTime) :
    Extends { title := messageTitle branding.appName r, text := summaryText r }
      (ofRecord r branding now) := by
  unfold ofRecord
  dsimp only
  refine .trans (extends_addErrors _ r) ?_
  refine .trans (extends_addTerminations _ r) ?_
  refine .trans (extends_addDetails _ r.alert) ?_
  refine .trans (extends_addRequest _ r.alert now) ?_
  refine .trans (extends_addHeaders _ r.alert.headers) ?_
  exact extends_addSection _ _ _

end Card

/-! ### Summaries -/

namespace EventRecord

variable (r : EventRecord)

/-- Every record has a remark to sum it up. -/
theorem summaryText_cases :
    (∃ note, r.note = some note ∧ ¬Remark.IsBlank (some note) ∧
        summaryText r = "Summary: " ++ note) ∨
      (r.note = none ∧ ∃ error, r.error = some error ∧ ¬Remark.IsBlank (some error) ∧
        summaryText r = "Error: " ++ error) := by
  unfold summaryText
  cases hnote : r.note with
  | some note =>
    have hshown : ¬Remark.IsBlank (some note) := Remark.Shown.not_isBlank (hnote ▸ r.note_shown)
    exact .inl ⟨note, rfl, hshown, rfl⟩
  | none =>
    obtain ⟨error, herror⟩ :=
      Option.ne_none_iff_exists'.1 (r.has_remark.resolve_right fun hshown => hshown hnote)
    have hshown : ¬Remark.IsBlank (some error) :=
      Remark.Shown.not_isBlank (herror ▸ r.error_shown)
    rw [herror]
    exact .inr ⟨rfl, error, rfl, hshown, rfl⟩

/-- A summary is told apart from the text for a record without a remark by its first character. -/
theorem summaryText_ne_missingSummary : summaryText r ≠ missingSummary := by
  have hfirst : (summaryText r).toList.head? ≠ missingSummary.toList.head? := by
    rcases r.summaryText_cases with ⟨note, -, -, h⟩ | ⟨-, error, -, -, h⟩
    · simp [h, missingSummary]
    · simp [h, missingSummary]
  exact fun h => hfirst (by rw [h])

/-- A mail begins with the part about the summary. -/
theorem body_eq_append (branding : Branding) (now : LocalTime) :
    ∃ rest, Mail.body r branding now =
      "**Summary**\n\n<pre>\n" ++ summaryText r ++ "\n</pre>\n\n" ++ rest := by
  have hpart : Mail.summaryPart r =
      "**Summary**\n\n<pre>\n" ++ summaryText r ++ "\n</pre>\n\n" := rfl
  unfold Mail.body
  rw [hpart]
  simp only [String.append_assoc]
  exact ⟨_, rfl⟩

/-- The summary of a record is shown wherever the record is. -/
theorem displays : r.Displays where
  summary := r.summaryText_cases
  not_missing := r.summaryText_ne_missingSummary
  card branding now := Card.extends_ofRecord r branding now
  mail branding now := r.body_eq_append branding now

/-- A record is built from given fields and read from a document with these fields in the same way.
The fields are rejected exactly when both remarks are missing or consist of white space; otherwise
the remarks that do not are kept as they are, and all other fields too. A document can have any
fields, and it is rejected because there is nothing to show only if it has all the fields of a
record and both remarks are blank. So there is a summary of every record, which its card and its
mail show. -/
theorem built_and_read_alike (fresh : Uuid) (raw : RawRecord) :
    let id := raw.id.getD fresh
    let built := make? id raw.alert raw.error raw.note raw.action raw.terminations
    (∀ fault, built = .error fault ↔
      fault = ⟨raw.action⟩ ∧ Remark.IsBlank raw.error ∧ Remark.IsBlank raw.note) ∧
    (∀ r, built = .ok r → r.IsBuiltFrom id raw) ∧
    (∀ source d, (recordShape source).read source d = .ok raw →
      ofDoc source fresh d = built.mapError .noSummary) ∧
    (∀ s, raw.IsIn s → read fresh s = built.mapError .noSummary) ∧
    (raw.Legible → ∃ s, raw.IsIn s) ∧
    (∀ s fault, read fresh s = .error (.noSummary fault) ↔
      ∃ given, (recordShape .text).read .text (Json.read s).root = .ok given ∧
        fault = ⟨given.action⟩ ∧ Remark.IsBlank given.error ∧ Remark.IsBlank given.note) ∧
    ∀ r : EventRecord, r.Displays := by
  intro id built
  have hbuilt : raw.toRecord fresh = built.mapError .noSummary := raw.toRecord_eq_mapError fresh
  refine ⟨fun fault => make?_eq_error_iff, fun r => isBuiltFrom_of_make?, ?values, ?texts,
    fun hraw => ⟨_, hraw.isIn⟩, ?faults, displays⟩
  case values =>
    intro source d hread
    rw [RawRecord.ofDoc_of_read hread, hbuilt]
  case texts =>
    intro s hs
    rw [hs.read_eq, hbuilt]
  case faults =>
    intro s fault
    simp only [read_eq_noSummary_iff, RawRecord.toRecord_eq_noSummary_iff]

/-- An error that consists of wide blanks is dropped, and a note is not trimmed. Without the note,
nothing is left to show. -/
theorem built_without_blank_error :
    let raw (note : Option String) : RawRecord :=
      ⟨none, {}, some "\u2003\u3000", note, .disabled, []⟩
    (∃ s r, (raw (some " a ")).IsIn s ∧ read .nil s = .ok r ∧ r.error = none ∧
        r.note = some " a " ∧ summaryText r = "Summary:  a ") ∧
      ∃ s, (raw none).IsIn s ∧ read .nil s = .error (.noSummary ⟨.disabled⟩) := by
  intro raw
  have hepoch : Timestamp.epoch.IsProper := by
    constructor <;> decide
  have hlegible (note : Option String) : (raw note).Legible := ⟨⟨hepoch, List.Pairwise.nil⟩, nofun⟩
  have herror : Remark.IsBlank (some "\u2003\u3000") :=
    Remark.nonBlank_eq_none_iff.1 (by decide +kernel)
  have hnote : ¬Remark.IsBlank (some " a ") :=
    fun h => absurd (Remark.nonBlank_eq_none_iff.2 h) (by decide +kernel)
  constructor
  · obtain ⟨hfault, hbuilt, -, hread, hin, -, -⟩ := built_and_read_alike .nil (raw (some " a "))
    obtain ⟨s, hs⟩ := hin (hlegible _)
    have hs' := hread s hs
    cases hmade : make? .nil {} (some "\u2003\u3000") (some " a ") .disabled [] with
    | error fault => exact absurd ((hfault fault).1 hmade).2.2 hnote
    | ok r =>
      obtain ⟨-, -, hnone, hkept, -, -⟩ := hbuilt r hmade
      have hsome : r.note = some " a " := hkept.2 hnote
      refine ⟨s, r, hs, hs'.trans (congrArg (Except.mapError _) hmade), hnone.1 herror, hsome, ?_⟩
      rw [summaryText, hsome]
      rfl
  · obtain ⟨hfault, -, -, hread, hin, -⟩ := built_and_read_alike .nil (raw none)
    obtain ⟨s, hs⟩ := hin (hlegible _)
    have hrejected := (hfault ⟨.disabled⟩).2 ⟨rfl, herror, nofun⟩
    exact ⟨s, hs, (hread s hs).trans (congrArg (Except.mapError _) hrejected)⟩

end EventRecord

end AlertRelay
