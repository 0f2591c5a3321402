import AlertRelay.Proofs.Record.Parts

/-!
# Faults in the form of a record

While the fields of a record are read, it is rejected for their form alone (`Formal`): a missing
summary is no fault of a single field, nor of the fields together. It is found only in the end, when
all fields are there and none of the remarks has anything to show, so a document that is rejected
for it has all the fields of a record (`EventRecord.ofDoc_eq_noSummary_iff`,
`EventRecord.read_eq_noSummary_iff`).
-/

namespace AlertRelay

variable {α β : Type}

/-- What was read was not rejected because there is nothing to show. -/
def Formal (x : ReadResult α) : Prop :=
  ∀ fault, x ≠ .error (.noSummary fault)

theorem formal_ok (a : α) : Formal (.ok a : ReadResult α) := nofun

theorem formal_malformed : Formal (.error .malformed : ReadResult α) := nofun

theorem Formal.bind {x : ReadResult α} {f : α → ReadResult β} (hx : Formal x)
    (hf : ∀ a, Formal (f a)) : Formal (x >>= f) := by
  intro fault h
  cases x with
  | ok a => exact hf a fault h
  | error e => exact hx fault (congrArg Except.error (Except.error.inj h))

theorem Formal.map {x : ReadResult α} (hx : Formal x) (f : α → β) : Formal (x.map f) := by
  intro fault h
  cases x with
  | ok a => cases h
  | error e => exact hx fault (congrArg Except.error (Except.error.inj h))

theorem formal_wrongType (wanted : Wanted) (d : Json.Doc) :
    Formal (wrongType wanted d : ReadResult α) := by
  unfold wrongType
  split <;> exact nofun

/-! ### Plain values -/

theorem formal_readText (wanted : Wanted) (d : Json.Doc) : Formal (readText wanted d) := by
  unfold readText
  split
  · exact formal_ok _
  · exact formal_wrongType _ _

theorem formal_readOptionalText (d : Json.Doc) : Formal (readOptionalText d) := by
  unfold readOptionalText
  split
  · exact formal_ok _
  · exact (formal_readText _ _).map _

theorem formal_readInt32 (d : Json.Doc) : Formal (readInt32 d) := by
  unfold readInt32
  split
  · split
    · exact formal_ok _
    · exact nofun
  · exact formal_wrongType _ _

theorem formal_readUuid (d : Json.Doc) : Formal (readUuid d) := by
  refine (formal_readText _ _).bind fun s => ?_
  split
  · exact formal_ok _
  · exact nofun

theorem formal_readTimestamp (d : Json.Doc) : Formal (readTimestamp d) := by
  refine (formal_readText _ _).bind fun s => ?_
  split
  · exact formal_ok _
  · exact nofun

theorem formal_readItemsWith {item : Json.Doc → ReadResult α} (hitem : ∀ d, Formal (item d))
    (closed : Bool) (ds : List Json.Doc) : Formal (readItemsWith item closed ds) := by
  induction ds with
  | nil =>
    unfold readItemsWith
    split
    · exact formal_ok _
    · exact formal_malformed
  | cons d ds ih => exact (hitem d).bind fun x => ih.bind fun xs => formal_ok _

theorem formal_readList {item : Json.Doc → ReadResult α} (hitem : ∀ d, Formal (item d))
    (d : Json.Doc) : Formal (readList item d) := by
  unfold readList
  split
  · exact formal_readItemsWith hitem _ _
  · exact formal_wrongType _ _

theorem formal_readHeaderMembers (closed : Bool) (h : Headers)
    (members : List (Option String × Json.Doc)) : Formal (readHeaderMembers closed h members) := by
  induction members generalizing h with
  | nil =>
    unfold readHeaderMembers
    split
    · exact formal_ok _
    · exact formal_malformed
  | cons member members ih =>
    obtain ⟨name, d⟩ := member
    cases name with
    | none => exact formal_malformed
    | some name => exact (formal_readList (formal_readText _) d).bind fun values => ih _

theorem formal_readHeaders (d : Json.Doc) : Formal (readHeaders d) := by
  unfold readHeaders
  split
  · exact formal_readHeaderMembers _ _ _
  · exact formal_wrongType _ _

/-! ### Names -/

section Names

variable {ofName? : String → Option α} {known : List String}

theorem formal_lookupName (name : String) : Formal (lookupName ofName? known name) := by
  unfold lookupName
  split
  · exact formal_ok _
  · exact nofun

theorem formal_readUnit (d : Json.Doc) : Formal (readUnit d) := by
  unfold readUnit
  split
  · exact formal_ok _
  · exact formal_wrongType _ _

theorem formal_readName (source : Source) (d : Json.Doc) :
    Formal (readName source ofName? known d) := by
  unfold readName
  split
  · exact formal_lookupName _
  · exact (formal_lookupName _).bind fun x => (formal_readUnit _).bind fun _ => formal_ok _
  · exact nofun
  · exact formal_wrongType _ _
  · refine (formal_lookupName _).bind fun x => (formal_readUnit _).bind fun _ => ?_
    split
    · exact formal_ok _
    · exact formal_malformed
  · exact formal_malformed

end Names

/-! ### Objects with fixed fields -/

namespace Shape

variable {δ : Type} {s : Shape δ α}

theorem formal_readMembers (hput : ∀ draft name d, Formal (s.put draft name d)) (closed : Bool)
    (seen : List String) (draft : δ) (members : List (Option String × Json.Doc)) :
    Formal (s.readMembers closed seen draft members) := by
  induction members generalizing seen draft with
  | nil =>
    unfold readMembers
    split
    · exact formal_ok _
    · exact formal_malformed
  | cons member members ih =>
    obtain ⟨name, d⟩ := member
    cases name with
    | none => exact formal_malformed
    | some name =>
      unfold readMembers
      split
      · split
        · exact nofun
        · exact (hput draft name d).bind fun next => ih _ next
      · split
        · exact ih seen draft
        · exact formal_malformed

theorem formal_readElements (hput : ∀ draft name d, Formal (s.put draft name d)) (closed : Bool)
    (index : Nat) (draft : δ) (fields : List Field) (items : List Json.Doc) :
    Formal (s.readElements closed index draft fields items) := by
  induction fields generalizing index draft items with
  | nil => exact formal_ok _
  | cons field fields ih =>
    cases items with
    | nil =>
      unfold readElements
      split
      · exact formal_malformed
      · split
        · exact ih _ _ _
        · exact nofun
    | cons d items => exact (hput draft field.name d).bind fun next => ih _ next _

theorem formal_checkEnd (source : Source) (length : Nat) (closed : Bool) (rest : List Json.Doc) :
    Formal (checkEnd source length closed rest) := by
  unfold checkEnd
  split
  · split
    · exact formal_ok _
    · exact formal_malformed
  · split
    · exact formal_ok _
    · exact nofun

/-- If neither a field nor the end of a draft is rejected for a missing summary, no document is. -/
theorem formal_read (hput : ∀ draft name d, Formal (s.put draft name d))
    (hfinish : ∀ draft, Formal (s.finish draft)) (source : Source) (d : Json.Doc) :
    Formal (s.read source d) := by
  unfold read
  split
  · exact (formal_readMembers hput _ _ _ _).bind hfinish
  · refine (formal_readElements hput _ _ _ _ _).bind fun ⟨draft, rest⟩ => ?_
    exact (formal_checkEnd _ _ _ _).bind fun _ => hfinish draft
  · exact formal_wrongType _ _

end Shape

theorem formal_required (name : String) (x : Option α) : Formal (required name x) := by
  cases x with
  | some a => exact formal_ok a
  | none => exact nofun

/-! ### Alerts, terminations and records -/

theorem AlertDraft.formal_put (a : AlertDraft) (name : String) (d : Json.Doc) :
    Formal (a.put name d) := by
  unfold AlertDraft.put
  split
  case h_4 => exact (formal_readTimestamp d).map _
  case h_9 => exact (formal_readHeaders d).map _
  case h_10 => exact formal_ok a
  all_goals exact (formal_readText _ d).map _

theorem AlertDraft.formal_finish (a : AlertDraft) : Formal a.finish := by
  unfold AlertDraft.finish
  iterate 8 refine (formal_required _ _).bind fun _ => ?_
  exact formal_ok _

theorem TerminationDraft.formal_put (t : TerminationDraft) (name : String) (d : Json.Doc) :
    Formal (t.put name d) := by
  unfold TerminationDraft.put
  split
  case h_3 => exact (formal_readInt32 d).map _
  case h_6 => exact (formal_readOptionalText d).map _
  case h_7 => exact formal_ok t
  all_goals exact (formal_readText _ d).map _

theorem TerminationDraft.formal_finish (t : TerminationDraft) : Formal t.finish := by
  unfold TerminationDraft.finish
  iterate 3 refine (formal_required _ _).bind fun _ => ?_
  exact formal_ok _

theorem formal_readAlert (source : Source) (d : Json.Doc) : Formal (alertShape.read source d) :=
  Shape.formal_read AlertDraft.formal_put AlertDraft.formal_finish source d

theorem formal_readTerminations (source : Source) (d : Json.Doc) :
    Formal (readTerminations source d) :=
  formal_readList
    (Shape.formal_read TerminationDraft.formal_put TerminationDraft.formal_finish source) d

theorem RecordDraft.formal_put (source : Source) (r : RecordDraft) (name : String)
    (d : Json.Doc) : Formal (r.put source name d) := by
  unfold RecordDraft.put
  split
  · exact (formal_readUuid d).map _
  · exact (formal_readAlert source d).map _
  · exact (formal_readOptionalText d).map _
  · exact (formal_readOptionalText d).map _
  · exact (formal_readName source d).map _
  · exact (formal_readTerminations source d).map _
  · exact formal_ok r

theorem RecordDraft.formal_finish (r : RecordDraft) : Formal r.finish := by
  unfold RecordDraft.finish
  iterate 2 refine (formal_required _ _).bind fun _ => ?_
  exact formal_ok _

/-- The fields of a record are rejected for their form alone. -/
theorem formal_readRecord (source : Source) (d : Json.Doc) :
    Formal ((recordShape source).read source d) :=
  Shape.formal_read (RecordDraft.formal_put source) RecordDraft.formal_finish source d

namespace EventRecord

variable {source : Source} {fresh : Uuid} {fault : MissingSummary}

/-- A value that is rejected because there is nothing to show has all the fields of a record. -/
theorem ofDoc_eq_noSummary_iff {d : Json.Doc} :
    ofDoc source fresh d = .error (.noSummary fault) ↔
      ∃ raw, (recordShape source).read source d = .ok raw ∧
        raw.toRecord fresh = .error (.noSummary fault) := by
  unfold ofDoc
  cases hread : (recordShape source).read source d with
  | error e =>
    have hformal : e ≠ .noSummary fault :=
      fun he => formal_readRecord source d fault (he ▸ hread)
    constructor
    · intro h
      exact absurd (Except.error.inj h) hformal
    · rintro ⟨raw, h, -⟩
      cases h
  | ok raw =>
    constructor
    · intro h
      exact ⟨raw, rfl, h⟩
    · rintro ⟨raw', h, hfault⟩
      obtain rfl := Except.ok.inj h
      exact hfault

/-- So has the value in a text that is rejected for the same reason, whatever stands behind it. -/
theorem read_eq_noSummary_iff {s : String} :
    read fresh s = .error (.noSummary fault) ↔
      ∃ raw, (recordShape .text).read .text (Json.read s).root = .ok raw ∧
        raw.toRecord fresh = .error (.noSummary fault) := by
  rw [← ofDoc_eq_noSummary_iff]
  have hread : read fresh s = (ofDoc .text fresh (Json.read s).root).bind fun record =>
      if (Json.read s).ended then .ok record else .error .malformed := rfl
  rw [hread]
  cases ofDoc .text fresh (Json.read s).root with
  | error e => exact Iff.rfl
  | ok record =>
    constructor
    · intro h
      dsimp only [Except.bind] at h
      split at h <;> cases h
    · intro h
      cases h

end EventRecord

end AlertRelay
