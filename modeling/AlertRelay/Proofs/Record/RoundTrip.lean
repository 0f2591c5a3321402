import AlertRelay.Proofs.Record.Parts

/-!
# Records that are written and read

A record that was read is the record that is read from its text, whatever the text looked like from
which it came (`EventRecord.read_write_of_read`). What a reader gives is legible: its timestamp, its
headers and its exit codes are such that their written form is read back, and this is all that it
takes (`EventRecord.legible_iff`). A written object has fields that its reader knows, each of them
at most once, so the reader takes them up one after the other (`Shape.read_toDoc`). This also holds
of fields whose remarks have nothing to show, so that no record comes of them
(`RawRecord.read_toDoc`).
-/

namespace AlertRelay

/-! ### Shapes -/

namespace Shape

variable {δ α : Type} {s : Shape δ α} {P : δ → Prop}

/-- What every field keeps is kept by all members of an object. -/
theorem readMembers_keeps
    (hput : ∀ draft name d draft', P draft → s.put draft name d = .ok draft' → P draft')
    {closed : Bool} {seen : List String} {members : List (Option String × Json.Doc)}
    {draft draft' : δ} (hdraft : P draft)
    (h : s.readMembers closed seen draft members = .ok draft') : P draft' := by
  induction members generalizing seen draft with
  | nil =>
    unfold readMembers at h
    split at h
    · obtain rfl := Except.ok.inj h
      exact hdraft
    · cases h
  | cons member members ih =>
    obtain ⟨name, d⟩ := member
    cases name with
    | none => cases h
    | some name =>
      unfold readMembers at h
      split at h
      · split at h
        · cases h
        · obtain ⟨next, hnext, h⟩ := exists_ok_of_bind h
          exact ih (hput draft name d next hdraft hnext) h
      · split at h
        · exact ih hdraft h
        · cases h

/-- What every field keeps is kept by all elements of a list. -/
theorem readElements_keeps
    (hput : ∀ draft name d draft', P draft → s.put draft name d = .ok draft' → P draft')
    {closed : Bool} {index : Nat} {fields : List Field} {items rest : List Json.Doc}
    {draft draft' : δ} (hdraft : P draft)
    (h : s.readElements closed index draft fields items = .ok (draft', rest)) : P draft' := by
  induction fields generalizing index items draft with
  | nil =>
    obtain ⟨rfl, -⟩ := Prod.mk.inj (Except.ok.inj h)
    exact hdraft
  | cons field fields ih =>
    cases items with
    | nil =>
      unfold readElements at h
      split at h
      · cases h
      · split at h
        · exact ih hdraft h
        · cases h
    | cons d items =>
      obtain ⟨next, hnext, h⟩ := exists_ok_of_bind h
      exact ih (hput draft field.name d next hdraft hnext) h

/-- A value that is read comes from a draft with everything that the fields keep. -/
theorem exists_of_read (hempty : P s.empty)
    (hput : ∀ draft name d draft', P draft → s.put draft name d = .ok draft' → P draft')
    {source : Source} {d : Json.Doc} {x : α} (h : s.read source d = .ok x) :
    ∃ draft, P draft ∧ s.finish draft = .ok x := by
  unfold read at h
  split at h
  · obtain ⟨draft, hdraft, h⟩ := exists_ok_of_bind h
    exact ⟨draft, readMembers_keeps hput hempty hdraft, h⟩
  · obtain ⟨⟨draft, rest⟩, hdraft, h⟩ := exists_ok_of_bind h
    obtain ⟨-, -, h⟩ := exists_ok_of_bind h
    exact ⟨draft, readElements_keeps hput hempty hdraft, h⟩
  · exact absurd h wrongType_ne_ok

/-- Members with different names that the shape knows are taken up one after the other. -/
theorem readMembers_known (draft : δ) {seen : List String} {members : List (String × Json.Doc)}
    (hknown : ∀ m ∈ members, s.knows m.1 = true) (hseen : ∀ m ∈ members, m.1 ∉ seen)
    (hnodup : (members.map Prod.fst).Nodup) :
    s.readMembers true seen draft (members.map fun m => (some m.1, m.2)) =
      members.foldlM (fun draft m => s.put draft m.1 m.2) draft := by
  induction members generalizing seen draft with
  | nil => rfl
  | cons m members ih =>
    obtain ⟨hfresh, hnodup⟩ := List.nodup_cons.1 hnodup
    have hknows : s.knows m.1 = true := hknown m List.mem_cons_self
    have hnew : seen.contains m.1 = false := by
      rw [Bool.eq_false_iff, ne_eq, List.contains_iff_mem]
      exact hseen m List.mem_cons_self
    have hrest : ∀ next,
        s.readMembers true (m.1 :: seen) next (members.map fun m => (some m.1, m.2)) =
          members.foldlM (fun draft m => s.put draft m.1 m.2) next := by
      intro next
      refine ih next (fun n hn => hknown n (List.mem_cons_of_mem _ hn)) (fun n hn hmem => ?_) hnodup
      rcases List.mem_cons.1 hmem with heq | hmem
      · exact hfresh (heq ▸ List.mem_map_of_mem hn)
      · exact hseen n (List.mem_cons_of_mem _ hn) hmem
    rw [List.map_cons, readMembers, if_pos hknows, hnew, if_neg Bool.false_ne_true,
      List.foldlM_cons]
    exact congrArg _ (funext hrest)

/-- A written object with fields of a shape, each of them at most once and in their order. -/
theorem read_toDoc (source : Source) {members : List (String × Json.Value)}
    (hnames : (members.map Prod.fst).Sublist (s.fields.map Field.name))
    (hnodup : (s.fields.map Field.name).Nodup) :
    s.read source (Json.Value.object members).toDoc =
      (members.foldlM (fun draft m => s.put draft m.1 m.2.toDoc) s.empty).bind s.finish := by
  have hknown : ∀ m ∈ members.map fun m => (m.1, m.2.toDoc), s.knows m.1 = true := by
    intro m hm
    obtain ⟨member, hmember, rfl⟩ := List.mem_map.1 hm
    have hname : member.1 ∈ s.fields.map Field.name := hnames.subset (List.mem_map_of_mem hmember)
    obtain ⟨field, hfield, hsame⟩ := List.mem_map.1 hname
    exact List.any_eq_true.2 ⟨field, hfield, beq_iff_eq.2 hsame⟩
  have hdistinct : ((members.map fun m => (m.1, m.2.toDoc)).map Prod.fst).Nodup := by
    rw [List.map_map]
    exact hnames.nodup hnodup
  have hmembers := readMembers_known s.empty hknown (fun _ _ => List.not_mem_nil) hdistinct
  rw [List.map_map, List.foldlM_map] at hmembers
  rw [Json.Value.toDoc, read, Json.Value.memberDocs_eq_map]
  exact congrArg (Except.bind · s.finish) hmembers

end Shape

/-! ### Legible records -/

/-- An alert whose timestamp and headers can be read back. -/
structure Alert.Legible (a : Alert) : Prop where
  arrival : a.arrival.IsProper
  headers : a.headers.Ascending

/-- A termination whose exit code can be read back. -/
def Termination.Legible (t : Termination) : Prop :=
  IsInt32 t.exitCode

/-- A record whose parts can be read back. -/
structure EventRecord.Legible (r : EventRecord) : Prop where
  alert : r.alert.Legible
  terminations : ∀ t ∈ r.terminations, t.Legible

/-- An alert is read back. -/
theorem Alert.read_toDoc (source : Source) {a : Alert} (ha : a.Legible) :
    alertShape.read source a.toValue.toDoc = .ok a := by
  rw [Alert.toValue, Shape.read_toDoc source (.refl _) (by decide)]
  simp only [List.foldlM, alertShape, AlertDraft.put, Json.Value.toDoc, readText,
    readTimestamp_text ha.arrival, Headers.readHeaders_toDoc ha.headers]
  rfl

/-- A termination is read back. -/
theorem Termination.read_toDoc (source : Source) {t : Termination} (ht : t.Legible) :
    terminationShape.read source t.toValue.toDoc = .ok t := by
  rw [Termination.toValue, Shape.read_toDoc source (.refl _) (by decide)]
  simp only [List.foldlM, terminationShape, TerminationDraft.put, Json.Value.toDoc, readText,
    readInt32_integer ht, readOptionalText_optionalValue]
  rfl

/-- Terminations are read back. -/
theorem readTerminations_toDoc (source : Source) {ts : List Termination}
    (hts : ∀ t ∈ ts, t.Legible) :
    readTerminations source (.array (Json.Value.itemDocs (ts.map Termination.toValue)) true) =
      .ok ts := by
  have hdocs : Json.Value.itemDocs (ts.map Termination.toValue) =
      ts.map fun t => t.toValue.toDoc := by
    rw [Json.Value.itemDocs_eq_map, List.map_map]
    rfl
  rw [readTerminations, readList, hdocs]
  exact readItemsWith_map fun t ht => t.read_toDoc source (hts t ht)

/-- An action is read back. -/
theorem readAction_name (source : Source) (a : Action) :
    readAction source (.text (some a.name)) = .ok a := by
  have hread : readAction source (.text (some a.name)) =
      lookupName Action.ofName? (Action.all.map Action.name) a.name := by
    cases source <;> rfl
  rw [hread, lookupName, Action.ofName?_name]

theorem hasSmallIntegers_optionalValue (s : Option String) :
    (optionalValue s).HasSmallIntegers := by
  cases s <;> trivial

theorem Headers.hasSmallIntegers (h : Headers) : h.toValue.HasSmallIntegers := by
  refine Json.Value.membersHaveSmallIntegers_iff.2 fun m hm => ?_
  obtain ⟨e, -, rfl⟩ := List.mem_map.1 hm
  refine Json.Value.haveSmallIntegers_iff.2 fun v hv => ?_
  obtain ⟨s, -, rfl⟩ := List.mem_map.1 hv
  trivial

theorem Alert.hasSmallIntegers (a : Alert) : a.toValue.HasSmallIntegers :=
  ⟨trivial, trivial, trivial, trivial, trivial, trivial, trivial, trivial,
    a.headers.hasSmallIntegers, trivial⟩

theorem Termination.hasSmallIntegers {t : Termination} (ht : t.Legible) :
    t.toValue.HasSmallIntegers :=
  ⟨trivial, trivial, IsInt32.isSmall ht, trivial, trivial, hasSmallIntegers_optionalValue t.error,
    trivial⟩

/-! ### Fields of records -/

/-- The fields of a record as a JSON value, whatever its remarks are. A record without an identifier
leaves it out. -/
def RawRecord.toValue (r : RawRecord) : Json.Value :=
  .object
    ((match r.id with | some u => [("id", .text u.text)] | none => []) ++
      [("alert", r.alert.toValue), ("error", optionalValue r.error),
        ("note", optionalValue r.note), ("action", .text r.action.name),
        ("terminations", .array (r.terminations.map Termination.toValue))])

/-- A text is a whole document with these fields of a record. -/
def RawRecord.IsIn (raw : RawRecord) (s : String) : Prop :=
  ∃ d, Json.read s = ⟨d, true⟩ ∧ (recordShape .text).read .text d = .ok raw

/-- Fields of a record whose parts can be read back. -/
structure RawRecord.Legible (r : RawRecord) : Prop where
  alert : r.alert.Legible
  terminations : ∀ t ∈ r.terminations, t.Legible

namespace RawRecord

variable {r : RawRecord}

/-- The fields of a record are read back. -/
theorem read_toDoc (source : Source) (hr : r.Legible) :
    (recordShape source).read source r.toValue.toDoc = .ok r := by
  obtain ⟨id, alert, error, note, action, terminations⟩ := r
  have halert : alertShape.read source alert.toValue.toDoc = .ok alert :=
    alert.read_toDoc source hr.alert
  have hterminations := readTerminations_toDoc source hr.terminations
  cases id with
  | none =>
    rw [toValue, Shape.read_toDoc source (.cons _ (.refl _)) (by cases source <;> decide)]
    simp only [List.nil_append, List.foldlM, recordShape, RecordDraft.put, Json.Value.toDoc, halert,
      readOptionalText_optionalValue, readAction_name, hterminations]
    rfl
  | some u =>
    rw [toValue, Shape.read_toDoc source (.refl _) (by cases source <;> decide)]
    simp only [List.singleton_append, List.foldlM, recordShape, RecordDraft.put, Json.Value.toDoc,
      readUuid_text, halert, readOptionalText_optionalValue, readAction_name, hterminations]
    rfl

/-- A value with the fields of a record is the record that is made of them, or none. -/
theorem ofDoc_of_read {source : Source} {fresh : Uuid} {d : Json.Doc}
    (h : (recordShape source).read source d = .ok r) :
    EventRecord.ofDoc source fresh d = r.toRecord fresh := by
  unfold EventRecord.ofDoc
  rw [h]
  rfl

/-- So is a text. -/
theorem IsIn.read_eq {s : String} (h : r.IsIn s) (fresh : Uuid) :
    EventRecord.read fresh s = r.toRecord fresh := by
  obtain ⟨d, hdocument, hread⟩ := h
  have hsame : EventRecord.read fresh s = (EventRecord.ofDoc .text fresh d).bind .ok := by
    unfold EventRecord.read
    rw [hdocument]
    rfl
  rw [hsame, ofDoc_of_read hread]
  cases r.toRecord fresh <;> rfl

/-- The integers of legible fields are the exit codes. -/
theorem Legible.hasSmallIntegers (hr : r.Legible) : r.toValue.HasSmallIntegers := by
  obtain ⟨id, alert, error, note, action, terminations⟩ := r
  have hterminations : Json.Value.HaveSmallIntegers (terminations.map Termination.toValue) := by
    refine Json.Value.haveSmallIntegers_iff.2 fun v hv => ?_
    obtain ⟨t, ht, rfl⟩ := List.mem_map.1 hv
    exact Termination.hasSmallIntegers (hr.terminations t ht)
  have hfields := And.intro alert.hasSmallIntegers
    (And.intro (hasSmallIntegers_optionalValue error)
      (And.intro (hasSmallIntegers_optionalValue note)
        (And.intro trivial (And.intro hterminations trivial))))
  cases id with
  | none => exact hfields
  | some u => exact And.intro trivial hfields

/-- The text of legible fields is a whole document. -/
theorem Legible.document (hr : r.Legible) : Json.read r.toValue.write = ⟨r.toValue.toDoc, true⟩ :=
  Json.read_write r.toValue hr.hasSmallIntegers

/-- Legible fields are read back from their text, whatever their remarks are. -/
theorem Legible.isIn (hr : r.Legible) : r.IsIn r.toValue.write :=
  ⟨_, hr.document, r.read_toDoc .text hr⟩

end RawRecord

namespace EventRecord

variable {r : EventRecord}

theorem shown_none : Remark.Shown none := by
  intro s hs
  cases hs

/-- A remark with something to show is kept. -/
theorem nonBlank_eq_self {remark : Remark} (h : remark.Shown) : Text.nonBlank remark = remark := by
  cases remark with
  | none => rfl
  | some s =>
    have hs : Text.isBlankText s = false := h s rfl
    rw [Text.nonBlank, Option.filter_some, hs]
    rfl

/-- The record is built again from its fields. -/
theorem make?_self (r : EventRecord) :
    make? r.id r.alert r.error r.note r.action r.terminations = .ok r := by
  have herror := nonBlank_eq_self r.error_shown
  have hnote := nonBlank_eq_self r.note_shown
  unfold make?
  simp only [herror, hnote, r.has_remark, dite_true]

/-- The fields of a record. -/
def raw (r : EventRecord) : RawRecord :=
  ⟨some r.id, r.alert, r.error, r.note, r.action, r.terminations⟩

/-- A record passes the look at its remarks once more. -/
theorem toRecord_raw (r : EventRecord) (fresh : Uuid) : r.raw.toRecord fresh = .ok r := by
  rw [RawRecord.toRecord, raw, Option.getD_some, make?_self]

theorem Legible.raw (hr : r.Legible) : r.raw.Legible :=
  ⟨hr.alert, hr.terminations⟩

/-- The text of a legible record is a whole document. -/
theorem Legible.document (hr : r.Legible) : Json.read r.write = ⟨r.toValue.toDoc, true⟩ :=
  hr.raw.document

/-- A legible record is read back from its text. -/
theorem Legible.read_write_self (hr : r.Legible) (fresh : Uuid) : read fresh r.write = .ok r :=
  (hr.raw.isIn.read_eq fresh).trans (r.toRecord_raw fresh)

end EventRecord

/-! ### What is read -/

/-- A field that is required was there. -/
theorem eq_some_of_required {α : Type} {name : String} {field : Option α} {x : α}
    (h : required name field = .ok x) : field = some x := by
  cases field with
  | none => cases h
  | some y => rw [Except.ok.inj h]

/-- A draft whose timestamp and headers can be read back. -/
structure AlertDraft.Legible (a : AlertDraft) : Prop where
  arrival : ∀ t, a.arrival = some t → t.IsProper
  headers : ∀ h, a.headers = some h → h.Ascending

/-- No field makes a draft illegible. -/
theorem AlertDraft.legible_put (a : AlertDraft) (name : String) (d : Json.Doc) (a' : AlertDraft)
    (ha : a.Legible) (h : a.put name d = .ok a') : a'.Legible := by
  unfold AlertDraft.put at h
  split at h
  case h_4 =>
    obtain ⟨t, ht, rfl⟩ := exists_ok_of_map h
    exact ⟨fun u hu => Option.some.inj hu ▸ isProper_of_readTimestamp ht, ha.headers⟩
  case h_9 =>
    obtain ⟨headers, hread, rfl⟩ := exists_ok_of_map h
    exact ⟨ha.arrival, fun u hu => Option.some.inj hu ▸ Headers.ascending_of_readHeaders hread⟩
  case h_10 =>
    obtain rfl := Except.ok.inj h
    exact ha
  -- Neither the timestamp nor the headers are touched.
  all_goals
    obtain ⟨s, -, rfl⟩ := exists_ok_of_map h
    exact ⟨ha.arrival, ha.headers⟩

theorem Alert.legible_of_read {source : Source} {d : Json.Doc} {a : Alert}
    (h : alertShape.read source d = .ok a) : a.Legible := by
  have hempty : AlertDraft.Legible alertShape.empty := ⟨nofun, nofun⟩
  obtain ⟨draft, hdraft, h⟩ := Shape.exists_of_read hempty AlertDraft.legible_put h
  obtain ⟨username, -, h⟩ := exists_ok_of_bind h
  obtain ⟨userIp, -, h⟩ := exists_ok_of_bind h
  obtain ⟨senderIp, -, h⟩ := exists_ok_of_bind h
  obtain ⟨arrival, harrival, h⟩ := exists_ok_of_bind h
  obtain ⟨alertName, -, h⟩ := exists_ok_of_bind h
  obtain ⟨searchId, -, h⟩ := exists_ok_of_bind h
  obtain ⟨endpointPath, -, h⟩ := exists_ok_of_bind h
  obtain ⟨httpMethod, -, h⟩ := exists_ok_of_bind h
  obtain rfl := Except.ok.inj h
  refine ⟨hdraft.arrival arrival (eq_some_of_required harrival), ?_⟩
  cases hheaders : draft.headers with
  | none => exact List.Pairwise.nil
  | some headers => exact hdraft.headers headers hheaders

/-- A draft whose exit code can be read back. -/
def TerminationDraft.Legible (t : TerminationDraft) : Prop :=
  ∀ n, t.exitCode = some n → IsInt32 n

theorem TerminationDraft.legible_put (t : TerminationDraft) (name : String) (d : Json.Doc)
    (t' : TerminationDraft) (ht : t.Legible) (h : t.put name d = .ok t') : t'.Legible := by
  unfold TerminationDraft.put at h
  split at h
  case h_3 =>
    obtain ⟨n, hn, rfl⟩ := exists_ok_of_map h
    exact fun m hm => Option.some.inj hm ▸ isInt32_of_readInt32 hn
  case h_7 =>
    obtain rfl := Except.ok.inj h
    exact ht
  all_goals
    obtain ⟨s, -, rfl⟩ := exists_ok_of_map h
    exact ht

theorem Termination.legible_of_read {source : Source} {d : Json.Doc} {t : Termination}
    (h : terminationShape.read source d = .ok t) : t.Legible := by
  have hempty : TerminationDraft.Legible terminationShape.empty := nofun
  obtain ⟨draft, hdraft, h⟩ := Shape.exists_of_read hempty TerminationDraft.legible_put h
  obtain ⟨sessionId, -, h⟩ := exists_ok_of_bind h
  obtain ⟨ipAddress, -, h⟩ := exists_ok_of_bind h
  obtain ⟨exitCode, hcode, h⟩ := exists_ok_of_bind h
  obtain rfl := Except.ok.inj h
  exact hdraft exitCode (eq_some_of_required hcode)

/-- A draft whose alert and terminations can be read back. -/
structure RecordDraft.Legible (r : RecordDraft) : Prop where
  alert : ∀ a, r.alert = some a → a.Legible
  terminations : ∀ ts, r.terminations = some ts → ∀ t ∈ ts, t.Legible

theorem RecordDraft.legible_put (source : Source) (r : RecordDraft) (name : String) (d : Json.Doc)
    (r' : RecordDraft) (hr : r.Legible) (h : r.put source name d = .ok r') : r'.Legible := by
  unfold RecordDraft.put at h
  split at h
  case h_2 =>
    obtain ⟨a, ha, rfl⟩ := exists_ok_of_map h
    exact ⟨fun b hb => Option.some.inj hb ▸ Alert.legible_of_read ha, hr.terminations⟩
  case h_6 =>
    obtain ⟨ts, hts, rfl⟩ := exists_ok_of_map h
    refine ⟨hr.alert, fun us hus => Option.some.inj hus ▸ ?_⟩
    exact forall_of_readList (fun _ _ => Termination.legible_of_read) hts
  case h_7 =>
    obtain rfl := Except.ok.inj h
    exact hr
  all_goals
    obtain ⟨s, -, rfl⟩ := exists_ok_of_map h
    exact ⟨hr.alert, hr.terminations⟩

namespace EventRecord

variable {source : Source} {fresh : Uuid} {r : EventRecord}

/-- Building a record changes neither its alert nor its terminations. -/
theorem parts_of_make? {id : Uuid} {alert : Alert} {error note : Option String} {action : Action}
    {terminations : List Termination}
    (h : make? id alert error note action terminations = .ok r) :
    r.alert = alert ∧ r.terminations = terminations := by
  unfold make? at h
  split at h
  · obtain rfl := Except.ok.inj h
    exact ⟨rfl, rfl⟩
  · cases h

/-- Every record that is read from a value is legible. -/
theorem legible_of_ofDoc {d : Json.Doc} (h : ofDoc source fresh d = .ok r) : r.Legible := by
  obtain ⟨raw, hraw, h⟩ := exists_ok_of_bind h
  have hempty : RecordDraft.Legible (recordShape source).empty := ⟨nofun, nofun⟩
  obtain ⟨draft, hdraft, hfinish⟩ :=
    Shape.exists_of_read hempty (RecordDraft.legible_put source) hraw
  obtain ⟨alert, halert, hfinish⟩ := exists_ok_of_bind hfinish
  obtain ⟨action, -, hfinish⟩ := exists_ok_of_bind hfinish
  obtain rfl := Except.ok.inj hfinish
  unfold RawRecord.toRecord at h
  split at h
  · rename_i hmake
    obtain rfl := Except.ok.inj h
    obtain ⟨hsame, hterminations⟩ := parts_of_make? hmake
    constructor
    · rw [hsame]
      exact hdraft.alert alert (eq_some_of_required halert)
    · rw [hterminations]
      cases hdrafted : draft.terminations with
      | none => exact nofun
      | some ts => exact hdraft.terminations ts hdrafted
  · cases h

/-- Every record that is read from a text is legible. -/
theorem legible_of_read {s : String} (h : read fresh s = .ok r) : r.Legible := by
  obtain ⟨record, hrecord, h⟩ := exists_ok_of_bind h
  split at h
  · obtain rfl := Except.ok.inj h
    exact legible_of_ofDoc hrecord
  · cases h

/-- The records that are read from texts are the legible ones. -/
theorem legible_iff : r.Legible ↔ ∃ fresh s, read fresh s = .ok r := by
  constructor
  · intro hr
    exact ⟨.nil, r.write, hr.read_write_self .nil⟩
  · rintro ⟨fresh, s, h⟩
    exact legible_of_read h

/-- The records that a reader gives are exactly those with a timestamp that exists, headers in the
order of their names and exit codes of 32 bits, whatever characters are in them. Such a record is
written as a whole document with all of its fields, and read back from it, whatever the text looked
like from which it came. -/
theorem read_write_of_read (r : EventRecord) :
    (r.Legible ↔ ∃ fresh s, read fresh s = .ok r) ∧
      ∀ fresh s, read fresh s = .ok r →
        Json.read r.write = ⟨r.toValue.toDoc, true⟩ ∧ ∀ fresh', read fresh' r.write = .ok r := by
  constructor
  · exact legible_iff
  · intro fresh s h
    have hr := legible_of_read h
    constructor
    · exact hr.document
    · intro fresh'
      exact hr.read_write_self fresh'

/-- A text without an identifier, with a blank error, a leap second in another time zone, a pair of
surrogates, and headers in descending order of which one is given twice. The alert and the
termination are lists of their fields. -/
def loose : String :=
  "\x7b\"action\": \"termination_failed\", \"error\": \" \", \"note\": \"a\\u0000\\tb\", " ++
  "\"alert\": [\"\\ud83d\\ude00\", \"\", \"\", \"2016-12-31t18:59:60.5000-05:00\", " ++
  "\"\", \"\", \"\", \"\", \x7b\"b\": [\"1\"], \"a\": [], \"b\": [\"2\", \"3\"]\x7d], " ++
  "\"terminations\": [[\"s\", \"\", -2147483648]]\x7d"

/-- What is read from it. -/
def looseRecord : EventRecord where
  id := .nil
  alert :=
    { username := "😀"
      arrival := ⟨⟨2016, 12, 31⟩, 23, 59, 60, 500000000⟩
      headers := [("a", []), ("b", ["2", "3"])] }
  error := none
  note := some "a\x00\tb"
  action := .terminationFailed
  terminations := [{ sessionId := "s", ipAddress := "", exitCode := -2147483648 }]
  error_shown := shown_none
  note_shown := by
    intro s hs
    cases hs
    rfl
  has_remark := .inr (Option.some_ne_none _)

/-- The record is read back from its own text, which has all fields and only one of each. -/
theorem looseRecord_read_back :
    read .nil loose = .ok looseRecord ∧
      Json.read looseRecord.write = ⟨looseRecord.toValue.toDoc, true⟩ ∧
      ∀ fresh', read fresh' looseRecord.write = .ok looseRecord := by
  have hread : read .nil loose = .ok looseRecord := eq_ok_of_toOption (by decide +kernel)
  exact ⟨hread, (read_write_of_read looseRecord).2 .nil loose hread⟩

end EventRecord

end AlertRelay
