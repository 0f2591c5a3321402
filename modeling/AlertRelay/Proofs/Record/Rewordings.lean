import AlertRelay.Proofs.Record.Shapes
import Mathlib.Logic.Relation

/-!
# Records in other words

A record can be given in many forms, and so can its alert, the headers of the alert and the
terminations. `EventRecord.Rewording` is one change of the form, on any of these levels; any number
of them, in either direction, leads to values of which there are texts, and from all of these texts
the same record is read (`EventRecord.reworded`). The fields of each of the three objects are taken
up independently of each other (`recordShape_independent`), and so are headers with different names
(`Headers.insert_comm`).
-/

namespace AlertRelay

variable {α : Type}

/-! ### Lists and headers -/

/-- Another form of an item of a list. -/
inductive ItemRewording (item : Json.Doc → Json.Doc → Prop) : Json.Doc → Json.Doc → Prop where
  | item {ds ds' : List Json.Doc} {d d' : Json.Doc} (h : item d d') :
    ItemRewording item (.array (ds ++ d :: ds') true) (.array (ds ++ d' :: ds') true)

theorem toOption_readItemsWith_cons (reader : Json.Doc → ReadResult α) (closed : Bool)
    (d : Json.Doc) (ds : List Json.Doc) :
    (readItemsWith reader closed (d :: ds)).toOption =
      (reader d).toOption.bind fun x =>
        (readItemsWith reader closed ds).toOption.map (x :: ·) := by
  rw [readItemsWith]
  rcases reader d with fault | x
  · rfl
  · rcases readItemsWith reader closed ds with fault | xs <;> rfl

/-- Items are read one after the other, so each of them can be given in another form. -/
theorem ItemRewording.toOption_readList {item : Json.Doc → Json.Doc → Prop}
    {reader : Json.Doc → ReadResult α}
    (hreader : ∀ d d', item d d' → (reader d).toOption = (reader d').toOption) {d d' : Json.Doc}
    (h : ItemRewording item d d') :
    (readList reader d).toOption = (readList reader d').toOption := by
  obtain ⟨hitem⟩ := h
  rename_i ds ds' d d'
  rw [readList, readList]
  induction ds with
  | nil =>
    rw [List.nil_append, List.nil_append, toOption_readItemsWith_cons, toOption_readItemsWith_cons,
      hreader d d' hitem]
  | cons e ds ih =>
    rw [List.cons_append, List.cons_append, toOption_readItemsWith_cons,
      toOption_readItemsWith_cons, ih]

namespace Headers

/-- Headers in another order, if no name is given twice. -/
inductive Rewording : Json.Doc → Json.Doc → Prop where
  | permute {ms ms' : List (Option String × Json.Doc)} (h : ms.Perm ms')
    (hnames : (ms.map Prod.fst).Nodup) : Rewording (.object ms true) (.object ms' true)

variable {a b : String} {k v w : List String} {rest : Headers}

theorem insert_cons_of_lt (h : a < b) :
    Headers.insert a v ((b, k) :: rest) = (a, v) :: (b, k) :: rest := by
  rw [Headers.insert, if_pos h]

theorem insert_cons_self : Headers.insert a v ((a, k) :: rest) = (a, v) :: rest := by
  rw [Headers.insert, if_neg (String.lt_irrefl a), if_pos rfl]

theorem insert_cons_of_gt (h : b < a) :
    Headers.insert a v ((b, k) :: rest) = (b, k) :: rest.insert a v := by
  have hne : a ≠ b := fun heq => String.lt_irrefl b (heq ▸ h)
  rw [Headers.insert, if_neg (String.lt_asymm h), if_neg hne]

theorem name_trichotomy (a b : String) : a < b ∨ a = b ∨ b < a := by
  by_cases hab : a < b
  · exact .inl hab
  · by_cases hba : b < a
    · exact .inr (.inr hba)
    · exact .inr (.inl (String.le_antisymm (String.not_lt.1 hba) (String.not_lt.1 hab)))

/-- Headers with different names may be put in in any order. -/
theorem insert_comm_of_lt (hab : a < b) (h : Headers) :
    (h.insert a v).insert b w = (h.insert b w).insert a v := by
  induction h with
  | nil => exact (insert_cons_of_gt hab).trans (insert_cons_of_lt hab).symm
  | cons first rest ih =>
    obtain ⟨name, kept⟩ := first
    rcases name_trichotomy a name with hbefore | rfl | hbehind
    · rw [insert_cons_of_lt hbefore, insert_cons_of_gt hab]
      -- The header that is put in second stands behind the first one, wherever its place is.
      rcases name_trichotomy b name with hb | rfl | hb
      · rw [insert_cons_of_lt hb, insert_cons_of_lt hab]
      · rw [insert_cons_self, insert_cons_of_lt hab]
      · rw [insert_cons_of_gt hb, insert_cons_of_lt hbefore]
    · rw [insert_cons_self, insert_cons_of_gt hab, insert_cons_of_gt hab, insert_cons_self]
    · have hb : name < b := String.lt_trans hbehind hab
      rw [insert_cons_of_gt hbehind, insert_cons_of_gt hb, insert_cons_of_gt hb,
        insert_cons_of_gt hbehind, ih]

theorem insert_comm (hne : a ≠ b) (h : Headers) :
    (h.insert a v).insert b w = (h.insert b w).insert a v := by
  rcases name_trichotomy a b with hab | heq | hba
  · exact insert_comm_of_lt hab h
  · exact absurd heq hne
  · exact (insert_comm_of_lt hba h).symm

/-- The header that a member stands for. -/
def ofMember? (m : Option String × Json.Doc) : Option (String × List String) :=
  m.1.bind fun name => (readList (readText .text) m.2).toOption.map (name, ·)

/-- Puts a header in, unless there was a fault before. -/
def takeUp (h : Option Headers) (m : Option String × Json.Doc) : Option Headers :=
  h.bind fun h => (ofMember? m).map fun e => h.insert e.1 e.2

theorem takeUp_comm (h : Option Headers) {m m' : Option String × Json.Doc} (hne : m.1 ≠ m'.1) :
    takeUp (takeUp h m) m' = takeUp (takeUp h m') m := by
  have hname : ∀ {m e}, ofMember? m = some e → m.1 = some e.1 := by
    intro m e he
    obtain ⟨name, hname, he⟩ := Option.bind_eq_some_iff.1 he
    obtain ⟨values, -, rfl⟩ := Option.map_eq_some_iff.1 he
    exact hname
  unfold takeUp
  rcases h with _ | h
  · rfl
  rcases hm : ofMember? m with _ | e
  · rcases ofMember? m' with _ | e' <;> rfl
  · rcases hm' : ofMember? m' with _ | e'
    · rfl
    · rw [hname hm, hname hm'] at hne
      exact congrArg some (insert_comm (fun heq => hne (congrArg some heq)) h)

theorem toOption_readHeaderMembers (h : Headers) (ms : List (Option String × Json.Doc)) :
    (readHeaderMembers true h ms).toOption = ms.foldl takeUp (some h) := by
  have hnone : ∀ ms : List (Option String × Json.Doc), ms.foldl takeUp none = none :=
    List.foldl_fixed' fun _ => rfl
  induction ms generalizing h with
  | nil => rfl
  | cons m ms ih =>
    obtain ⟨name, d⟩ := m
    rw [List.foldl_cons]
    rcases name with _ | name
    · exact (hnone ms).symm
    · rw [readHeaderMembers, takeUp, Option.bind_some, ofMember?, Option.bind_some]
      rcases readList (readText .text) d with fault | values
      · exact (hnone ms).symm
      · exact ih (h.insert name values)

/-- The order of headers with different names makes no difference. -/
theorem Rewording.toOption_readHeaders {d d' : Json.Doc} (h : Rewording d d') :
    (readHeaders d).toOption = (readHeaders d').toOption := by
  obtain ⟨hperm, hnames⟩ := h
  rw [readHeaders, readHeaders, toOption_readHeaderMembers, toOption_readHeaderMembers]
  exact foldl_eq_of_perm (fun h _ _ hne => takeUp_comm h hne) hperm hnames _

end Headers

/-! ### Terminations -/

/-- The members of a termination that may be left out, with their defaults. -/
def terminationDefaults : List (String × Json.Doc) :=
  [("stdout", .text (some "")), ("stderr", .text (some "")), ("error", .null)]

/-- One change of the form of a termination. -/
def Termination.Rewording : Json.Doc → Json.Doc → Prop :=
  terminationShape.Rewording terminationDefaults fun _ _ _ => False

/-- Fills the defaults in. -/
def TerminationDraft.withDefaults (t : TerminationDraft) : TerminationDraft :=
  { t with
    stdout := some (t.stdout.getD "")
    stderr := some (t.stderr.getD "")
    error := some (t.error.getD none) }

theorem TerminationDraft.put_comm {a b c : TerminationDraft} {n m : String} {d e : Json.Doc}
    (hne : n ≠ m) (hn : a.put n d = .ok b) (hm : b.put m e = .ok c) :
    ∃ b', a.put m e = .ok b' ∧ b'.put n d = .ok c := by
  unfold TerminationDraft.put at *
  dsimp only at *
  -- One case for each pair of names; a name without a field changes nothing.
  split at hn <;> split at hm
  all_goals first
    | exact absurd rfl hne
    | (obtain ⟨u, hu, rfl⟩ := exists_ok_of_map hn
       obtain ⟨v, hv, rfl⟩ := exists_ok_of_map hm
       exact ⟨_, congrArg (Except.map _) hv, congrArg (Except.map _) hu⟩)
    | exact ⟨_, rfl, hn.trans hm⟩
    | (obtain rfl := Except.ok.inj hn
       exact ⟨_, hm, rfl⟩)

theorem TerminationDraft.put_withDefaults (t : TerminationDraft) (name : String) (d : Json.Doc) :
    (t.withDefaults.put name d).toOption.map withDefaults =
      (t.put name d).toOption.map withDefaults := by
  unfold TerminationDraft.put
  dsimp only
  split
  all_goals first
    | (simp only [toOption_map, Option.map_map]; rfl)
    | rfl

theorem terminationShape_independent :
    terminationShape.Independent terminationDefaults TerminationDraft.withDefaults where
  names_nodup := by decide
  put_comm := TerminationDraft.put_comm
  put_normal := TerminationDraft.put_withDefaults
  finish_normal t := rfl
  default_known := by
    unfold terminationDefaults
    simp only [List.forall_mem_cons]
    decide
  put_default := by
    intro m hm
    simp only [terminationDefaults, List.mem_cons, List.not_mem_nil, or_false] at hm
    rcases hm with rfl | rfl | rfl <;> rfl

/-! ### Alerts -/

/-- The member of an alert that may be left out, with its default. -/
def alertDefaults : List (String × Json.Doc) :=
  [("headers", .object [] true)]

/-- One change of the form of an alert, or of the order of its headers. -/
def Alert.Rewording : Json.Doc → Json.Doc → Prop :=
  alertShape.Rewording alertDefaults fun name d d' => name = "headers" ∧ Headers.Rewording d d'

/-- Fills the default in. -/
def AlertDraft.withDefaults (a : AlertDraft) : AlertDraft :=
  { a with headers := some (a.headers.getD []) }

theorem AlertDraft.put_comm {a b c : AlertDraft} {n m : String} {d e : Json.Doc} (hne : n ≠ m)
    (hn : a.put n d = .ok b) (hm : b.put m e = .ok c) :
    ∃ b', a.put m e = .ok b' ∧ b'.put n d = .ok c := by
  unfold AlertDraft.put at *
  dsimp only at *
  split at hn <;> split at hm
  all_goals first
    | exact absurd rfl hne
    | (obtain ⟨u, hu, rfl⟩ := exists_ok_of_map hn
       obtain ⟨v, hv, rfl⟩ := exists_ok_of_map hm
       exact ⟨_, congrArg (Except.map _) hv, congrArg (Except.map _) hu⟩)
    | exact ⟨_, rfl, hn.trans hm⟩
    | (obtain rfl := Except.ok.inj hn
       exact ⟨_, hm, rfl⟩)

theorem AlertDraft.put_withDefaults (a : AlertDraft) (name : String) (d : Json.Doc) :
    (a.withDefaults.put name d).toOption.map withDefaults =
      (a.put name d).toOption.map withDefaults := by
  unfold AlertDraft.put
  dsimp only
  split
  all_goals first
    | (simp only [toOption_map, Option.map_map]; rfl)
    | rfl

theorem alertShape_independent :
    alertShape.Independent alertDefaults AlertDraft.withDefaults where
  names_nodup := by decide
  put_comm := AlertDraft.put_comm
  put_normal := AlertDraft.put_withDefaults
  finish_normal a := rfl
  default_known := by
    unfold alertDefaults
    simp only [List.forall_mem_cons]
    decide
  put_default := by
    intro m hm
    obtain rfl := List.mem_singleton.1 hm
    rfl

theorem Alert.Rewording.toOption_read {d d' : Json.Doc} (h : Alert.Rewording d d') :
    (alertShape.read .text d).toOption = (alertShape.read .text d').toOption := by
  refine Shape.Rewording.toOption_read alertShape_independent ?_ h
  rintro _ d d' ⟨rfl, hheaders⟩
  refine ⟨by decide, fun a => ?_⟩
  have hput : ∀ d, alertShape.put a "headers" d =
      (readHeaders d).map fun h => { a with headers := some h } := fun d => rfl
  rw [hput, hput, toOption_map, toOption_map, hheaders.toOption_readHeaders]

/-! ### Records -/

/-- The members of a record that may be left out, with their defaults. -/
def recordDefaults : List (String × Json.Doc) :=
  [("error", .null), ("note", .null), ("terminations", .array [] true)]

/-- The forms in which the parts of a record can be given. -/
inductive PartRewording : String → Json.Doc → Json.Doc → Prop where
  | alert {d d' : Json.Doc} (h : Alert.Rewording d d') : PartRewording "alert" d d'
  | terminations {d d' : Json.Doc} (h : ItemRewording Termination.Rewording d d') :
    PartRewording "terminations" d d'

/-- One change of the form of a record, of its alert or of one of its terminations. -/
def EventRecord.Rewording : Json.Doc → Json.Doc → Prop :=
  (recordShape .text).Rewording recordDefaults PartRewording

/-- Fills the defaults in. -/
def RecordDraft.withDefaults (r : RecordDraft) : RecordDraft :=
  { r with
    error := some (r.error.getD none)
    note := some (r.note.getD none)
    terminations := some (r.terminations.getD []) }

theorem RecordDraft.put_comm {source : Source} {a b c : RecordDraft} {n m : String}
    {d e : Json.Doc} (hne : n ≠ m) (hn : a.put source n d = .ok b)
    (hm : b.put source m e = .ok c) :
    ∃ b', a.put source m e = .ok b' ∧ b'.put source n d = .ok c := by
  unfold RecordDraft.put at *
  split at hn <;> split at hm
  all_goals first
    | exact absurd rfl hne
    | (obtain ⟨u, hu, rfl⟩ := exists_ok_of_map hn
       obtain ⟨v, hv, rfl⟩ := exists_ok_of_map hm
       exact ⟨_, congrArg (Except.map _) hv, congrArg (Except.map _) hu⟩)
    | exact ⟨_, rfl, hn.trans hm⟩
    | (obtain rfl := Except.ok.inj hn
       exact ⟨_, hm, rfl⟩)

theorem RecordDraft.put_withDefaults (source : Source) (r : RecordDraft) (name : String)
    (d : Json.Doc) :
    (r.withDefaults.put source name d).toOption.map withDefaults =
      (r.put source name d).toOption.map withDefaults := by
  unfold RecordDraft.put
  split
  all_goals first
    | (simp only [toOption_map, Option.map_map]; rfl)
    | rfl

theorem recordShape_independent (source : Source) :
    (recordShape source).Independent recordDefaults RecordDraft.withDefaults where
  names_nodup := by
    show ["id", "alert", "error", "note", "action", "terminations"].Nodup
    decide
  put_comm := RecordDraft.put_comm
  put_normal := RecordDraft.put_withDefaults source
  finish_normal r := rfl
  default_known := by
    intro m hm
    simp only [recordDefaults, List.mem_cons, List.not_mem_nil, or_false] at hm
    rcases hm with rfl | rfl | rfl <;> rfl
  put_default := by
    intro m hm
    simp only [recordDefaults, List.mem_cons, List.not_mem_nil, or_false] at hm
    rcases hm with rfl | rfl | rfl <;> rfl

theorem Termination.Rewording.toOption_read {d d' : Json.Doc} (h : Termination.Rewording d d') :
    (terminationShape.read .text d).toOption = (terminationShape.read .text d').toOption :=
  Shape.Rewording.toOption_read terminationShape_independent nofun h

theorem PartRewording.interchangeable {name : String} {d d' : Json.Doc}
    (h : PartRewording name d d') : (recordShape .text).Interchangeable name d d' := by
  rcases h with h | h
  · refine ⟨rfl, fun r => ?_⟩
    have hput : ∀ d, (recordShape .text).put r "alert" d =
        (alertShape.read .text d).map fun a => { r with alert := some a } := fun d => rfl
    rw [hput, hput, toOption_map, toOption_map, h.toOption_read]
  · refine ⟨rfl, fun r => ?_⟩
    have hput : ∀ d, (recordShape .text).put r "terminations" d =
        (readTerminations .text d).map fun ts => { r with terminations := some ts } := fun d => rfl
    have hread := h.toOption_readList fun d d' (ht : Termination.Rewording d d') => ht.toOption_read
    rw [hput, hput, toOption_map, toOption_map, readTerminations, hread]

/-! ### Changes and documents -/

theorem Headers.Rewording.isDocument_iff {d d' : Json.Doc} (h : Headers.Rewording d d') :
    Json.IsDocument d ↔ Json.IsDocument d' := by
  obtain ⟨hperm, -⟩ := h
  simp only [Json.isDocument_object_iff, hperm.mem_iff]

theorem ItemRewording.isDocument_iff {item : Json.Doc → Json.Doc → Prop}
    (hitem : ∀ d d', item d d' → (Json.IsDocument d ↔ Json.IsDocument d')) {d d' : Json.Doc}
    (h : ItemRewording item d d') : Json.IsDocument d ↔ Json.IsDocument d' := by
  obtain ⟨h⟩ := h
  simp only [Json.isDocument_array_iff, List.forall_mem_append, List.forall_mem_cons, hitem _ _ h]

theorem Termination.Rewording.isDocument_iff {d d' : Json.Doc} (h : Termination.Rewording d d') :
    Json.IsDocument d ↔ Json.IsDocument d' := by
  refine Shape.Rewording.isDocument_iff (fun m hm => ?_) nofun h
  simp only [terminationDefaults, List.mem_cons, List.not_mem_nil, or_false] at hm
  rcases hm with rfl | rfl | rfl
  · exact Json.isDocument_iff.2 (.text _)
  · exact Json.isDocument_iff.2 (.text _)
  · exact Json.isDocument_iff.2 .null

theorem Alert.Rewording.isDocument_iff {d d' : Json.Doc} (h : Alert.Rewording d d') :
    Json.IsDocument d ↔ Json.IsDocument d' := by
  refine Shape.Rewording.isDocument_iff (fun m hm => ?_) (fun _ _ _ h => h.2.isDocument_iff) h
  obtain rfl := List.mem_singleton.1 hm
  exact Json.isDocument_object_iff.2 ⟨rfl, nofun⟩

theorem PartRewording.isDocument_iff {name : String} {d d' : Json.Doc}
    (h : PartRewording name d d') : Json.IsDocument d ↔ Json.IsDocument d' := by
  rcases h with h | h
  · exact h.isDocument_iff
  · exact h.isDocument_iff fun _ _ ht => Termination.Rewording.isDocument_iff ht

namespace EventRecord

variable {d d' : Json.Doc}

theorem Rewording.isDocument_iff (h : EventRecord.Rewording d d') :
    Json.IsDocument d ↔ Json.IsDocument d' := by
  refine Shape.Rewording.isDocument_iff (fun m hm => ?_) (fun _ _ _ h => h.isDocument_iff) h
  simp only [recordDefaults, List.mem_cons, List.not_mem_nil, or_false] at hm
  rcases hm with rfl | rfl | rfl
  · exact Json.isDocument_iff.2 .null
  · exact Json.isDocument_iff.2 .null
  · exact Json.isDocument_array_iff.2 ⟨rfl, nofun⟩

theorem Rewording.toOption_read (h : EventRecord.Rewording d d') :
    ((recordShape .text).read .text d).toOption = ((recordShape .text).read .text d').toOption :=
  Shape.Rewording.toOption_read (recordShape_independent .text)
    (fun _ _ _ => PartRewording.interchangeable) h

/-- Any number of changes in either direction leave the fields of a record as they are, and there is
a text with the value they lead to. -/
theorem reworded (h : Relation.EqvGen EventRecord.Rewording d d') :
    ((recordShape .text).read .text d).toOption =
        ((recordShape .text).read .text d').toOption ∧
      (Json.IsDocument d ↔ Json.IsDocument d') := by
  induction h with
  | rel d d' h => exact ⟨h.toOption_read, h.isDocument_iff⟩
  | refl d => exact ⟨rfl, Iff.rfl⟩
  | symm d d' _ ih => exact ⟨ih.1.symm, ih.2.symm⟩
  | trans d d' d'' _ _ ih ih' => exact ⟨ih.1.trans ih'.1, ih.2.trans ih'.2⟩

end EventRecord

/-! ### Explicit identifiers -/

theorem RecordDraft.put_keeps_id {source : Source} {a b : RecordDraft} {name : String}
    {d : Json.Doc} (ha : a.id.isSome = true) (h : a.put source name d = .ok b) :
    b.id.isSome = true := by
  unfold RecordDraft.put at h
  split at h
  all_goals first
    | (obtain ⟨u, -, rfl⟩ := exists_ok_of_map h
       exact ha)
    | (obtain ⟨u, -, rfl⟩ := exists_ok_of_map h
       rfl)
    | (obtain rfl := Except.ok.inj h
       exact ha)

/-- An object with an identifier gives it to the record. -/
theorem isSome_id_of_read {ms : List (Option String × Json.Doc)} {closed : Bool} {raw : RawRecord}
    (hid : some "id" ∈ ms.map Prod.fst)
    (h : (recordShape .text).read .text (.object ms closed) = .ok raw) : raw.id.isSome = true := by
  obtain ⟨draft, hdraft, hfinish⟩ := Shape.read_eq_ok_iff.1 h
  obtain ⟨-, htaken⟩ := hdraft
  obtain ⟨⟨name, d⟩, hm, hname⟩ := List.mem_map.1 hid
  obtain rfl : name = some "id" := hname
  have hfield : ("id", d) ∈ (recordShape .text).known ms := Shape.mem_known_of_mem rfl hm
  have hensures : ∀ {a b : RecordDraft}, a.put .text "id" d = .ok b → b.id.isSome = true := by
    intro a b hput
    obtain ⟨u, -, rfl⟩ := exists_ok_of_map hput
    rfl
  have hsome : draft.id.isSome = true :=
    Shape.takeAll_ensures (P := fun a => a.id.isSome = true) RecordDraft.put_keeps_id hfield
      hensures htaken
  obtain ⟨alert, -, hrest⟩ := exists_ok_of_bind hfinish
  obtain ⟨action, -, hrest⟩ := exists_ok_of_bind hrest
  obtain rfl := Except.ok.inj hrest
  exact hsome

/-- With an identifier of its own, a record does not need a fresh one. -/
theorem RawRecord.toRecord_eq_of_isSome {raw : RawRecord} (h : raw.id.isSome = true)
    (fresh fresh' : Uuid) : raw.toRecord fresh = raw.toRecord fresh' := by
  obtain ⟨id, hid⟩ := Option.isSome_iff_exists.1 h
  rw [toRecord, toRecord, hid]
  rfl

namespace EventRecord

/-- A record is read from a text that is a document with the fields of a record. -/
theorem read_eq_ok_iff {s : String} {fresh : Uuid} {r : EventRecord} :
    read fresh s = .ok r ↔
      ∃ d raw, Json.read s = ⟨d, true⟩ ∧ (recordShape .text).read .text d = .ok raw ∧
        raw.toRecord fresh = .ok r := by
  constructor
  · intro h
    obtain ⟨record, hrecord, hlast⟩ := exists_ok_of_bind h
    obtain ⟨raw, hraw, hbuilt⟩ := exists_ok_of_bind hrecord
    split at hlast
    · rename_i hended
      obtain rfl := Except.ok.inj hlast
      exact ⟨(Json.read s).root, raw, congrArg (Json.Document.mk _) hended, hraw, hbuilt⟩
    · cases hlast
  · rintro ⟨d, raw, hdocument, hraw, hbuilt⟩
    have hrecord : ofDoc .text fresh d = .ok r := by
      rw [ofDoc, hraw]
      exact hbuilt
    rw [read, hdocument]
    dsimp only
    rw [hrecord]
    rfl

/-- Take an object in a text from which a record is read, with an identifier in it, and change its
form in any of these ways and any number of times: put the members of the record, of the alert or of
a termination in another order, or headers with different names; add members with unknown names and
any values; leave members with their defaults out or write them out; give the record, the alert or a
termination as a list of its fields. Then there are texts with that value, and from each of them the
same record is read. -/
theorem read_reworded {s : String} {fresh : Uuid} {r : EventRecord}
    {ms : List (Option String × Json.Doc)} {closed : Bool} {d : Json.Doc}
    (hs : (Json.read s).root = .object ms closed) (hid : some "id" ∈ ms.map Prod.fst)
    (hr : read fresh s = .ok r) (hd : Relation.EqvGen EventRecord.Rewording (.object ms true) d) :
    (∃ s', Json.read s' = ⟨d, true⟩) ∧
      ∀ s', Json.read s' = ⟨d, true⟩ → ∀ fresh', read fresh' s' = .ok r := by
  obtain ⟨root, raw, hdocument, hraw, hbuilt⟩ := read_eq_ok_iff.1 hr
  obtain rfl : root = .object ms closed := by rw [← hs, hdocument]
  obtain rfl : closed = true := (Json.isDocument_object_iff.1 ⟨s, hdocument⟩).1
  obtain ⟨hsame, htexts⟩ := reworded hd
  refine ⟨htexts.1 ⟨s, hdocument⟩, fun s' hs' fresh' => ?_⟩
  have hraw' : (recordShape .text).read .text d = .ok raw :=
    toOption_eq_some_iff.1 (hsame.symm.trans (toOption_eq_some_iff.2 hraw))
  have hbuilt' : raw.toRecord fresh' = .ok r :=
    (RawRecord.toRecord_eq_of_isSome (isSome_id_of_read hid hraw) fresh' fresh).trans hbuilt
  exact read_eq_ok_iff.2 ⟨d, raw, hs', hraw', hbuilt'⟩

/-- A record with two headers and one termination. -/
def plainRecord : EventRecord where
  id := .nil
  alert := { headers := [("a", []), ("b", ["1"])] }
  error := none
  note := some "n"
  action := .disabled
  terminations := [{ sessionId := "s", ipAddress := "", exitCode := 1 }]
  error_shown := shown_none
  note_shown := by
    intro s hs
    cases hs
    rfl
  has_remark := .inr (Option.some_ne_none _)

theorem legible_plainRecord : plainRecord.Legible := by
  have hepoch : Timestamp.epoch.IsProper := by constructor <;> decide
  have hheaders : plainRecord.alert.headers.Ascending := by
    unfold Headers.Ascending
    decide +kernel
  refine ⟨⟨hepoch, hheaders⟩, fun t ht => ?_⟩
  obtain rfl := List.mem_singleton.1 ht
  constructor <;> decide

/-- The record as a list of its fields, with other forms of the alert and of the termination. -/
def plainList (alert termination : Json.Doc) : Json.Doc :=
  .array
    [.text (some plainRecord.id.text), alert, .null, .text (some "n"), .text (some "disabled"),
      .array [termination] true] true

/-- The fields of the alert in front of its headers. -/
def plainAlertFront : List Json.Doc :=
  [.text (some ""), .text (some ""), .text (some ""), .text (some plainRecord.alert.arrival.text),
    .text (some ""), .text (some ""), .text (some ""), .text (some "")]

/-- The alert as a list of its fields, with other forms of the headers. -/
def plainAlert (headers : List (Option String × Json.Doc)) : Json.Doc :=
  .array (plainAlertFront ++ [.object headers true]) true

/-- The members that every form of the termination has. -/
def plainMembers : List (Option String × Json.Doc) :=
  [(some "session_id", .text (some "s")), (some "ip_address", .text (some "")),
    (some "exit_code", .number (.integer 1)), (some "stdout", .text (some "")),
    (some "stderr", .text (some ""))]

theorem plainList_alert {a a' t : Json.Doc} (h : Alert.Rewording a a') :
    Relation.EqvGen EventRecord.Rewording (plainList a t) (plainList a' t) := by
  have hstep : EventRecord.Rewording
      (.array ([.text (some plainRecord.id.text)] ++ a :: [.null, .text (some "n"),
        .text (some "disabled"), .array [t] true]) true)
      (.array ([.text (some plainRecord.id.text)] ++ a' :: [.null, .text (some "n"),
        .text (some "disabled"), .array [t] true]) true) := .element rfl (.alert h)
  exact .rel _ _ hstep

theorem plainList_termination {a t t' : Json.Doc} (h : Termination.Rewording t t') :
    Relation.EqvGen EventRecord.Rewording (plainList a t) (plainList a t') := by
  have hitem : ItemRewording Termination.Rewording (.array ([] ++ t :: []) true)
      (.array ([] ++ t' :: []) true) := .item h
  have hstep : EventRecord.Rewording
      (.array ([.text (some plainRecord.id.text), a, .null, .text (some "n"),
        .text (some "disabled")] ++ .array [t] true :: []) true)
      (.array ([.text (some plainRecord.id.text), a, .null, .text (some "n"),
        .text (some "disabled")] ++ .array [t'] true :: []) true) :=
    .element rfl (.terminations hitem)
  exact .rel _ _ hstep

/-- The headers in the other order, the termination without its error and with a member that no
reader knows, and lists for the alert and for the record. -/
theorem plainRecord_reworded :
    Relation.EqvGen EventRecord.Rewording plainRecord.toValue.toDoc
      (plainList
        (plainAlert [(some "b", .array [.text (some "1")] true), (some "a", .array [] true)])
        (.object ((some "rest", .object [(none, .null)] true) :: plainMembers) true)) := by
  let a : Option String × Json.Doc := (some "a", .array [] true)
  let b : Option String × Json.Doc := (some "b", .array [.text (some "1")] true)
  let error : Option String × Json.Doc := (some "error", .null)
  let alert : Json.Doc := plainRecord.alert.toValue.toDoc
  have hrecord : EventRecord.Rewording
      (.object (((recordShape .text).fields.map fun f => some f.name).zip
        [.text (some plainRecord.id.text), alert, .null, .text (some "n"), .text (some "disabled"),
          .array [.object (plainMembers ++ [error]) true] true]) true)
      (plainList alert (.object (plainMembers ++ [error]) true)) := .list rfl
  have halert : Alert.Rewording
      (.object ((alertShape.fields.map fun f => some f.name).zip
        (plainAlertFront ++ [.object [a, b] true])) true) (plainAlert [a, b]) := .list rfl
  have hheaders : Alert.Rewording (plainAlert [a, b]) (plainAlert [b, a]) :=
    .element rfl ⟨rfl, .permute (.swap b a []) (by decide)⟩
  have hfront : Termination.Rewording (.object (plainMembers ++ [error]) true)
      (.object (error :: plainMembers) true) := .permute (List.perm_append_singleton _ _)
  have herror : Termination.Rewording (.object plainMembers true)
      (.object (error :: plainMembers) true) :=
    .writeOut (by simp [terminationDefaults]) (by decide)
  have hrest : Termination.Rewording (.object plainMembers true)
      (.object ((some "rest", .object [(none, .null)] true) :: plainMembers) true) := by
    refine .add rfl (Json.isDocument_object_iff.2 ⟨rfl, ?_⟩)
    exact List.forall_mem_singleton.2 (Json.isDocument_iff.2 .null)
  refine .trans _ _ _ (.rel _ _ hrecord) ?_
  refine .trans _ _ _ (plainList_alert halert) ?_
  refine .trans _ _ _ (plainList_alert hheaders) ?_
  refine .trans _ _ _ (plainList_termination hfront) ?_
  exact .trans _ _ _ (.symm _ _ (plainList_termination herror)) (plainList_termination hrest)

/-- The record is read from a text of this form, with any identifier at hand. -/
theorem plainRecord_read_reworded :
    read .nil plainRecord.write = .ok plainRecord ∧
      ∃ s', (Json.read s').root = plainList
          (plainAlert [(some "b", .array [.text (some "1")] true), (some "a", .array [] true)])
          (.object ((some "rest", .object [(none, .null)] true) :: plainMembers) true) ∧
        ∀ fresh', read fresh' s' = .ok plainRecord := by
  have hread : read .nil plainRecord.write = .ok plainRecord :=
    legible_plainRecord.read_write_self .nil
  have hroot : (Json.read plainRecord.write).root = .object _ true :=
    congrArg Json.Document.root legible_plainRecord.document
  obtain ⟨⟨s', hs'⟩, hsame⟩ := read_reworded hroot (by decide) hread plainRecord_reworded
  exact ⟨hread, s', congrArg Json.Document.root hs', hsame s' hs'⟩

end EventRecord

end AlertRelay
