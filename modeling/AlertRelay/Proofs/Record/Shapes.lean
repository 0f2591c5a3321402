import AlertRelay.Proofs.Json.Documents
import AlertRelay.Proofs.Record.RoundTrip
import Mathlib.Data.List.Nodup

/-!
# The form in which fields are given

An object with fixed fields can be given in many ways. Its members may stand in any order, members
with unknown names may stand between them, a member with its default may be left out, and a list of
the fields may take the place of the object; each of these is a step of `Shape.Rewording`. All that
a reader needs for them to make no difference is that fields are taken up independently of each
other (`Shape.Independent`): it then reads the same from both forms, or finds a fault in both
(`Shape.Rewording.toOption_read`).
-/

namespace AlertRelay

theorem toOption_map {α β : Type} (x : ReadResult α) (f : α → β) :
    (x.map f).toOption = x.toOption.map f := by
  cases x <;> rfl

theorem toOption_eq_some_iff {α : Type} {x : ReadResult α} {a : α} :
    x.toOption = some a ↔ x = .ok a := by
  cases x with
  | error fault => exact ⟨nofun, nofun⟩
  | ok b =>
    constructor
    · exact fun h => congrArg Except.ok (Option.some.inj h)
    · exact fun h => congrArg some (Except.ok.inj h)

/-- Where steps under different names may change places, items with different names may be taken up
in any order. -/
theorem foldl_eq_of_perm {β ν γ : Type} {f : β → ν × γ → β}
    (hcomm : ∀ x m m', m.1 ≠ m'.1 → f (f x m) m' = f (f x m') m) {l l' : List (ν × γ)}
    (hperm : l.Perm l') (hnodup : (l.map Prod.fst).Nodup) (x : β) : l.foldl f x = l'.foldl f x := by
  refine hperm.foldl_eq' (fun m hm m' hm' x => ?_) x
  by_cases hname : m.1 = m'.1
  · rw [List.inj_on_of_nodup_map hnodup hm hm' hname]
  · exact hcomm x m m' hname

namespace Shape

variable {δ α : Type} {s : Shape δ α} {draft draft' : δ} {name : String} {d : Json.Doc}
  {ms ms' : List (Option String × Json.Doc)}

/-! ### Taking up fields -/

/-- Takes up a field, unless there was a fault before. -/
def takeUp (s : Shape δ α) (draft : Option δ) (m : String × Json.Doc) : Option δ :=
  draft.bind fun a => (s.put a m.1 m.2).toOption

/-- Takes up fields one after the other. -/
def takeAll (s : Shape δ α) (draft : Option δ) (fields : List (String × Json.Doc)) : Option δ :=
  fields.foldl s.takeUp draft

/-- The members of an object whose names are those of fields. -/
def known (s : Shape δ α) (ms : List (Option String × Json.Doc)) : List (String × Json.Doc) :=
  ms.filterMap fun m => (m.1.filter s.knows).map (·, m.2)

/-- Members in which a reader finds no fault before it looks at the values of fields. -/
structure Orderly (s : Shape δ α) (ms : List (Option String × Json.Doc)) : Prop where
  named : ∀ m ∈ ms, m.1 ≠ none
  once : ((s.known ms).map Prod.fst).Nodup
  whole : ∀ name d, (some name, d) ∈ ms → s.knows name = false → d.isWhole = true

theorem takeAll_none (fields : List (String × Json.Doc)) : s.takeAll none fields = none :=
  List.foldl_fixed' (fun _ => rfl) fields

theorem takeAll_some_cons (m : String × Json.Doc) (fields : List (String × Json.Doc)) :
    s.takeAll (some draft) (m :: fields) = s.takeAll (s.put draft m.1 m.2).toOption fields :=
  rfl

/-- Without a fault at the end there was none at the first field. -/
theorem exists_put_of_takeAll_cons {m : String × Json.Doc} {fields : List (String × Json.Doc)}
    (h : s.takeAll (some draft) (m :: fields) = some draft') :
    ∃ next, s.put draft m.1 m.2 = .ok next ∧ s.takeAll (some next) fields = some draft' := by
  rw [takeAll_some_cons] at h
  rcases hput : s.put draft m.1 m.2 with fault | next
  · rw [hput] at h
    exact absurd ((takeAll_none fields).symm.trans h) (Option.some_ne_none _).symm
  · rw [hput] at h
    exact ⟨next, rfl, h⟩

/-- What all fields keep is kept. -/
theorem takeAll_keeps {P : δ → Prop} (hput : ∀ {a name d b}, P a → s.put a name d = .ok b → P b)
    {fields : List (String × Json.Doc)} (hdraft : P draft)
    (h : s.takeAll (some draft) fields = some draft') : P draft' := by
  induction fields generalizing draft with
  | nil => exact Option.some.inj h ▸ hdraft
  | cons m fields ih =>
    obtain ⟨next, hnext, hrest⟩ := exists_put_of_takeAll_cons h
    exact ih (hput hdraft hnext) hrest

/-- What a field makes sure of holds behind all fields if they keep it. -/
theorem takeAll_ensures {P : δ → Prop} (hput : ∀ {a name d b}, P a → s.put a name d = .ok b → P b)
    {fields : List (String × Json.Doc)} (hfield : (name, d) ∈ fields)
    (hensures : ∀ {a b}, s.put a name d = .ok b → P b)
    (h : s.takeAll (some draft) fields = some draft') : P draft' := by
  obtain ⟨front, rest, rfl⟩ := List.append_of_mem hfield
  induction front generalizing draft with
  | nil =>
    obtain ⟨next, hnext, hrest⟩ := exists_put_of_takeAll_cons h
    exact takeAll_keeps hput (hensures hnext) hrest
  | cons m front ih =>
    obtain ⟨next, -, hrest⟩ := exists_put_of_takeAll_cons h
    exact ih (List.mem_append_right _ List.mem_cons_self) hrest

theorem known_cons_known (h : s.knows name = true) :
    s.known ((some name, d) :: ms) = (name, d) :: s.known ms := by
  simp [known, h]

theorem known_cons_unknown (h : s.knows name = false) :
    s.known ((some name, d) :: ms) = s.known ms := by
  simp [known, h]

theorem known_append : s.known (ms ++ ms') = s.known ms ++ s.known ms' :=
  List.filterMap_append

theorem orderly_nil : s.Orderly [] :=
  ⟨nofun, List.nodup_nil, nofun⟩

theorem not_orderly_of_unnamed : ¬s.Orderly ((none, d) :: ms) :=
  fun h => h.named _ List.mem_cons_self rfl

/-- A field in front of others that are in order must not be given by them again. -/
theorem orderly_cons_known (h : s.knows name = true) :
    s.Orderly ((some name, d) :: ms) ↔ (∀ m ∈ s.known ms, m.1 ≠ name) ∧ s.Orderly ms := by
  have honce : ((s.known ((some name, d) :: ms)).map Prod.fst).Nodup ↔
      (∀ m ∈ s.known ms, m.1 ≠ name) ∧ ((s.known ms).map Prod.fst).Nodup := by
    rw [known_cons_known h, List.map_cons, List.nodup_cons]
    simp only [List.mem_map, not_exists, not_and]
  constructor
  · intro hms
    obtain ⟨hnew, hrest⟩ := honce.1 hms.once
    refine ⟨hnew, fun m hm => hms.named m (List.mem_cons_of_mem _ hm), hrest, fun n e hm => ?_⟩
    exact hms.whole n e (List.mem_cons_of_mem _ hm)
  · rintro ⟨hnew, hms⟩
    refine ⟨List.forall_mem_cons.2 ⟨nofun, hms.named⟩, honce.2 ⟨hnew, hms.once⟩, ?_⟩
    intro n e hm hn
    rcases List.mem_cons.1 hm with heq | hm
    · obtain rfl := Option.some.inj (Prod.mk.inj heq).1
      rw [h] at hn
      cases hn
    · exact hms.whole n e hm hn

/-- A value under an unknown name has to be whole. -/
theorem orderly_cons_unknown (h : s.knows name = false) :
    s.Orderly ((some name, d) :: ms) ↔ d.isWhole = true ∧ s.Orderly ms := by
  have hknown : s.known ((some name, d) :: ms) = s.known ms := known_cons_unknown h
  constructor
  · intro hms
    refine ⟨hms.whole name d List.mem_cons_self h, ?_, hknown ▸ hms.once, ?_⟩
    · exact fun m hm => hms.named m (List.mem_cons_of_mem _ hm)
    · exact fun n e hm => hms.whole n e (List.mem_cons_of_mem _ hm)
  · rintro ⟨hd, hms⟩
    refine ⟨List.forall_mem_cons.2 ⟨nofun, hms.named⟩, hknown ▸ hms.once, ?_⟩
    intro n e hm hn
    rcases List.mem_cons.1 hm with heq | hm
    · obtain ⟨-, rfl⟩ := Prod.mk.inj heq
      exact hd
    · exact hms.whole n e hm hn

/-- Members are taken up if they are in order and their values are of the right kind. -/
theorem readMembers_eq_ok_iff {closed : Bool} {seen : List String} :
    s.readMembers closed seen draft ms = .ok draft' ↔
      closed = true ∧ s.Orderly ms ∧ (∀ m ∈ s.known ms, m.1 ∉ seen) ∧
        s.takeAll (some draft) (s.known ms) = some draft' := by
  induction ms generalizing seen draft with
  | nil =>
    cases closed with
    | false => simp [readMembers]
    | true => simp [readMembers, orderly_nil, known, takeAll]
  | cons m ms ih =>
    obtain ⟨name, d⟩ := m
    rcases name with _ | name
    · simp [readMembers, not_orderly_of_unnamed]
    rw [readMembers]
    by_cases hknows : s.knows name = true
    · rw [if_pos hknows, orderly_cons_known hknows, known_cons_known hknows, takeAll_some_cons,
        List.forall_mem_cons]
      by_cases hseen : name ∈ seen
      · simp [hseen]
      · simp only [List.contains_iff_mem, hseen, if_false]
        cases hput : s.put draft name d with
        | error fault => simp [bind, Except.bind, Except.toOption, takeAll_none]
        | ok next =>
          have hnext : (Except.ok next >>= fun draft =>
              s.readMembers closed (name :: seen) draft ms) =
                s.readMembers closed (name :: seen) next ms := rfl
          rw [hnext, ih]
          simp only [List.mem_cons, not_or, forall_and, Except.toOption]
          tauto
    · rw [Bool.not_eq_true] at hknows
      rw [if_neg (by simp [hknows]), orderly_cons_unknown hknows, known_cons_unknown hknows]
      by_cases hwhole : d.isWhole = true
      · rw [if_pos hwhole, ih]
        simp only [hwhole, true_and]
      · simp [hwhole]

/-! ### Drafts -/

/-- The elements of a list with the names of the fields in whose places they stand. -/
def labelled (s : Shape δ α) (ds : List Json.Doc) : List (String × Json.Doc) :=
  (s.fields.map Field.name).zip ds

/-- The fields in a text are taken up in a draft before it is finished. -/
inductive Drafts (s : Shape δ α) : Json.Doc → δ → Prop where
  | object {ms : List (Option String × Json.Doc)} {draft : δ} (hms : s.Orderly ms)
    (hdraft : s.takeAll (some s.empty) (s.known ms) = some draft) : Drafts s (.object ms true) draft
  | array {ds : List Json.Doc} {draft : δ} (hlength : ds.length ≤ s.fields.length)
    (hrest : ∀ f ∈ s.fields.drop ds.length, f.optional = true)
    (hdraft : s.takeAll (some s.empty) (s.labelled ds) = some draft) :
    Drafts s (.array ds true) draft

/-- Elements are taken up in the places of fields; the fields behind them must be optional. -/
theorem readElements_eq_ok_iff {closed : Bool} {index : Nat} {fields : List Field}
    {ds rest : List Json.Doc} :
    s.readElements closed index draft fields ds = .ok (draft', rest) ↔
      rest = ds.drop fields.length ∧
        (ds.length < fields.length → closed = true) ∧
        (∀ f ∈ fields.drop ds.length, f.optional = true) ∧
        s.takeAll (some draft) ((fields.map Field.name).zip ds) = some draft' := by
  induction fields generalizing index ds draft with
  | nil =>
    constructor
    · intro h
      obtain ⟨rfl, rfl⟩ := Prod.mk.inj (Except.ok.inj h)
      exact ⟨rfl, nofun, by simp, rfl⟩
    · rintro ⟨rfl, -, -, hdraft⟩
      exact congrArg (fun a => Except.ok (a, _)) (Option.some.inj hdraft)
  | cons f fields ih =>
    rcases ds with _ | ⟨d, ds⟩
    · rw [readElements]
      by_cases hclosed : closed = true
      · subst hclosed
        by_cases hoptional : f.optional = true
        · have hnext : s.readElements true (index + 1) draft fields [] = .ok (draft', rest) ↔ _ :=
            ih
          simpa [hoptional] using hnext
        · simp [hoptional]
      · simp [hclosed]
    · rw [readElements, List.map_cons, List.zip_cons_cons, takeAll_some_cons]
      cases hput : s.put draft f.name d with
      | error fault => simp [bind, Except.bind, Except.toOption, takeAll_none]
      | ok next =>
        have hnext : (Except.ok next >>= fun draft =>
            s.readElements closed (index + 1) draft fields ds) =
              s.readElements closed (index + 1) next fields ds := rfl
        rw [hnext, ih]
        simp [Except.toOption]

/-- A value is read from a text if its fields are taken up and make a finished draft. -/
theorem read_eq_ok_iff {x : α} :
    s.read .text d = .ok x ↔ ∃ draft, s.Drafts d draft ∧ s.finish draft = .ok x := by
  constructor
  · intro h
    unfold read at h
    split at h
    · obtain ⟨draft, hdraft, hfinish⟩ := exists_ok_of_bind h
      obtain ⟨rfl, hms, -, hdraft⟩ := readMembers_eq_ok_iff.1 hdraft
      exact ⟨draft, .object hms hdraft, hfinish⟩
    · rename_i items closed
      obtain ⟨⟨draft, rest⟩, hdraft, hlast⟩ := exists_ok_of_bind h
      obtain ⟨_, hend, hfinish⟩ := exists_ok_of_bind hlast
      obtain ⟨hrest, -, hoptional, htaken⟩ := readElements_eq_ok_iff.1 hdraft
      obtain ⟨hempty, rfl⟩ : rest.isEmpty = true ∧ closed = true := by
        unfold checkEnd at hend
        dsimp only at hend
        split at hend
        · rename_i hboth
          exact Bool.and_eq_true_iff.1 hboth
        · cases hend
      rw [List.isEmpty_iff.1 hempty] at hrest
      exact ⟨draft, .array (List.drop_eq_nil_iff.1 hrest.symm) hoptional htaken, hfinish⟩
    · exact absurd h wrongType_ne_ok
  · rintro ⟨draft, hdraft, h⟩
    rcases hdraft with ⟨hms, hdraft⟩ | ⟨hlength, hoptional, hdraft⟩
    · have hread := readMembers_eq_ok_iff.2 ⟨rfl, hms, fun _ _ => List.not_mem_nil, hdraft⟩
      rw [read, hread]
      exact h
    · have hread : s.readElements true 0 s.empty s.fields _ = .ok (draft, _) :=
        readElements_eq_ok_iff.2 ⟨rfl, fun _ => rfl, hoptional, hdraft⟩
      rw [read, hread, List.drop_eq_nil_of_le hlength]
      exact h

/-! ### Changes of the form -/

/-- A change of the form in which fields are given. The values of some fields can be given in other
forms themselves; `inner` tells which ones. -/
inductive Rewording (s : Shape δ α) (defaults : List (String × Json.Doc))
    (inner : String → Json.Doc → Json.Doc → Prop) : Json.Doc → Json.Doc → Prop where
  /-- Members in another order. -/
  | permute {ms ms' : List (Option String × Json.Doc)} (h : ms.Perm ms') :
    Rewording s defaults inner (.object ms true) (.object ms' true)
  /-- A member with an unknown name and any value. -/
  | add {ms : List (Option String × Json.Doc)} {name : String} {d : Json.Doc}
    (hname : s.knows name = false) (hd : Json.IsDocument d) :
    Rewording s defaults inner (.object ms true) (.object ((some name, d) :: ms) true)
  /-- A member with its default. -/
  | writeOut {ms : List (Option String × Json.Doc)} {name : String} {d : Json.Doc}
    (hdefault : (name, d) ∈ defaults) (hnew : some name ∉ ms.map Prod.fst) :
    Rewording s defaults inner (.object ms true) (.object ((some name, d) :: ms) true)
  /-- A list of all fields instead of an object with them. -/
  | list {ds : List Json.Doc} (hlength : ds.length = s.fields.length) :
    Rewording s defaults inner
      (.object ((s.fields.map fun f => some f.name).zip ds) true) (.array ds true)
  /-- One more element of a list, with the default of its field. -/
  | lengthen {ds : List Json.Doc} {name : String} {d : Json.Doc}
    (hfield : s.fields[ds.length]? = some ⟨name, true⟩) (hdefault : (name, d) ∈ defaults) :
    Rewording s defaults inner (.array ds true) (.array (ds ++ [d]) true)
  /-- Another form of the value of a member. -/
  | member {ms ms' : List (Option String × Json.Doc)} {name : String} {d d' : Json.Doc}
    (h : inner name d d') :
    Rewording s defaults inner (.object (ms ++ (some name, d) :: ms') true)
      (.object (ms ++ (some name, d') :: ms') true)
  /-- Another form of an element of a list. -/
  | element {ds ds' : List Json.Doc} {f : Field} {d d' : Json.Doc}
    (hfield : s.fields[ds.length]? = some f) (h : inner f.name d d') :
    Rewording s defaults inner (.array (ds ++ d :: ds') true) (.array (ds ++ d' :: ds') true)

/-- Fields are taken up independently of each other. A draft is normal if the fields with defaults
are filled in; it then makes no difference whether a default was given. -/
structure Independent (s : Shape δ α) (defaults : List (String × Json.Doc)) (normal : δ → δ) :
    Prop where
  names_nodup : (s.fields.map Field.name).Nodup
  put_comm : ∀ {a b c : δ} {n m : String} {d e : Json.Doc}, n ≠ m → s.put a n d = .ok b →
    s.put b m e = .ok c → ∃ b', s.put a m e = .ok b' ∧ s.put b' n d = .ok c
  put_normal : ∀ a name d,
    (s.put (normal a) name d).toOption.map normal = (s.put a name d).toOption.map normal
  finish_normal : ∀ a, s.finish (normal a) = s.finish a
  default_known : ∀ m ∈ defaults, s.knows m.1 = true
  put_default : ∀ m ∈ defaults,
    (s.put s.empty m.1 m.2).toOption.map normal = some (normal s.empty)

/-- The value of a field can be given in another form. -/
def Interchangeable (s : Shape δ α) (name : String) (d d' : Json.Doc) : Prop :=
  s.knows name = true ∧ ∀ a, (s.put a name d).toOption = (s.put a name d').toOption

section Independent

variable {defaults : List (String × Json.Doc)} {normal : δ → δ}
  {inner : String → Json.Doc → Json.Doc → Prop} {fields fields' : List (String × Json.Doc)}

namespace Independent

/-- Two fields with different names may change places. -/
theorem takeUp_comm (hs : s.Independent defaults normal) (x : Option δ) {m m' : String × Json.Doc}
    (hne : m.1 ≠ m'.1) : s.takeUp (s.takeUp x m) m' = s.takeUp (s.takeUp x m') m := by
  have hle : ∀ {m m' : String × Json.Doc} (c : δ), m.1 ≠ m'.1 →
      s.takeUp (s.takeUp x m) m' = some c → s.takeUp (s.takeUp x m') m = some c := by
    intro m m' c hne h
    obtain ⟨b, hfirst, hc⟩ := Option.bind_eq_some_iff.1 h
    obtain ⟨a, rfl, hb⟩ := Option.bind_eq_some_iff.1 hfirst
    obtain ⟨b', hb', hc'⟩ :=
      hs.put_comm hne (toOption_eq_some_iff.1 hb) (toOption_eq_some_iff.1 hc)
    exact Option.bind_eq_some_iff.2 ⟨b', toOption_eq_some_iff.2 hb', toOption_eq_some_iff.2 hc'⟩
  exact Option.ext fun c => ⟨hle c hne, hle c hne.symm⟩

/-- Fields with different names may be taken up in any order. -/
theorem takeAll_perm (hs : s.Independent defaults normal) (x : Option δ)
    (hperm : fields.Perm fields') (hnodup : (fields.map Prod.fst).Nodup) :
    s.takeAll x fields = s.takeAll x fields' :=
  foldl_eq_of_perm (fun x _ _ hne => hs.takeUp_comm x hne) hperm hnodup x

/-- A normal draft stays one. -/
theorem map_normal_takeAll (hs : s.Independent defaults normal) {x y : Option δ}
    (hxy : x.map normal = y.map normal) :
    (s.takeAll x fields).map normal = (s.takeAll y fields).map normal := by
  induction fields generalizing x y with
  | nil => exact hxy
  | cons m fields ih =>
    refine ih ?_
    rcases x with _ | a
    · rw [Option.map_eq_none_iff.1 hxy.symm]
    · obtain ⟨b, rfl, hb⟩ := Option.map_eq_some_iff.1 hxy.symm
      calc (s.put a m.1 m.2).toOption.map normal
          = (s.put (normal a) m.1 m.2).toOption.map normal := (hs.put_normal a _ _).symm
        _ = (s.put (normal b) m.1 m.2).toOption.map normal := by rw [hb]
        _ = (s.put b m.1 m.2).toOption.map normal := hs.put_normal b _ _

/-- A default in front of other fields makes no difference. -/
theorem map_normal_takeAll_default (hs : s.Independent defaults normal) {m : String × Json.Doc}
    (hm : m ∈ defaults) :
    (s.takeAll (some s.empty) (m :: fields)).map normal =
      (s.takeAll (some s.empty) fields).map normal := by
  have hdefault : (s.put s.empty m.1 m.2).toOption.map normal = (some s.empty).map normal :=
    hs.put_default m hm
  exact hs.map_normal_takeAll hdefault

end Independent

theorem takeAll_interchange {name : String} {d d' : Json.Doc} (h : s.Interchangeable name d d')
    (x : Option δ) :
    s.takeAll x (fields ++ (name, d) :: fields') =
      s.takeAll x (fields ++ (name, d') :: fields') := by
  have hsame : s.takeUp (fields.foldl s.takeUp x) (name, d) =
      s.takeUp (fields.foldl s.takeUp x) (name, d') :=
    congrArg (Option.bind _) (funext h.2)
  simp only [takeAll, List.foldl_append, List.foldl_cons, hsame]

/-! ### What a change leaves as it is -/

/-- The normal draft of a value in a text. -/
def NormalDraft (s : Shape δ α) (normal : δ → δ) (d : Json.Doc) (n : δ) : Prop :=
  ∃ draft, s.Drafts d draft ∧ normal draft = n

theorem normalDraft_object_iff {n : δ} :
    s.NormalDraft normal (.object ms true) n ↔
      s.Orderly ms ∧ (s.takeAll (some s.empty) (s.known ms)).map normal = some n := by
  constructor
  · rintro ⟨draft, ⟨hms, hdraft⟩, rfl⟩
    exact ⟨hms, congrArg (Option.map normal) hdraft⟩
  · rintro ⟨hms, hnormal⟩
    obtain ⟨draft, hdraft, hn⟩ := Option.map_eq_some_iff.1 hnormal
    exact ⟨draft, .object hms hdraft, hn⟩

theorem normalDraft_array_iff {ds : List Json.Doc} {n : δ} :
    s.NormalDraft normal (.array ds true) n ↔
      ds.length ≤ s.fields.length ∧ (∀ f ∈ s.fields.drop ds.length, f.optional = true) ∧
        (s.takeAll (some s.empty) (s.labelled ds)).map normal = some n := by
  constructor
  · rintro ⟨draft, hdrafts, rfl⟩
    rcases hdrafts with _ | ⟨hlength, hrest, hdraft⟩
    exact ⟨hlength, hrest, congrArg (Option.map normal) hdraft⟩
  · rintro ⟨hlength, hrest, hnormal⟩
    obtain ⟨draft, hdraft, hn⟩ := Option.map_eq_some_iff.1 hnormal
    exact ⟨draft, .array hlength hrest hdraft, hn⟩

theorem known_perm (h : ms.Perm ms') : (s.known ms).Perm (s.known ms') :=
  h.filterMap _

theorem orderly_perm_iff (h : ms.Perm ms') : s.Orderly ms ↔ s.Orderly ms' := by
  have hle : ∀ {ms ms' : List (Option String × Json.Doc)}, ms.Perm ms' → s.Orderly ms →
      s.Orderly ms' := by
    intro ms ms' h hms
    refine ⟨fun m hm => hms.named m (h.mem_iff.2 hm), ?_, fun name d hm => ?_⟩
    · exact ((known_perm h).map Prod.fst).nodup_iff.1 hms.once
    · exact hms.whole name d (h.mem_iff.2 hm)
  exact ⟨hle h, hle h.symm⟩

/-- Whether members are in order does not depend on the value of a field. -/
theorem orderly_value_iff {name : String} (hname : s.knows name = true) (d d' : Json.Doc) :
    s.Orderly (ms ++ (some name, d) :: ms') ↔ s.Orderly (ms ++ (some name, d') :: ms') := by
  have hfront : ∀ d, (ms ++ (some name, d) :: ms').Perm ((some name, d) :: (ms ++ ms')) :=
    fun _ => List.perm_middle
  rw [orderly_perm_iff (hfront d), orderly_cons_known hname, orderly_perm_iff (hfront d'),
    orderly_cons_known hname]

theorem mem_map_of_mem_known {m : String × Json.Doc} (h : m ∈ s.known ms) :
    some m.1 ∈ ms.map Prod.fst := by
  obtain ⟨member, hmember, hm⟩ := List.mem_filterMap.1 h
  obtain ⟨name, hname, rfl⟩ := Option.map_eq_some_iff.1 hm
  rw [← (Option.filter_eq_some_iff.1 hname).1]
  exact List.mem_map_of_mem hmember

theorem mem_known_of_mem (hname : s.knows name = true) (h : (some name, d) ∈ ms) :
    (name, d) ∈ s.known ms := by
  refine List.mem_filterMap.2 ⟨_, h, ?_⟩
  rw [Option.filter_some, hname]
  rfl

/-- All members are fields if their names are. -/
theorem known_zip {names : List String} (hnames : ∀ name ∈ names, s.knows name = true)
    (ds : List Json.Doc) : s.known ((names.map some).zip ds) = names.zip ds := by
  induction names generalizing ds with
  | nil => rfl
  | cons name names ih =>
    obtain ⟨hname, hnames⟩ := List.forall_mem_cons.1 hnames
    rcases ds with _ | ⟨d, ds⟩
    · rfl
    · rw [List.map_cons, List.zip_cons_cons, known_cons_known hname, ih hnames, List.zip_cons_cons]

theorem zip_append_cons {β γ : Type} {names : List β} {ds ds' : List γ} {name : β} {d : γ}
    (h : names[ds.length]? = some name) :
    names.zip (ds ++ d :: ds') =
      names.zip ds ++ (name, d) :: (names.drop (ds.length + 1)).zip ds' := by
  induction ds generalizing names with
  | nil =>
    obtain ⟨names, rfl⟩ := List.head?_eq_some_iff.1 (List.head?_eq_getElem? ▸ h)
    rfl
  | cons e ds ih =>
    rcases names with _ | ⟨n, names⟩
    · cases h
    · exact congrArg ((n, e) :: ·) (ih h)

theorem knows_of_mem {f : Field} (hf : f ∈ s.fields) : s.knows f.name = true :=
  List.any_eq_true.2 ⟨f, hf, beq_self_eq_true _⟩

namespace Independent

variable {n : δ}

theorem nodup_labelled (hs : s.Independent defaults normal) (ds : List Json.Doc) :
    ((s.labelled ds).map Prod.fst).Nodup := by
  rw [labelled, List.zip_eq_zip_take_min, List.map_fst_zip (by simp)]
  exact (List.take_sublist _ _).nodup hs.names_nodup

theorem normalDraft_permute (hs : s.Independent defaults normal) (h : ms.Perm ms') :
    s.NormalDraft normal (.object ms true) n ↔ s.NormalDraft normal (.object ms' true) n := by
  rw [normalDraft_object_iff, normalDraft_object_iff, ← orderly_perm_iff h]
  refine and_congr_right fun hms => ?_
  rw [hs.takeAll_perm _ (known_perm h) hms.once]

theorem normalDraft_add {name : String} {d : Json.Doc} (hname : s.knows name = false)
    (hd : d.isWhole = true) :
    s.NormalDraft normal (.object ms true) n ↔
      s.NormalDraft normal (.object ((some name, d) :: ms) true) n := by
  rw [normalDraft_object_iff, normalDraft_object_iff, orderly_cons_unknown hname,
    known_cons_unknown hname, hd]
  simp only [true_and]

theorem normalDraft_writeOut (hs : s.Independent defaults normal) {name : String} {d : Json.Doc}
    (hdefault : (name, d) ∈ defaults) (hnew : some name ∉ ms.map Prod.fst) :
    s.NormalDraft normal (.object ms true) n ↔
      s.NormalDraft normal (.object ((some name, d) :: ms) true) n := by
  have hname : s.knows name = true := hs.default_known _ hdefault
  have hdistinct : ∀ m ∈ s.known ms, m.1 ≠ name :=
    fun m hm heq => hnew (heq ▸ mem_map_of_mem_known hm)
  rw [normalDraft_object_iff, normalDraft_object_iff, orderly_cons_known hname,
    known_cons_known hname, hs.map_normal_takeAll_default hdefault, and_iff_right hdistinct]

theorem normalDraft_list (hs : s.Independent defaults normal) {ds : List Json.Doc}
    (hlength : ds.length = s.fields.length) :
    s.NormalDraft normal (.object ((s.fields.map fun f => some f.name).zip ds) true) n ↔
      s.NormalDraft normal (.array ds true) n := by
  have hnames : (s.fields.map fun f => some f.name) = (s.fields.map Field.name).map some := by
    rw [List.map_map]
    rfl
  have hknows : ∀ name ∈ s.fields.map Field.name, s.knows name = true := by
    intro name hname
    obtain ⟨f, hf, rfl⟩ := List.mem_map.1 hname
    exact knows_of_mem hf
  have hknown : s.known ((s.fields.map fun f => some f.name).zip ds) = s.labelled ds := by
    rw [hnames, known_zip hknows]
    rfl
  have horderly : s.Orderly ((s.fields.map fun f => some f.name).zip ds) := by
    constructor
    · intro m hm
      obtain ⟨f, -, hf⟩ := List.mem_map.1 (List.of_mem_zip hm).1
      rw [← hf]
      exact Option.some_ne_none _
    · rw [hknown]
      exact hs.nodup_labelled ds
    · intro name d hm hunknown
      rw [hnames] at hm
      obtain ⟨known, hmem, hname⟩ := List.mem_map.1 (List.of_mem_zip hm).1
      rw [← Option.some.inj hname, hknows known hmem] at hunknown
      cases hunknown
  rw [normalDraft_object_iff, normalDraft_array_iff, hknown, hlength, List.drop_length]
  simp [horderly]

theorem normalDraft_lengthen (hs : s.Independent defaults normal) {ds : List Json.Doc}
    {name : String} {d : Json.Doc} (hfield : s.fields[ds.length]? = some ⟨name, true⟩)
    (hdefault : (name, d) ∈ defaults) :
    s.NormalDraft normal (.array ds true) n ↔ s.NormalDraft normal (.array (ds ++ [d]) true) n := by
  obtain ⟨hlength, hget⟩ := List.getElem?_eq_some_iff.1 hfield
  have hlabelled : s.labelled (ds ++ [d]) = s.labelled ds ++ [(name, d)] := by
    have hname : (s.fields.map Field.name)[ds.length]? = some name := by
      rw [List.getElem?_map, hfield]
      rfl
    rw [labelled, zip_append_cons hname, List.zip_nil_right]
    rfl
  have htaken : (s.takeAll (some s.empty) (s.labelled (ds ++ [d]))).map normal =
      (s.takeAll (some s.empty) (s.labelled ds)).map normal := by
    have hfirst : (s.labelled (ds ++ [d])).Perm ((name, d) :: s.labelled ds) := by
      rw [hlabelled]
      exact List.perm_append_singleton _ _
    rw [hs.takeAll_perm _ hfirst (hs.nodup_labelled _), hs.map_normal_takeAll_default hdefault]
  rw [normalDraft_array_iff, normalDraft_array_iff, htaken, List.drop_eq_getElem_cons hlength, hget,
    List.forall_mem_cons, List.length_append, List.length_singleton, and_iff_right hlength.le,
    and_iff_right (Nat.succ_le_of_lt hlength), and_iff_right rfl]

theorem normalDraft_member {name : String} {d d' : Json.Doc} (h : s.Interchangeable name d d') :
    s.NormalDraft normal (.object (ms ++ (some name, d) :: ms') true) n ↔
      s.NormalDraft normal (.object (ms ++ (some name, d') :: ms') true) n := by
  rw [normalDraft_object_iff, normalDraft_object_iff, orderly_value_iff h.1 d d', known_append,
    known_append, known_cons_known h.1, known_cons_known h.1, takeAll_interchange h]

theorem normalDraft_element {ds ds' : List Json.Doc} {f : Field} {d d' : Json.Doc}
    (hfield : s.fields[ds.length]? = some f) (h : s.Interchangeable f.name d d') :
    s.NormalDraft normal (.array (ds ++ d :: ds') true) n ↔
      s.NormalDraft normal (.array (ds ++ d' :: ds') true) n := by
  have hname : (s.fields.map Field.name)[ds.length]? = some f.name := by
    rw [List.getElem?_map, hfield]
    rfl
  have htaken : s.takeAll (some s.empty) (s.labelled (ds ++ d :: ds')) =
      s.takeAll (some s.empty) (s.labelled (ds ++ d' :: ds')) := by
    rw [labelled, labelled, zip_append_cons hname, zip_append_cons hname, takeAll_interchange h]
  have hlength : (ds ++ d :: ds').length = (ds ++ d' :: ds').length := by
    rw [List.length_append, List.length_append, List.length_cons, List.length_cons]
  rw [normalDraft_array_iff, normalDraft_array_iff, htaken, hlength]

end Independent

variable (hs : s.Independent defaults normal)
  (hinner : ∀ name d d', inner name d d' → s.Interchangeable name d d')

include hs hinner in
/-- A change of the form leaves the normal draft as it is. -/
theorem Rewording.normalDraft_iff {d d' : Json.Doc} (h : s.Rewording defaults inner d d') (n : δ) :
    s.NormalDraft normal d n ↔ s.NormalDraft normal d' n := by
  cases h with
  | permute hperm => exact hs.normalDraft_permute hperm
  | add hname hd => exact Independent.normalDraft_add hname hd.isWhole
  | writeOut hdefault hnew => exact hs.normalDraft_writeOut hdefault hnew
  | list hlength => exact hs.normalDraft_list hlength
  | lengthen hfield hdefault => exact hs.normalDraft_lengthen hfield hdefault
  | member hvalue => exact Independent.normalDraft_member (hinner _ _ _ hvalue)
  | element hfield hvalue => exact Independent.normalDraft_element hfield (hinner _ _ _ hvalue)

include hs in
theorem Independent.read_eq_ok_iff {d : Json.Doc} {x : α} :
    s.read .text d = .ok x ↔ ∃ n, s.NormalDraft normal d n ∧ s.finish n = .ok x := by
  rw [Shape.read_eq_ok_iff]
  constructor
  · rintro ⟨draft, hdraft, hfinish⟩
    exact ⟨normal draft, ⟨draft, hdraft, rfl⟩, (hs.finish_normal draft).trans hfinish⟩
  · rintro ⟨_, ⟨draft, hdraft, rfl⟩, hfinish⟩
    exact ⟨draft, hdraft, (hs.finish_normal draft).symm.trans hfinish⟩

include hs hinner in
/-- The same is read before a change of the form and behind it, or there is a fault in both. -/
theorem Rewording.toOption_read {d d' : Json.Doc} (h : s.Rewording defaults inner d d') :
    (s.read .text d).toOption = (s.read .text d').toOption := by
  refine Option.ext fun x => ?_
  rw [toOption_eq_some_iff, toOption_eq_some_iff, hs.read_eq_ok_iff, hs.read_eq_ok_iff]
  exact exists_congr fun n => and_congr_left' (h.normalDraft_iff hs hinner n)

/-- Nor does a change of the form make a difference for there being a text with the value. -/
theorem Rewording.isDocument_iff (hdefaults : ∀ m ∈ defaults, Json.IsDocument m.2)
    (hinner : ∀ name d d', inner name d d' → (Json.IsDocument d ↔ Json.IsDocument d'))
    {d d' : Json.Doc} (h : s.Rewording defaults inner d d') :
    Json.IsDocument d ↔ Json.IsDocument d' := by
  cases h with
  | permute hperm =>
    simp only [Json.isDocument_object_iff, hperm.mem_iff]
  | add hname hd =>
    simp only [Json.isDocument_object_iff, List.forall_mem_cons, hd, true_and]
  | writeOut hdefault hnew =>
    have hd := hdefaults _ hdefault
    simp only [Json.isDocument_object_iff, List.forall_mem_cons, hd, true_and]
  | list hlength =>
    rename_i ds
    have hvalues : ((s.fields.map fun f => some f.name).zip ds).map Prod.snd = ds :=
      List.map_snd_zip (by simp [hlength])
    rw [Json.isDocument_object_iff, Json.isDocument_array_iff, ← List.forall_mem_map, hvalues]
  | lengthen hfield hdefault =>
    have hd := hdefaults _ hdefault
    simp only [Json.isDocument_array_iff, List.forall_mem_append, List.forall_mem_singleton, hd,
      and_true]
  | member hvalue =>
    simp only [Json.isDocument_object_iff, List.forall_mem_append, List.forall_mem_cons,
      hinner _ _ _ hvalue]
  | element hfield hvalue =>
    simp only [Json.isDocument_array_iff, List.forall_mem_append, List.forall_mem_cons,
      hinner _ _ _ hvalue]

end Independent

end Shape

end AlertRelay
