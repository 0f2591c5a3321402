import AlertRelay.Proofs.Config
import AlertRelay.Proofs.Json.RoundTrip
import AlertRelay.Proofs.Time.Timestamp
import AlertRelay.Record.Reader
import AlertRelay.Record.Writer
import Mathlib.Tactic.SplitIfs

/-!
# The parts of a record, written and read

Identifiers, actions, headers, exit codes and remarks are read back from what is written for them.
What a reader gives can be written: an exit code fits its 32 bits (`IsInt32`), and the names of
headers stand in ascending order (`Headers.Ascending`), so that no header takes the place of another
one when they are put in again (`Headers.insert_eq_append`).
-/

namespace AlertRelay

variable {α β : Type}

/-! ### Results -/

theorem exists_ok_of_map {x : ReadResult α} {f : α → β} {b : β} (h : x.map f = .ok b) :
    ∃ a, x = .ok a ∧ f a = b := by
  cases x with
  | ok a => exact ⟨a, rfl, Except.ok.inj h⟩
  | error fault => cases h

theorem wrongType_ne_ok {wanted : Wanted} {d : Json.Doc} {a : α} : wrongType wanted d ≠ .ok a := by
  unfold wrongType
  split <;> exact nofun

/-! ### Identifiers -/

namespace Uuid

/-- Hyphens that are put in are found again. -/
theorem dehyphenate?_hyphenate {groups : List Nat} {cs : List Char} (h : groups.sum ≤ cs.length) :
    dehyphenate? groups (hyphenate groups cs) = some cs := by
  induction groups generalizing cs with
  | nil => rfl
  | cons n groups ih =>
    cases groups with
    | nil => rfl
    | cons m groups =>
      rw [List.sum_cons] at h
      have hlength : (cs.take n).length = n := List.length_take_of_le (by omega)
      have htake : (cs.take n ++ '-' :: hyphenate (m :: groups) (cs.drop n)).take n = cs.take n := by
        rw [List.take_append_of_le_length (Nat.le_of_eq hlength.symm), List.take_take, Nat.min_self]
      have hdrop : (cs.take n ++ '-' :: hyphenate (m :: groups) (cs.drop n)).drop n =
          '-' :: hyphenate (m :: groups) (cs.drop n) := List.drop_left' hlength
      have hrest : (m :: groups).sum ≤ (cs.drop n).length := by
        rw [List.length_drop]
        omega
      rw [hyphenate, dehyphenate?]
      · simp only [hdrop, ih hrest, htake, Option.map_some, List.take_append_drop]
      · exact List.cons_ne_nil _ _
      · exact List.cons_ne_nil _ _

/-- There is a hyphen behind each group but the last. -/
theorem length_hyphenate {groups : List Nat} {cs : List Char} (hne : groups ≠ [])
    (h : groups.sum ≤ cs.length) :
    (hyphenate groups cs).length + 1 = cs.length + groups.length := by
  induction groups generalizing cs with
  | nil => exact absurd rfl hne
  | cons n groups ih =>
    cases groups with
    | nil => rfl
    | cons m groups =>
      rw [List.sum_cons] at h
      have hrest : (m :: groups).sum ≤ (cs.drop n).length := by
        rw [List.length_drop]
        omega
      have hlength := ih (List.cons_ne_nil _ _) hrest
      rw [List.length_drop] at hlength
      rw [hyphenate, List.length_append, List.length_cons, List.length_take_of_le (by omega),
        List.length_cons]
      · omega
      · exact List.cons_ne_nil _ _

/-- A digit in lower case stays as it is. -/
theorem toLower_eq_self {c : Char} (h : isLowerHex c = true) : c.toLower = c := by
  have hupper : ¬('A'.val ≤ c.val ∧ c.val ≤ 'Z'.val) := by
    rintro ⟨hA, hZ⟩
    have hleast : 65 ≤ c.toNat := hA
    have hgreatest : c.toNat ≤ 90 := hZ
    simp only [isLowerHex, Bool.or_eq_true, Bool.and_eq_true, decide_eq_true_eq] at h
    rcases h with ⟨-, hnine⟩ | ⟨ha, -⟩
    · have hnumber : c.toNat ≤ 57 := hnine
      omega
    · have hletter : 97 ≤ c.toNat := ha
      omega
  exact dif_neg hupper

/-- The digits of an identifier make that identifier. -/
theorem ofDigits?_digits (u : Uuid) : ofDigits? u.digits = some u := by
  have hlower : u.digits.map Char.toLower = u.digits := by
    have hsame : ∀ c ∈ u.digits, c.toLower = id c :=
      fun c hc => toLower_eq_self (List.all_eq_true.1 u.isHex c hc)
    rw [List.map_congr_left hsame, List.map_id]
  unfold ofDigits?
  simp only [hlower, u.size_eq, u.isHex, and_self, dite_true]

/-- An identifier is read back from its text. -/
theorem read?_text (u : Uuid) : read? u.text = some u := by
  have hsum : groups.sum ≤ u.digits.length := by
    rw [u.size_eq]
    decide
  have hlength : u.chars.length = 36 := by
    have hlong : u.chars.length + 1 = u.digits.length + groups.length :=
      length_hyphenate (by decide) hsum
    have hgroups : groups.length = 5 := rfl
    rw [u.size_eq, hgroups] at hlong
    omega
  have hdigits : dehyphenate? groups u.chars = some u.digits := dehyphenate?_hyphenate hsum
  rw [read?, text, String.toList_ofList, readChars?, if_neg (by omega), if_pos hlength,
    readHyphenated?, if_pos hlength, hdigits, Option.bind_some, ofDigits?_digits]

end Uuid

/-! ### Actions -/

/-- An action is found by its name. -/
theorem Action.ofName?_name (a : Action) : ofName? a.name = some a := by
  cases a <;> decide

/-! ### Plain values -/

/-- A text or null is read back. -/
theorem readOptionalText_optionalValue (s : Option String) :
    readOptionalText (optionalValue s).toDoc = .ok s := by
  cases s <;> rfl

/-- An identifier is read back. -/
theorem readUuid_text (u : Uuid) : readUuid (.text (some u.text)) = .ok u := by
  simp only [readUuid, readText, bind, Except.bind, Uuid.read?_text]

/-- A timestamp is read back. -/
theorem readTimestamp_text {t : Timestamp} (ht : t.IsProper) :
    readTimestamp (.text (some t.text)) = .ok t := by
  simp only [readTimestamp, readText, bind, Except.bind, Timestamp.read?_text ht]

theorem isProper_of_readTimestamp {d : Json.Doc} {t : Timestamp} (h : readTimestamp d = .ok t) :
    t.IsProper := by
  obtain ⟨s, -, h⟩ := exists_ok_of_bind h
  split at h
  · rename_i u hread
    obtain rfl := Except.ok.inj h
    exact Timestamp.isProper_of_read? hread
  · cases h

/-- A number of 32 bits. -/
def IsInt32 (n : Int) : Prop :=
  int32Range.1 ≤ n ∧ n ≤ int32Range.2

/-- A number of 32 bits is kept as an integer. -/
theorem IsInt32.isSmall {n : Int} (hn : IsInt32 n) : Json.IsSmall n := by
  obtain ⟨hleast, hgreatest⟩ := hn
  have hrange : int32Range = (-2147483648, 2147483647) := rfl
  have hlow : Json.Number.leastSize = 9223372036854775808 := rfl
  have hhigh : Json.Number.greatest = 18446744073709551615 := rfl
  rw [hrange] at hleast hgreatest
  constructor
  · omega
  · omega

theorem readInt32_integer {n : Int} (hn : IsInt32 n) :
    readInt32 (.number (.integer n)) = .ok n :=
  if_pos hn

theorem isInt32_of_readInt32 {d : Json.Doc} {n : Int} (h : readInt32 d = .ok n) : IsInt32 n := by
  unfold readInt32 at h
  split at h
  · split at h
    · rename_i hrange
      obtain rfl := Except.ok.inj h
      exact hrange
    · cases h
  · exact absurd h wrongType_ne_ok

/-! ### Lists -/

/-- Items are read back if each one is. -/
theorem readItemsWith_map {item : Json.Doc → ReadResult α} {doc : α → Json.Doc} {xs : List α}
    (h : ∀ x ∈ xs, item (doc x) = .ok x) : readItemsWith item true (xs.map doc) = .ok xs := by
  induction xs with
  | nil => rfl
  | cons x xs ih =>
    have hx : item (doc x) = .ok x := h x List.mem_cons_self
    have hxs := ih fun y hy => h y (List.mem_cons_of_mem _ hy)
    rw [List.map_cons, readItemsWith, hx, hxs]
    rfl

/-- What holds of every item that a reader gives holds of all items of a list. -/
theorem forall_of_readItemsWith {item : Json.Doc → ReadResult α} {P : α → Prop}
    (hitem : ∀ d x, item d = .ok x → P x) {closed : Bool} {ds : List Json.Doc} {xs : List α}
    (h : readItemsWith item closed ds = .ok xs) : ∀ x ∈ xs, P x := by
  induction ds generalizing xs with
  | nil =>
    unfold readItemsWith at h
    split at h
    · obtain rfl := Except.ok.inj h
      exact nofun
    · cases h
  | cons d ds ih =>
    obtain ⟨x, hx, h⟩ := exists_ok_of_bind h
    obtain ⟨rest, hrest, h⟩ := exists_ok_of_bind h
    obtain rfl := Except.ok.inj h
    intro y hy
    rcases List.mem_cons.1 hy with rfl | hy
    · exact hitem d y hx
    · exact ih hrest y hy

theorem forall_of_readList {item : Json.Doc → ReadResult α} {P : α → Prop}
    (hitem : ∀ d x, item d = .ok x → P x) {d : Json.Doc} {xs : List α}
    (h : readList item d = .ok xs) : ∀ x ∈ xs, P x := by
  unfold readList at h
  split at h
  · exact forall_of_readItemsWith hitem h
  · exact absurd h wrongType_ne_ok

/-! ### Headers -/

namespace Headers

/-- The names of headers stand in ascending order. -/
def Ascending (h : Headers) : Prop :=
  h.Pairwise fun a b => a.1 < b.1

theorem mem_insert {name : String} {values : List String} {h : Headers} {e : String × List String}
    (he : e ∈ h.insert name values) : e = (name, values) ∨ e ∈ h := by
  induction h with
  | nil => exact .inl (List.mem_singleton.1 he)
  | cons first rest ih =>
    unfold Headers.insert at he
    split_ifs at he
    · exact List.mem_cons.1 he
    · rcases List.mem_cons.1 he with heq | hrest
      · exact .inl heq
      · exact .inr (List.mem_cons_of_mem _ hrest)
    · rcases List.mem_cons.1 he with heq | hrest
      · exact .inr (heq ▸ List.mem_cons_self)
      · exact (ih hrest).imp_right (List.mem_cons_of_mem _)

/-- Headers that are put in keep the order of the names. -/
theorem Ascending.insert {h : Headers} (hh : h.Ascending) (name : String) (values : List String) :
    (h.insert name values).Ascending := by
  induction h with
  | nil => exact List.pairwise_singleton _ _
  | cons first rest ih =>
    obtain ⟨hfirst, hrest⟩ := List.pairwise_cons.1 hh
    unfold Headers.insert
    split_ifs with hbefore hsame
    · refine List.pairwise_cons.2 ⟨fun e he => ?_, hh⟩
      rcases List.mem_cons.1 he with rfl | he
      · exact hbefore
      · exact String.lt_trans hbefore (hfirst e he)
    · refine List.pairwise_cons.2 ⟨fun e he => ?_, hrest⟩
      rw [hsame]
      exact hfirst e he
    · refine List.pairwise_cons.2 ⟨fun e he => ?_, ih hrest⟩
      rcases mem_insert he with rfl | he
      · -- The new name is neither before the first one nor equal to it.
        refine Decidable.byContradiction fun hbehind => hsame ?_
        exact String.le_antisymm (String.not_lt.1 hbehind) (String.not_lt.1 hbefore)
      · exact hfirst e he

/-- A header with a name behind all the others is put at the end. -/
theorem insert_eq_append {name : String} {h : Headers} (hname : ∀ e ∈ h, e.1 < name)
    (values : List String) : h.insert name values = h ++ [(name, values)] := by
  induction h with
  | nil => rfl
  | cons first rest ih =>
    have hfirst : first.1 < name := hname first List.mem_cons_self
    have hrest := ih fun e he => hname e (List.mem_cons_of_mem _ he)
    have hsame : name ≠ first.1 := fun heq => String.lt_irrefl name (heq ▸ hfirst)
    rw [Headers.insert, if_neg (String.lt_asymm hfirst), if_neg hsame, hrest, List.cons_append]

/-- The values of a header are read back. -/
theorem readList_values (values : List String) :
    readList (readText .text) (Json.Value.array (values.map .text)).toDoc = .ok values := by
  have hdocs : Json.Value.itemDocs (values.map .text) = values.map fun s => .text (some s) := by
    rw [Json.Value.itemDocs_eq_map, List.map_map]
    rfl
  rw [Json.Value.toDoc, readList, hdocs]
  exact readItemsWith_map fun s _ => rfl

/-- Headers that come behind others, in the order of their names, are put behind them. -/
theorem readHeaderMembers_toDoc {front back : Headers} (h : Ascending (front ++ back)) :
    readHeaderMembers true front
        (back.map fun e => (some e.1, (Json.Value.array (e.2.map .text)).toDoc)) =
      .ok (front ++ back) := by
  induction back generalizing front with
  | nil =>
    rw [List.append_nil]
    rfl
  | cons e back ih =>
    have hname : ∀ earlier ∈ front, earlier.1 < e.1 :=
      fun earlier he => (List.pairwise_append.1 h).2.2 earlier he e List.mem_cons_self
    have hmoved : front ++ e :: back = (front ++ [e]) ++ back := by
      rw [List.append_assoc, List.singleton_append]
    rw [hmoved] at h ⊢
    rw [List.map_cons, readHeaderMembers, readList_values]
    exact (congrArg (readHeaderMembers true · _) (insert_eq_append hname e.2)).trans (ih h)

/-- Headers are read back. -/
theorem readHeaders_toDoc {h : Headers} (hh : h.Ascending) :
    readHeaders h.toValue.toDoc = .ok h := by
  rw [toValue, Json.Value.toDoc, readHeaders, Json.Value.memberDocs_eq_map, List.map_map]
  exact readHeaderMembers_toDoc hh

theorem ascending_of_readHeaderMembers {closed : Bool} {ms : List (Option String × Json.Doc)}
    {h h' : Headers} (hh : h.Ascending) (hread : readHeaderMembers closed h ms = .ok h') :
    h'.Ascending := by
  induction ms generalizing h with
  | nil =>
    unfold readHeaderMembers at hread
    split at hread
    · obtain rfl := Except.ok.inj hread
      exact hh
    · cases hread
  | cons m ms ih =>
    obtain ⟨name, d⟩ := m
    cases name with
    | none => cases hread
    | some name =>
      obtain ⟨values, -, hread⟩ := exists_ok_of_bind hread
      exact ih (hh.insert name values) hread

/-- Headers that are read have their names in ascending order. -/
theorem ascending_of_readHeaders {d : Json.Doc} {h : Headers} (hread : readHeaders d = .ok h) :
    h.Ascending := by
  unfold readHeaders at hread
  split at hread
  · exact ascending_of_readHeaderMembers List.Pairwise.nil hread
  · exact absurd hread wrongType_ne_ok

end Headers

end AlertRelay
