import AlertRelay.Config.Environment
import AlertRelay.Render.Mail
import Mathlib.Data.List.DropRight

/-!
# Lists of recipients

The recipients of a mail are given as a text with commas between the addresses. `Listed` says which
texts list which addresses: a blank text lists none, a text without a comma that is not blank lists
one, however many blanks stand around it, and a comma stands between two texts of which the
addresses of the one come before those of the other. `readRecipients` reads exactly this
(`readRecipients_eq_iff`). So what is read has no blanks and no commas to lose, and it is read again
from the header of a mail, where the addresses stand with commas and blanks between them
(`readRecipients_reread`).
-/

namespace AlertRelay

/-! ### Trimmed texts -/

namespace Text

/-- There is no blank at either end. -/
structure IsTrimmed (cs : List Char) : Prop where
  head : ∀ c ∈ cs.head?, isBlank c = false
  last : ∀ c ∈ cs.getLast?, isBlank c = false

theorem dropTrailingBlanks_concat (cs : List Char) (c : Char) :
    dropTrailingBlanks (cs ++ [c]) = if isBlank c then dropTrailingBlanks cs else cs ++ [c] := by
  induction cs with
  | nil => rfl
  | cons d cs ih =>
    rw [List.cons_append, dropTrailingBlanks, ih, dropTrailingBlanks]
    by_cases hc : isBlank c = true
    · rw [if_pos hc, if_pos hc]
    · rw [if_neg hc, if_neg hc]
      cases hcs : cs ++ [c] with
      | nil => exact absurd hcs (List.append_ne_nil_of_right_ne_nil _ (List.cons_ne_nil _ _))
      | cons e kept => rfl

theorem dropTrailingBlanks_eq (cs : List Char) :
    dropTrailingBlanks cs = cs.rdropWhile isBlank := by
  induction cs using List.reverseRecOn with
  | nil => rfl
  | append_singleton cs c ih => rw [dropTrailingBlanks_concat, List.rdropWhile_concat, ih]

theorem isTrimmed_trimChars (cs : List Char) : IsTrimmed (trimChars cs) where
  head := by
    intro c hc
    rw [trimChars, dropTrailingBlanks_eq] at hc
    -- What is left begins where the blanks in front end.
    obtain ⟨rest, hrest⟩ := List.head?_eq_some_iff.1 hc
    obtain ⟨back, hback⟩ := List.rdropWhile_prefix isBlank (cs.dropWhile isBlank)
    have hhead := List.head?_dropWhile_not isBlank cs
    rw [← hback, hrest] at hhead
    exact hhead
  last := by
    intro c hc
    rw [trimChars, dropTrailingBlanks_eq] at hc
    obtain ⟨hne, hlast⟩ := List.mem_getLast?_eq_getLast hc
    rw [hlast, ← Bool.not_eq_true]
    exact List.rdropWhile_last_not isBlank _ hne

/-- Only blanks are dropped. -/
theorem exists_blanks_trimChars (cs : List Char) :
    ∃ front back, (∀ c ∈ front, isBlank c = true) ∧ (∀ c ∈ back, isBlank c = true) ∧
      cs = front ++ trimChars cs ++ back := by
  refine ⟨cs.takeWhile isBlank, (cs.dropWhile isBlank).rtakeWhile isBlank, ?_, ?_, ?_⟩
  · exact fun c => List.mem_takeWhile_imp
  · exact fun c => List.mem_rtakeWhile_imp
  · rw [trimChars, dropTrailingBlanks_eq, List.append_assoc, List.rdropWhile_append_rtakeWhile,
      List.takeWhile_append_dropWhile]

theorem trimChars_blank_append {front : List Char} (hfront : ∀ c ∈ front, isBlank c = true)
    (cs : List Char) : trimChars (front ++ cs) = trimChars cs := by
  rw [trimChars, trimChars, List.dropWhile_append_of_pos hfront]

theorem trimChars_of_blank {cs : List Char} (h : ∀ c ∈ cs, isBlank c = true) : trimChars cs = [] := by
  rw [← List.append_nil cs, trimChars_blank_append h]
  rfl

/-- All blanks are dropped that stand around a trimmed text. -/
theorem trimChars_append {front cs back : List Char} (hfront : ∀ c ∈ front, isBlank c = true)
    (hback : ∀ c ∈ back, isBlank c = true) (h : IsTrimmed cs) :
    trimChars (front ++ cs ++ back) = cs := by
  rw [List.append_assoc, trimChars_blank_append hfront]
  cases cs with
  | nil => exact trimChars_of_blank hback
  | cons c cs =>
    have hc : ¬isBlank c = true := Bool.eq_false_iff.1 (h.head c rfl)
    rw [trimChars, List.cons_append, List.dropWhile_cons_of_neg hc, dropTrailingBlanks_eq,
      ← List.cons_append]
    clear hc
    induction back using List.reverseRecOn with
    | nil =>
      rw [List.append_nil, List.rdropWhile_eq_self_iff]
      intro hne
      exact Bool.eq_false_iff.1 (h.last _ (List.getLast?_eq_some_getLast hne))
    | append_singleton back d ih =>
      rw [List.forall_mem_append, List.forall_mem_singleton] at hback
      rw [← List.append_assoc, List.rdropWhile_concat_pos _ _ _ hback.2, ih hback.1]

end Text

/-! ### Lists -/

namespace Recipients

/-- An address as it stands in a list: there is something of it, no blank at its ends, and no comma
in it. -/
structure IsAddress (a : String) : Prop where
  ne_empty : a ≠ ""
  trimmed : Text.IsTrimmed a.toList
  no_comma : ',' ∉ a.toList

/-- The texts that list some addresses. -/
inductive Listed : String → List String → Prop
  | none {s : String} (h : Text.isBlankText s = true) : Listed s []
  | one {front a back : String} (hfront : Text.isBlankText front = true) (ha : IsAddress a)
      (hback : Text.isBlankText back = true) : Listed (front ++ a ++ back) [a]
  | both {s t : String} {as bs : List String} (hs : Listed s as) (ht : Listed t bs) :
      Listed (s ++ "," ++ t) (as ++ bs)

theorem isBlankText_append {s t : String} :
    Text.isBlankText (s ++ t) = true ↔ Text.isBlankText s = true ∧ Text.isBlankText t = true := by
  rw [Text.isBlankText, String.toList_append, List.all_append, Bool.and_eq_true]
  rfl

theorem isBlankText_ofList {cs : List Char} :
    Text.isBlankText (String.ofList cs) = true ↔ ∀ c ∈ cs, Text.isBlank c = true := by
  rw [Text.isBlankText, String.toList_ofList, List.all_eq_true]

/-- A comma is not blank. -/
theorem comma_not_mem_of_blank {cs : List Char} (h : ∀ c ∈ cs, Text.isBlank c = true) :
    ',' ∉ cs := fun hmem => absurd (h _ hmem) (by decide)

/-- Blanks in front of a list make no difference. -/
theorem Listed.blank_append {gap s : String} {as : List String} (h : Listed s as)
    (hgap : Text.isBlankText gap = true) : Listed (gap ++ s) as := by
  induction h with
  | none h => exact .none (isBlankText_append.2 ⟨hgap, h⟩)
  | one hfront ha hback =>
    rw [← String.append_assoc, ← String.append_assoc]
    exact .one (isBlankText_append.2 ⟨hgap, hfront⟩) ha hback
  | both hs ht ihs iht =>
    rw [← String.append_assoc, ← String.append_assoc]
    exact .both ihs ht

/-- Addresses with commas between them are a list, with or without blanks behind the commas. -/
theorem listed_intercalate (gap : String) (hgap : Text.isBlankText gap = true) {as : List String}
    (has : ∀ a ∈ as, IsAddress a) : Listed (("," ++ gap).intercalate as) as := by
  have hone : ∀ a, IsAddress a → Listed a [a] := by
    intro a ha
    have h : Listed ("" ++ a ++ "") [a] := .one rfl ha rfl
    rwa [String.empty_append, String.append_empty] at h
  induction as with
  | nil => exact .none rfl
  | cons a as ih =>
    rw [List.forall_mem_cons] at has
    cases as with
    | nil => exact hone a has.1
    | cons b as =>
      rw [String.intercalate_cons_cons, ← String.append_assoc, String.append_assoc]
      exact .both (hone a has.1) ((ih has.2).blank_append hgap)

/-! ### Reading lists -/

/-- The address in an entry of a list, if it is not blank. -/
def entry (cs : List Char) : List String :=
  if Text.trimChars cs = [] then [] else [String.ofList (Text.trimChars cs)]

theorem readRecipients_eq_flatMap (raw : String) :
    readRecipients raw = (Text.splitChars ',' raw.toList).flatMap entry := by
  unfold readRecipients
  dsimp only
  induction Text.splitChars ',' raw.toList with
  | nil => rfl
  | cons part parts ih =>
    rw [List.flatMap_cons, ← ih, List.map_cons, entry]
    by_cases hpart : Text.trimChars part = []
    · rw [if_pos hpart, hpart]
      rfl
    · rw [if_neg hpart, List.filter_cons_of_pos (by simpa using hpart)]
      rfl

/-- What is in front of a comma is read separately from what is behind it. -/
theorem readRecipients_append (front back : String) :
    readRecipients (front ++ "," ++ back) = readRecipients front ++ readRecipients back := by
  have hcomma : (front ++ "," ++ back).toList = front.toList ++ ',' :: back.toList := by
    rw [String.toList_append, String.toList_append, List.append_assoc]
    rfl
  rw [readRecipients_eq_flatMap, readRecipients_eq_flatMap, readRecipients_eq_flatMap, hcomma,
    Text.splitChars_append_cons, List.flatMap_append]

theorem readRecipients_of_not_mem {s : String} (h : ',' ∉ s.toList) :
    readRecipients s = entry s.toList := by
  rw [readRecipients_eq_flatMap, Text.splitChars_of_not_mem h, List.flatMap_singleton]

/-- An entry lists its address. -/
theorem listed_entry {cs : List Char} (h : ',' ∉ cs) : Listed (String.ofList cs) (entry cs) := by
  obtain ⟨front, back, hfront, hback, hcs⟩ := Text.exists_blanks_trimChars cs
  unfold entry
  split_ifs with hempty
  · rw [hempty, List.append_nil] at hcs
    refine .none (isBlankText_ofList.2 ?_)
    rw [hcs]
    exact List.forall_mem_append.2 ⟨hfront, hback⟩
  · have haddress : IsAddress (String.ofList (Text.trimChars cs)) := by
      constructor
      · simpa using hempty
      · rw [String.toList_ofList]
        exact Text.isTrimmed_trimChars cs
      · rw [String.toList_ofList]
        intro hmem
        apply h
        rw [hcs]
        exact List.mem_append_left _ (List.mem_append_right _ hmem)
    have hwhole : String.ofList cs =
        String.ofList front ++ String.ofList (Text.trimChars cs) ++ String.ofList back := by
      rw [← String.ofList_append, ← String.ofList_append, ← hcs]
    rw [hwhole]
    exact .one (isBlankText_ofList.2 hfront) haddress (isBlankText_ofList.2 hback)

/-- Every text is a list. -/
theorem listed_readRecipients (raw : String) : Listed raw (readRecipients raw) := by
  have hparts : ∀ parts : List (List Char), parts ≠ [] → (∀ part ∈ parts, ',' ∉ part) →
      Listed (String.ofList ([','].intercalate parts)) (parts.flatMap entry) := by
    intro parts hne hcommas
    induction parts with
    | nil => exact absurd rfl hne
    | cons part parts ih =>
      rw [List.forall_mem_cons] at hcommas
      have hfirst := listed_entry hcommas.1
      cases parts with
      | nil =>
        rw [List.intercalate_singleton, List.flatMap_singleton]
        exact hfirst
      | cons next parts =>
        rw [List.intercalate_cons_cons, String.ofList_append, String.ofList_append,
          List.flatMap_cons]
        exact .both hfirst (ih (List.cons_ne_nil _ _) hcommas.2)
  have hlisted := hparts _ (Text.splitChars_ne_nil ',' raw.toList)
    fun _ => Text.not_mem_of_mem_splitChars
  rwa [Text.intercalate_splitChars, String.ofList_toList, ← readRecipients_eq_flatMap] at hlisted

/-- A list is read as the addresses that it lists. -/
theorem Listed.read_eq {raw : String} {as : List String} (h : Listed raw as) :
    readRecipients raw = as := by
  induction h with
  | none h =>
    have hblank := List.all_eq_true.1 h
    rw [readRecipients_of_not_mem (comma_not_mem_of_blank hblank), entry,
      if_pos (Text.trimChars_of_blank hblank)]
  | @one front a back hfront ha hback =>
    have hfront := List.all_eq_true.1 hfront
    have hback := List.all_eq_true.1 hback
    have hcomma : ',' ∉ (front ++ a ++ back).toList := by
      rw [String.toList_append, String.toList_append, List.mem_append, List.mem_append]
      rintro ((hmem | hmem) | hmem)
      · exact comma_not_mem_of_blank hfront hmem
      · exact ha.no_comma hmem
      · exact comma_not_mem_of_blank hback hmem
    have htrimmed : Text.trimChars (front ++ a ++ back).toList = a.toList := by
      rw [String.toList_append, String.toList_append]
      exact Text.trimChars_append hfront hback ha.trimmed
    have hne : a.toList ≠ [] := by simpa using ha.ne_empty
    rw [readRecipients_of_not_mem hcomma, entry, htrimmed, if_neg hne, String.ofList_toList]
  | both hs ht ihs iht => rw [readRecipients_append, ihs, iht]

theorem readRecipients_eq_iff {raw : String} {as : List String} :
    readRecipients raw = as ↔ Listed raw as := by
  constructor
  · rintro rfl
    exact listed_readRecipients raw
  · exact Listed.read_eq

theorem Listed.isAddress {raw : String} {as : List String} (h : Listed raw as) :
    ∀ a ∈ as, IsAddress a := by
  induction h with
  | none h => exact List.forall_mem_nil _
  | one hfront ha hback => exact List.forall_mem_singleton.2 ha
  | both hs ht ihs iht => exact List.forall_mem_append.2 ⟨ihs, iht⟩

/-- What is read from a list is what it lists, so that nothing is lost, put together, moved or
repeated: all of it are addresses, and the addresses in front of a comma come before those behind
it. They are read again from a text in which they stand with commas between them, with or without a
blank behind each comma, and in this way they stand in the header of every mail to them. -/
theorem readRecipients_reread (raw : String) :
    (∀ a ∈ readRecipients raw, IsAddress a) ∧
    readRecipients (", ".intercalate (readRecipients raw)) = readRecipients raw ∧
    readRecipients (",".intercalate (readRecipients raw)) = readRecipients raw ∧
    (∀ front back,
      readRecipients (front ++ "," ++ back) = readRecipients front ++ readRecipients back) ∧
    (∀ as, readRecipients raw = as ↔ Listed raw as) ∧
    ∀ r sender branding now, ∃ rest, Mail.message r sender (readRecipients raw) branding now =
      "To: " ++ ", ".intercalate (readRecipients raw) ++ "\r\n" ++ rest := by
  have haddresses := (listed_readRecipients raw).isAddress
  refine ⟨haddresses, ?_, ?_, readRecipients_append, fun as => readRecipients_eq_iff, ?_⟩
  · exact (listed_intercalate " " rfl haddresses).read_eq
  · exact (listed_intercalate "" rfl haddresses).read_eq
  · intro r sender branding now
    refine ⟨"From: " ++ sender ++ "\r\nSubject: " ++ messageTitle branding.appName r ++ "\r\n" ++
      "\r\n" ++ Mail.body r branding now ++ "\r\n", ?_⟩
    have hbreak : "\r\nFrom: " = "\r\n" ++ "From: " := rfl
    change "To: " ++ ", ".intercalate (readRecipients raw) ++ "\r\nFrom: " ++ sender ++
      "\r\nSubject: " ++ messageTitle branding.appName r ++ "\r\n" ++ "\r\n" ++
        Mail.body r branding now ++ "\r\n" = _
    rw [hbreak]
    simp only [String.append_assoc]

/-- Blanks are dropped and empty entries left out, in whatever script they are written. -/
example : readRecipients " a@b ,\u3000,, c d\t" = ["a@b", "c d"] := by decide +kernel

end Recipients

end AlertRelay
