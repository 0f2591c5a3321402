import AlertRelay.Proofs.Render.Terminations
import AlertRelay.Proofs.Text.Digits
import AlertRelay.Render.Mail
import AlertRelay.Text.Split
import Mathlib.Tactic.Common

/-!
# The tables of mails

Below the summary, the error and the ended sessions, a mail has one table about the user and one
about the request, each with a row for every field. A row is meant to be one line, and the marker
`Mail.missingValue` is meant to stand in the place of a field that is empty (`Mail.ShowsFields`).
But rows are made of the texts as they are, so that a line feed in a text cuts its row in two, and
only the rows about the user have the marker. `Mail.tables_shown_iff` says what the lines of a mail
are for all texts, and for which of them its tables are as they are meant to be.
-/

namespace AlertRelay

/-- No line feed is part of a time as it is shown to readers. -/
theorem LocalTime.not_mem_shown (l : LocalTime) (t : Timestamp) : '\n' ∉ (l.shown t).toList := by
  have hpadded : ∀ width n, '\n' ∉ Text.padded width n := fun width n h =>
    absurd (Text.isDigit_of_mem_padded h) (by decide)
  have hyear : ∀ year, '\n' ∉ Timestamp.yearChars year := by
    intro year
    unfold Timestamp.yearChars
    split
    · exact hpadded _ _
    · rw [List.mem_cons, not_or]
      refine ⟨?_, hpadded _ _⟩
      split <;> decide
  have hoffset : ∀ o : Offset, '\n' ∉ o.chars := by
    intro o
    unfold Offset.chars
    simp only [List.cons_append, List.mem_cons, List.mem_append, not_or]
    refine ⟨?_, ⟨hpadded _ _, by decide, hpadded _ _⟩, ?_⟩
    · split <;> decide
    · split
      · exact List.not_mem_nil
      · rw [List.mem_cons, not_or]
        exact ⟨by decide, hpadded _ _⟩
  rw [shown, Timestamp.longText, String.toList_ofList]
  simp only [Timestamp.dateChars, Timestamp.clockChars, List.mem_append, List.mem_cons, not_or]
  exact ⟨⟨⟨⟨hyear _, by decide, hpadded _ _⟩, by decide, hpadded _ _⟩, by decide,
    ⟨⟨hpadded _ _, by decide, hpadded _ _⟩, by decide, hpadded _ _⟩⟩, by decide, hoffset _⟩

theorem LocalTime.shown_ne_empty (l : LocalTime) (t : Timestamp) : l.shown t ≠ "" := by
  rw [shown, Timestamp.longText, ne_eq, String.ofList_eq_empty_iff]
  exact List.append_ne_nil_of_right_ne_nil _ (List.cons_ne_nil _ _)

namespace Mail

/-! ### Lines -/

/-- The lines of a text, without the line feeds between them. -/
def lines (s : String) : List String :=
  (Text.splitChars '\n' s.toList).map String.ofList

theorem lines_append (s t : String) : lines (s ++ "\n" ++ t) = lines s ++ lines t := by
  have hfeed : (s ++ "\n" ++ t).toList = s.toList ++ '\n' :: t.toList := by
    rw [String.toList_append, String.toList_append, List.append_assoc]
    rfl
  rw [lines, hfeed, Text.splitChars_append_cons, List.map_append]
  rfl

theorem lines_of_not_mem {s : String} (h : '\n' ∉ s.toList) : lines s = [s] := by
  rw [lines, Text.splitChars_of_not_mem h, List.map_singleton, String.ofList_toList]

theorem not_mem_of_mem_lines {s line : String} (h : line ∈ lines s) : '\n' ∉ line.toList := by
  obtain ⟨part, hpart, rfl⟩ := List.mem_map.1 h
  rw [String.toList_ofList]
  exact Text.not_mem_of_mem_splitChars hpart

/-- A text whose last line is ended. -/
def EndsLine (s : String) : Prop :=
  ∃ front, s = front ++ "\n"

theorem EndsLine.append {t : String} (h : EndsLine t) (s : String) : EndsLine (s ++ t) := by
  obtain ⟨front, rfl⟩ := h
  exact ⟨s ++ front, (String.append_assoc ..).symm⟩

/-- What stands behind an ended line begins a line of its own. -/
theorem EndsLine.lines_append {s : String} (h : EndsLine s) (t : String) :
    lines (s ++ t) = (lines s).dropLast ++ lines t := by
  obtain ⟨front, rfl⟩ := h
  have hfront : lines (front ++ "\n") = lines front ++ [""] := by
    rw [← String.append_empty (s := front ++ "\n"), Mail.lines_append]
    rfl
  rw [Mail.lines_append, hfront, List.dropLast_concat]

/-! ### Fields -/

/-- What the table about the user shows, in the order of its rows. -/
def detailFields (a : Alert) : List (String × String) :=
  [("Username", a.username), ("User IP", a.userIp), ("Alert/Search Name", a.alertName),
    ("Alert/Search ID", a.searchId)]

/-- What the table about the request shows, in the order of its rows. -/
def requestFields (a : Alert) (now : LocalTime) : List (String × String) :=
  [("Received at", now.shown a.arrival), ("Endpoint path", a.endpointPath),
    ("HTTP Method", a.httpMethod), ("Alert Sender IP", a.senderIp)]

/-- A row, without the break at its end. -/
def rowText (name value : String) : String :=
  "| " ++ name ++ " | " ++ value ++ " |"

/-- The lines of a table: its title, those of its rows between empty lines. -/
def tableLines (title : String) (rows : List String) : List String :=
  ["**" ++ title ++ "**", ""] ++ rows ++ [""]

/-- The rows of a table, all of them one line with a value. -/
def properRows (fields : List (String × String)) : List String :=
  fields.map fun f =>
    rowText f.1 (if f.2 = "" then "MISSING VALUE - Please file a bug report!" else f.2)

/-- The lines of a mail above its tables, where nothing of the alert is shown. Behind the last break
of these parts the tables begin. -/
def linesAbove (r : EventRecord) : List String :=
  (lines (summaryPart r ++ errorPart r ++ terminationPart r)).dropLast

/-- The tables of a mail have one line for each field, in the order of the fields, with a value. -/
def ShowsFields (r : EventRecord) (branding : Branding) (now : LocalTime) : Prop :=
  ∃ below, lines (body r branding now) =
    linesAbove r ++ tableLines "Disable User Request Details" (properRows (detailFields r.alert)) ++
      tableLines "Alert Request Summary" (properRows (requestFields r.alert now)) ++
      "**Alert Request Headers**" :: below

/-! ### Tables as they are -/

theorem orMissing_eq (s : String) :
    orMissing s = if s = "" then "MISSING VALUE - Please file a bug report!" else s := by
  unfold orMissing
  simp only [String.isEmpty_iff]
  rfl

theorem lines_lineFeed_append (s : String) : lines ("\n" ++ s) = "" :: lines s := by
  rw [← String.empty_append (s := "\n"), lines_append]
  rfl

/-- The title of a table is a line of its own. -/
theorem lines_table {title : String} (htitle : '\n' ∉ title.toList) (rows : List String)
    (rest : String) :
    lines (table title rows ++ rest) =
      ["**" ++ title ++ "**", ""] ++ lines (String.join rows ++ "\n" ++ rest) := by
  have hheading : '\n' ∉ ("**" ++ title ++ "**").toList := by
    have hstars : '\n' ∉ "**".toList := by decide
    simp only [String.toList_append, List.mem_append, not_or]
    exact ⟨⟨hstars, htitle⟩, hstars⟩
  have hwhole : table title rows ++ rest =
      "**" ++ title ++ "**" ++ "\n" ++ ("\n" ++ (String.join rows ++ "\n" ++ rest)) := by
    have hbreaks : "**\n\n" = "**" ++ "\n" ++ "\n" := rfl
    change "**" ++ title ++ "**\n\n" ++ _ ++ "\n" ++ rest = _
    rw [hbreaks]
    simp only [String.append_assoc]
  rw [hwhole, lines_append, lines_of_not_mem hheading, lines_lineFeed_append]
  rfl

/-- A field has as many lines in a table as there are in its row, and an empty line ends the
table. -/
theorem lines_rows (fields : List (String × String)) (rest : String) :
    lines (String.join (fields.map fun f => row f.1 f.2) ++ "\n" ++ rest) =
      (fields.flatMap fun f => lines (rowText f.1 f.2)) ++ "" :: lines rest := by
  induction fields with
  | nil =>
    rw [List.map_nil, String.join_nil, String.empty_append, lines_lineFeed_append]
    rfl
  | cons f fields ih =>
    have hrow : row f.1 f.2 = rowText f.1 f.2 ++ "\n" := by
      rw [rowText, String.append_assoc]
      rfl
    have hfirst : row f.1 f.2 ++ String.join (fields.map fun f => row f.1 f.2) ++ "\n" ++ rest =
        rowText f.1 f.2 ++ "\n" ++
          (String.join (fields.map fun f => row f.1 f.2) ++ "\n" ++ rest) := by
      rw [hrow]
      simp only [String.append_assoc]
    rw [List.map_cons, String.join_cons, hfirst, lines_append, ih, List.flatMap_cons,
      List.append_assoc]

/-- A list of ended sessions ends with an empty line, if there are any. -/
theorem endsLine_terminationList {ts : List Termination} (h : ts ≠ []) :
    EndsLine (terminationList ts) := by
  obtain ⟨earlier, t, rfl⟩ := (List.eq_nil_or_concat' ts).resolve_left h
  refine ⟨String.ofList (earlier.flatMap Termination.entryChars ++ t.lineChars ++ ['\n']), ?_⟩
  have hfeed : "\n".toList = ['\n'] := rfl
  rw [← String.toList_inj, toList_terminationList, List.flatMap_append, List.flatMap_singleton,
    t.entryChars_eq, String.toList_append, String.toList_ofList, hfeed]
  simp only [List.append_assoc, List.cons_append, List.nil_append]

/-- The parts above the tables end with a line break. -/
theorem endsLine_above (r : EventRecord) :
    EndsLine (summaryPart r ++ errorPart r ++ terminationPart r) := by
  have herror : EndsLine (errorPart r) := by
    unfold errorPart
    refine EndsLine.append ?_ _
    split
    · rename_i error _
      exact EndsLine.append ⟨"\n</pre>\n", rfl⟩ ("<pre>\n" ++ error)
    · exact ⟨"* None\n", rfl⟩
  unfold terminationPart
  split
  · rw [String.append_empty]
    exact herror.append _
  · rename_i hsome
    have hne : r.terminations ≠ [] := by simpa using hsome
    exact ((endsLine_terminationList hne).append _).append _

/-- The lines of a mail, for whatever texts there are in the alert. -/
theorem exists_lines_body (r : EventRecord) (branding : Branding) (now : LocalTime) :
    ∃ below, lines (body r branding now) =
      linesAbove r ++
        tableLines "Disable User Request Details"
          ((detailFields r.alert).flatMap fun f => lines (rowText f.1 (orMissing f.2))) ++
        tableLines "Alert Request Summary"
          ((requestFields r.alert now).flatMap fun f => lines (rowText f.1 f.2)) ++
        "**Alert Request Headers**" :: below := by
  have hbody : body r branding now =
      summaryPart r ++ errorPart r ++ terminationPart r ++
        (table "Disable User Request Details" (detailRows r.alert) ++
          (table "Alert Request Summary" (requestRows r.alert now) ++
            (table "Alert Request Headers" (headerRows r.alert.headers) ++
              branding.textileTrailer now.text))) := by
    unfold body
    simp only [String.append_assoc]
  have hdetails : detailRows r.alert =
      ((detailFields r.alert).map fun f => (f.1, orMissing f.2)).map fun f => row f.1 f.2 := rfl
  have hrequest : requestRows r.alert now = (requestFields r.alert now).map fun f => row f.1 f.2 := rfl
  rw [hbody, (endsLine_above r).lines_append, lines_table (by decide), hdetails, lines_rows,
    lines_table (by decide), hrequest, lines_rows, lines_table (by decide)]
  simp only [List.flatMap_map, linesAbove, tableLines, List.append_assoc, List.cons_append,
    List.nil_append]
  exact ⟨_, rfl⟩

/-! ### Tables as they are meant to be -/

/-- The texts of an alert that stand in the tables. -/
def freeTexts (a : Alert) : List String :=
  [a.username, a.userIp, a.alertName, a.searchId, a.endpointPath, a.httpMethod, a.senderIp]

theorem properRows_eq (fields : List (String × String)) :
    properRows fields = fields.map fun f => rowText f.1 (orMissing f.2) := by
  simp only [properRows, orMissing_eq]

/-- The rows of a table are told from what stands behind it. -/
theorem tableLines_inj {title : String} {rows rows' rest rest' : List String}
    (hlength : rows.length = rows'.length)
    (h : tableLines title rows ++ rest = tableLines title rows' ++ rest') : rows = rows' := by
  simp only [tableLines, List.append_assoc] at h
  exact List.append_inj_left (List.append_cancel_left h) hlength

theorem not_mem_rowText_iff {name value : String} (hname : '\n' ∉ name.toList) :
    '\n' ∉ (rowText name value).toList ↔ '\n' ∉ value.toList := by
  have hopen : '\n' ∉ "| ".toList := by decide
  have hbetween : '\n' ∉ " | ".toList := by decide
  have hclose : '\n' ∉ " |".toList := by decide
  simp only [rowText, String.toList_append, List.mem_append, hopen, hname, hbetween, hclose, false_or,
    or_false]

theorem not_mem_orMissing_iff {value : String} :
    '\n' ∉ (orMissing value).toList ↔ '\n' ∉ value.toList := by
  rw [orMissing_eq]
  split_ifs with h
  · rw [h]
    decide +kernel
  · rfl

theorem orMissing_eq_self_iff {value : String} : orMissing value = value ↔ value ≠ "" := by
  rw [orMissing_eq]
  split_ifs with h
  · rw [h]
    decide +kernel
  · exact iff_of_true rfl h

theorem rowText_inj {name value other : String} :
    rowText name value = rowText name other ↔ value = other := by
  rw [rowText, rowText, String.append_left_inj, String.append_right_inj]

/-- The names of all fields are lines. -/
theorem not_mem_name (a : Alert) (now : LocalTime) :
    ∀ f ∈ detailFields a ++ requestFields a now, '\n' ∉ f.1.toList := by
  simp only [detailFields, requestFields, List.cons_append, List.nil_append, List.forall_mem_cons]
  exact ⟨by decide, by decide, by decide, by decide, by decide, by decide, by decide, by decide,
    List.forall_mem_nil _⟩

/-- The arrival aside, the tables show the texts of the alert. -/
theorem forall_fields_iff (a : Alert) (now : LocalTime) :
    (∀ f ∈ detailFields a ++ requestFields a now, '\n' ∉ f.2.toList) ↔
      ∀ s ∈ freeTexts a, '\n' ∉ s.toList := by
  have harrival := now.not_mem_shown a.arrival
  simp [detailFields, requestFields, freeTexts, harrival]

theorem forall_orMissing_iff (a : Alert) (now : LocalTime) :
    (∀ f ∈ requestFields a now, orMissing f.2 = f.2) ↔
      a.endpointPath ≠ "" ∧ a.httpMethod ≠ "" ∧ a.senderIp ≠ "" := by
  have harrival := now.shown_ne_empty a.arrival
  simp [requestFields, orMissing_eq_self_iff, harrival]

/-- Rows without line feeds are one line each. -/
theorem flatMap_lines {value : String × String → String} {fields : List (String × String)}
    (h : ∀ f ∈ fields, '\n' ∉ (rowText f.1 (value f)).toList) :
    (fields.flatMap fun f => lines (rowText f.1 (value f))) =
      fields.map fun f => rowText f.1 (value f) := by
  induction fields with
  | nil => rfl
  | cons f fields ih =>
    rw [List.forall_mem_cons] at h
    rw [List.flatMap_cons, lines_of_not_mem h.1, ih h.2]
    rfl

/-- The lines of a mail about an alert without line feeds in its texts. -/
theorem exists_lines_body_of_not_mem {r : EventRecord} (branding : Branding) {now : LocalTime}
    (h : ∀ f ∈ detailFields r.alert ++ requestFields r.alert now, '\n' ∉ f.2.toList) :
    ∃ below, lines (body r branding now) =
      linesAbove r ++ tableLines "Disable User Request Details" (properRows (detailFields r.alert)) ++
        tableLines "Alert Request Summary"
          ((requestFields r.alert now).map fun f => rowText f.1 f.2) ++
        "**Alert Request Headers**" :: below := by
  obtain ⟨below, hbody⟩ := exists_lines_body r branding now
  refine ⟨below, ?_⟩
  rw [hbody, properRows_eq, flatMap_lines, flatMap_lines]
  · intro f hf
    rw [not_mem_rowText_iff (not_mem_name _ now f (List.mem_append_right _ hf))]
    exact h f (List.mem_append_right _ hf)
  · intro f hf
    rw [not_mem_rowText_iff (not_mem_name _ now f (List.mem_append_left _ hf)), not_mem_orMissing_iff]
    exact h f (List.mem_append_left _ hf)

/-- The tables of a mail are as they are meant to be exactly if no text in them has a line feed, and
no text about the request is empty. -/
theorem showsFields_iff (r : EventRecord) (branding : Branding) (now : LocalTime) :
    ShowsFields r branding now ↔
      (∀ s ∈ freeTexts r.alert, '\n' ∉ s.toList) ∧
        r.alert.endpointPath ≠ "" ∧ r.alert.httpMethod ≠ "" ∧ r.alert.senderIp ≠ "" := by
  rw [← forall_fields_iff _ now, ← forall_orMissing_iff _ now]
  constructor
  · rintro ⟨below, hmeant⟩
    -- A row that is a line has no line feed in it.
    have hfields : ∀ f ∈ detailFields r.alert ++ requestFields r.alert now, '\n' ∉ f.2.toList := by
      intro f hf
      have hmem : rowText f.1 (orMissing f.2) ∈ lines (body r branding now) := by
        rw [hmeant, properRows_eq, properRows_eq]
        simp only [tableLines, List.mem_append, List.mem_map]
        rcases List.mem_append.1 hf with hf | hf
        · exact .inl (.inl (.inr (.inl (.inr ⟨f, hf, rfl⟩))))
        · exact .inl (.inr (.inl (.inr ⟨f, hf, rfl⟩)))
      rw [← not_mem_orMissing_iff, ← not_mem_rowText_iff (not_mem_name r.alert now f hf)]
      exact not_mem_of_mem_lines hmem
    obtain ⟨below', hbody⟩ := exists_lines_body_of_not_mem branding hfields
    rw [hbody, List.append_assoc, List.append_assoc (linesAbove r ++ _)] at hmeant
    have hrows := tableLines_inj (by simp [properRows]) (List.append_cancel_left hmeant)
    rw [properRows_eq, List.map_inj_left] at hrows
    exact ⟨hfields, fun f hf => (rowText_inj.1 (hrows f hf)).symm⟩
  · rintro ⟨hfields, hshown⟩
    obtain ⟨below, hbody⟩ := exists_lines_body_of_not_mem branding hfields
    have hrows : properRows (requestFields r.alert now) =
        (requestFields r.alert now).map fun f => rowText f.1 f.2 := by
      rw [properRows_eq]
      exact List.map_congr_left fun f hf => by rw [hshown f hf]
    exact ⟨below, by rw [hbody, hrows]⟩

/-- Whatever the texts of an alert are, its tables have a row for each field, in the order of the
fields, which takes as many lines as its text has, and the rows about the user show a marker for an
empty text. All rows are one line with a value exactly if no text has a line feed and those about
the request are not empty. -/
theorem tables_shown_iff (r : EventRecord) (branding : Branding) (now : LocalTime) :
    (∃ below, lines (body r branding now) =
      linesAbove r ++
        tableLines "Disable User Request Details"
          ((detailFields r.alert).flatMap fun f => lines (rowText f.1
            (if f.2 = "" then "MISSING VALUE - Please file a bug report!" else f.2))) ++
        tableLines "Alert Request Summary"
          ((requestFields r.alert now).flatMap fun f => lines (rowText f.1 f.2)) ++
        "**Alert Request Headers**" :: below) ∧
      (ShowsFields r branding now ↔
        (∀ s ∈ freeTexts r.alert, '\n' ∉ s.toList) ∧
          r.alert.endpointPath ≠ "" ∧ r.alert.httpMethod ≠ "" ∧ r.alert.senderIp ≠ "") := by
  refine ⟨?_, showsFields_iff r branding now⟩
  simp only [← orMissing_eq]
  exact exists_lines_body r branding now

/-- A record of an alert that came without the path of its request. -/
def pathless : EventRecord where
  id := .nil
  alert :=
    { username := "jdoe"
      userIp := "192.0.2.10"
      senderIp := "198.51.100.4"
      alertName := "Repeated login failures"
      searchId := "scheduler__admin__search_123"
      httpMethod := "POST" }
  error := none
  note := some "user disabled"
  action := .disableRequested
  terminations := []
  error_shown := shown_nonBlank none
  note_shown := by
    intro s hs
    cases hs
    rfl
  has_remark := .inr (Option.some_ne_none _)

/-- A path that is missing is not shown as such, and a line feed in the name of the user, even with
all texts given, cuts its row in two. -/
theorem tables_break :
    ¬ShowsFields pathless ⟨"App", ""⟩ (.utc "") ∧
      ¬ShowsFields
        { pathless with alert := { pathless.alert with username := "a\nb", endpointPath := "/" } }
        ⟨"App", ""⟩ (.utc "") := by
  rw [showsFields_iff, showsFields_iff]
  constructor
  · rintro ⟨-, hpath, -⟩
    exact hpath rfl
  · rintro ⟨htexts, -⟩
    exact absurd (htexts "a\nb" List.mem_cons_self) (by decide)

end Mail

end AlertRelay
