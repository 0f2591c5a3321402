import AlertRelay.Proofs.Text.Quoted
import AlertRelay.Render.Summary
import Mathlib.Data.List.Forall2

/-!
# Lists of ended sessions can be read in one way only

An entry of the list is six quoted values, each behind a fixed label. The labels end the values, so
two lists that look the same have the same values in the same entries: no value can pass for another
field or another entry (`terminationList_eq_iff`). Only an error that is missing looks like the
error `None`. Quoted values hold no control characters, so each entry is one line and an empty line.
-/

namespace AlertRelay

namespace Text

/-- Quoted values, each behind its label. -/
def labelled (labels values : List (List Char)) : List Char :=
  (labels.zip values).flatMap fun field => field.1 ++ quoteChars field.2

/-- As many quoted values as there are labels are told from whatever stands behind them. -/
theorem eq_of_labelled_append_eq {labels values values' : List (List Char)}
    (h : values.length = labels.length) (h' : values'.length = labels.length)
    {rest rest' : List Char}
    (heq : labelled labels values ++ rest = labelled labels values' ++ rest') :
    values = values' ∧ rest = rest' := by
  induction labels generalizing values values' with
  | nil =>
    rw [List.length_nil, List.length_eq_zero_iff] at h h'
    subst h h'
    exact ⟨rfl, heq⟩
  | cons label labels ih =>
    obtain ⟨v, values, rfl⟩ := List.exists_cons_of_length_eq_add_one h
    obtain ⟨v', values', rfl⟩ := List.exists_cons_of_length_eq_add_one h'
    simp only [labelled, List.zip_cons_cons, List.flatMap_cons, List.append_assoc,
      List.append_cancel_left_eq] at heq
    obtain ⟨hvalue, hbehind⟩ := selfDelimiting_quoteChars v v' _ _ heq
    obtain ⟨hvalues, hrest⟩ := ih (Nat.succ.inj h) (Nat.succ.inj h') hbehind
    exact ⟨List.cons_eq_cons.2 ⟨hvalue, hvalues⟩, hrest⟩

/-- Labels without control characters stay free of them with quoted values. -/
theorem isControl_of_mem_labelled {labels values : List (List Char)}
    (hlabels : ∀ label ∈ labels, ∀ c ∈ label, isControl c = false) {c : Char}
    (h : c ∈ labelled labels values) : isControl c = false := by
  obtain ⟨field, hfield, hc⟩ := List.mem_flatMap.1 h
  rcases List.mem_append.1 hc with hlabel | hvalue
  · exact hlabels field.1 (List.of_mem_zip hfield).1 c hlabel
  · exact isControl_of_mem_quoteChars hvalue

end Text

namespace Termination

/-- What stands in front of the values of an entry. -/
def labels : List (List Char) :=
  ["- \x7b SessionID: ".toList, ", IPAddress: ".toList, ", ExitCode: ".toList,
    ", StdOut: ".toList, ", StdErr: ".toList, ", Error: ".toList]

/-- The values of an entry. -/
def values (t : Termination) : List (List Char) :=
  [t.sessionId.toList, t.ipAddress.toList, (toString t.exitCode).toList, t.stdout.toList,
    t.stderr.toList, (t.error.getD "None").toList]

/-- The line of an entry. -/
def lineChars (t : Termination) : List Char :=
  Text.labelled labels t.values ++ [' ', '\x7d']

/-- A termination as the list shows it: a missing error looks like the error `None`. -/
def shown (t : Termination) : Termination :=
  { t with error := some (t.error.getD "None") }

theorem entryChars_eq (t : Termination) : t.entryChars = t.lineChars ++ ['\n', '\n'] := by
  simp [entryChars, lineChars, Text.labelled, labels, values, List.intercalate]

/-- Entries with the same values look the same in the list. -/
theorem values_eq_iff {t u : Termination} : t.values = u.values ↔ t.shown = u.shown := by
  simp only [values, shown, String.toList_inj, Text.toString_int_inj, List.cons.injEq, and_true,
    Termination.mk.injEq, Option.some.injEq]

/-- A missing error is written like the error `None`. -/
theorem entryChars_shown (t : Termination) : t.shown.entryChars = t.entryChars :=
  rfl

/-- An entry is told from whatever stands behind it. -/
theorem selfDelimiting_entryChars : Text.SelfDelimiting entryChars shown := by
  intro t u rest rest' heq
  simp only [entryChars_eq, lineChars, List.append_assoc] at heq
  have hcount : ∀ t : Termination, t.values.length = labels.length := fun _ => rfl
  obtain ⟨hvalues, hbehind⟩ := Text.eq_of_labelled_append_eq (hcount t) (hcount u) heq
  exact ⟨values_eq_iff.1 hvalues, List.append_cancel_left (List.append_cancel_left hbehind)⟩

/-- No control character is left in the line of an entry. -/
theorem isControl_of_mem_lineChars {t : Termination} {c : Char} (h : c ∈ t.lineChars) :
    Text.isControl c = false := by
  have hlabels : ∀ label ∈ labels, ∀ c ∈ label, Text.isControl c = false := by
    simp [labels, Text.isControl]
  have hend : ∀ c ∈ [' ', '\x7d'], Text.isControl c = false := by simp [Text.isControl]
  rcases List.mem_append.1 h with hfield | hc
  · exact Text.isControl_of_mem_labelled hlabels hfield
  · exact hend c hc

/-- The control characters of an entry are the two line feeds at its end. -/
theorem filter_isControl_entryChars (t : Termination) :
    t.entryChars.filter Text.isControl = ['\n', '\n'] := by
  have hline : t.lineChars.filter Text.isControl = [] :=
    List.filter_eq_nil_iff.2 fun c hc => Bool.eq_false_iff.1 (isControl_of_mem_lineChars hc)
  rw [entryChars_eq, List.filter_append, hline]
  rfl

end Termination

section

variable {ts us : List Termination}

theorem toList_terminationList (ts : List Termination) :
    (terminationList ts).toList = ts.flatMap Termination.entryChars :=
  String.toList_ofList

/-- Two lists of ended sessions look the same exactly if their terminations do. -/
theorem terminationList_eq_iff :
    terminationList ts = terminationList us ↔
      ts.map Termination.shown = us.map Termination.shown := by
  rw [← String.toList_inj, toList_terminationList, toList_terminationList]
  constructor
  · intro heq
    have hne : ∀ t : Termination, t.entryChars ≠ [] := by
      intro t
      rw [t.entryChars_eq]
      exact List.append_ne_nil_of_right_ne_nil _ (List.cons_ne_nil _ _)
    exact Termination.selfDelimiting_entryChars.map_eq_of_flatMap_eq hne heq
  · intro h
    have hshown : ∀ ts : List Termination,
        ts.flatMap Termination.entryChars =
          (ts.map Termination.shown).flatMap Termination.entryChars := by
      intro ts
      simp only [List.flatMap_map, Termination.entryChars_shown]
    rw [hshown ts, h, ← hshown us]

/-- The only control characters of a list are two line feeds for each entry. -/
theorem filter_isControl_terminationList (ts : List Termination) :
    (terminationList ts).toList.filter Text.isControl = List.replicate (2 * ts.length) '\n' := by
  rw [toList_terminationList]
  induction ts with
  | nil => rfl
  | cons t ts ih =>
    rw [List.flatMap_cons, List.filter_append, ih, t.filter_isControl_entryChars, List.length_cons,
      Nat.mul_succ, Nat.add_comm, List.replicate_add]
    rfl

/-- A list is made of the lines of its entries with two line feeds behind each of them. -/
theorem terminationList_eq_join (ts : List Termination) :
    terminationList ts =
      String.join ((ts.map fun t => String.ofList t.lineChars).map (· ++ "\n\n")) := by
  rw [← String.toList_inj, toList_terminationList, String.toList_join, List.flatMap_map,
    List.flatMap_map]
  refine congrArg (List.flatMap · ts) (funext fun t => ?_)
  rw [t.entryChars_eq, String.toList_append, String.toList_ofList]
  rfl

/-- Two lists of ended sessions are the same text exactly if they agree field by field, where a
missing error counts as the error `None`. Whatever the texts of the fields are, the list is made of
one line for each entry, none of them with a control character in it, and two line feeds behind each
line; these are all the control characters there are. -/
theorem terminationList_unambiguous (ts us : List Termination) :
    (terminationList ts = terminationList us ↔
      ts.map Termination.shown = us.map Termination.shown) ∧
    (terminationList ts).toList.filter Text.isControl = List.replicate (2 * ts.length) '\n' ∧
    ∃ lines : List String,
      List.Forall₂ (fun line t => terminationList [t] = line ++ "\n\n" ∧
        ∀ c ∈ line.toList, Text.isControl c = false) lines ts ∧
      terminationList ts = String.join (lines.map (· ++ "\n\n")) := by
  have hlines : terminationList ts =
      String.join ((ts.map fun t => String.ofList t.lineChars).map (· ++ "\n\n")) :=
    terminationList_eq_join ts
  refine And.intro terminationList_eq_iff
    (And.intro (filter_isControl_terminationList ts) (Exists.intro _ (And.intro ?_ hlines)))
  rw [List.forall₂_map_left_iff]
  refine List.forall₂_same.2 fun t _ => ⟨?_, fun c hc => ?_⟩
  · rw [terminationList_eq_join, List.map_singleton, List.map_singleton, String.join_cons,
      String.join_nil, String.append_empty]
  · rw [String.toList_ofList] at hc
    exact Termination.isControl_of_mem_lineChars hc

/-- An address that looks like the end of one entry and the beginning of another is one field. -/
example : terminationList
    [{ sessionId := "a", ipAddress := "\" \x7d\n\n- \x7b SessionID: \"b", exitCode := -1 }] =
      "- \x7b SessionID: \"a\", IPAddress: \"\\\" \x7d\\n\\n- \x7b SessionID: \\\"b\", " ++
        "ExitCode: \"-1\", StdOut: \"\", StdErr: \"\", Error: \"None\" \x7d\n\n" := by
  decide +kernel

end

end AlertRelay
