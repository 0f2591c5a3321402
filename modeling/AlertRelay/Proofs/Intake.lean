import AlertRelay.Intake
import Mathlib.Data.List.Forall2
import Mathlib.Data.List.TakeWhile

/-!
# Lines of input

A line by itself is one of four things: it is not text, it is blank, it holds something that is not
a record, or it holds a record (`Intake.Line`). The lines in front of the first one that is not text
are read one by one (`Intake.readLines_eq`), and that line ends the reading
(`Intake.fault_readLines`). So the lines are read to the end exactly if all of them are text
(`Intake.fault_readLines_eq_none_iff`).
-/

namespace AlertRelay

namespace Intake

/-- What there is in a line. -/
inductive Line where
  | unreadable (fault : Utf8.Fault)
  | blank
  | invalid (fault : ReadFault)
  | record (r : EventRecord)

/-- What there is in a line by itself. A record without an identifier of its own takes this one. -/
def lineOf (fresh : Uuid) (bytes : List UInt8) : Line :=
  match Utf8.decode bytes with
  | .error fault => .unreadable fault
  | .ok cs =>
    let line := dropLineEnd cs
    if line.all Text.isBlank then .blank
    else match EventRecord.read fresh (String.ofList line) with
      | .ok r => .record r
      | .error fault => .invalid fault

/-- The record of a line that holds one. -/
def Line.record? : Line → Option EventRecord
  | .record r => some r
  | _ => none

/-- Why a line that holds something else is skipped. -/
def Line.invalid? : Line → Option ReadFault
  | .invalid fault => some fault
  | _ => none

/-- Whether a line is text. -/
def isText (bytes : List UInt8) : Bool :=
  (Utf8.decode bytes).isOk

/-- The lines by themselves, the first of which has the given number. -/
def linesOf (fresh : Nat → Uuid) (number : Nat) (lines : List (List UInt8)) : List Line :=
  (lines.zipIdx number).map fun line => lineOf (fresh line.2) line.1

/-- The records of those lines that hold one. -/
def recordsOf (fresh : Nat → Uuid) (number : Nat) (lines : List (List UInt8)) : List EventRecord :=
  (linesOf fresh number lines).filterMap Line.record?

/-- Why lines that hold something else are skipped. -/
def faultsOf (fresh : Nat → Uuid) (number : Nat) (lines : List (List UInt8)) : List ReadFault :=
  (linesOf fresh number lines).filterMap Line.invalid?

variable (fresh : Nat → Uuid) (number : Nat) {line : List UInt8} {lines : List (List UInt8)}

theorem isText_iff : isText line = true ↔ ∃ cs, Utf8.decode line = .ok cs := by
  unfold isText
  cases Utf8.decode line <;> simp [Except.isOk, Except.toBool]

theorem isText_eq_false_iff : isText line = false ↔ ∃ fault, Utf8.decode line = .error fault := by
  unfold isText
  cases Utf8.decode line <;> simp [Except.isOk, Except.toBool]

theorem recordsOf_cons (line : List UInt8) (lines : List (List UInt8)) :
    recordsOf fresh number (line :: lines) =
      (lineOf (fresh number) line).record?.toList ++ recordsOf fresh (number + 1) lines := by
  unfold recordsOf linesOf
  rw [List.zipIdx_cons, List.map_cons, List.filterMap_cons]
  cases (lineOf (fresh number) line).record? <;> rfl

theorem faultsOf_cons (line : List UInt8) (lines : List (List UInt8)) :
    faultsOf fresh number (line :: lines) =
      (lineOf (fresh number) line).invalid?.toList ++ faultsOf fresh (number + 1) lines := by
  unfold faultsOf linesOf
  rw [List.zipIdx_cons, List.map_cons, List.filterMap_cons]
  cases (lineOf (fresh number) line).invalid? <;> rfl

/-! ### Reading -/

/-- A line that is text adds what it holds to what the lines behind it hold. -/
theorem readLines_cons_of_isText (h : isText line = true) (lines : List (List UInt8)) :
    readLines fresh number (line :: lines) =
      { accepted := (lineOf (fresh number) line).record?.toList ++
          (readLines fresh (number + 1) lines).accepted
        skipped := (lineOf (fresh number) line).invalid?.toList ++
          (readLines fresh (number + 1) lines).skipped
        fault := (readLines fresh (number + 1) lines).fault } := by
  obtain ⟨cs, hdecode⟩ := isText_iff.1 h
  simp only [readLines, lineOf, hdecode]
  by_cases hblank : (dropLineEnd cs).all Text.isBlank = true
  · rw [if_pos hblank, if_pos hblank]
    rfl
  · rw [if_neg hblank, if_neg hblank]
    cases EventRecord.read (fresh number) (String.ofList (dropLineEnd cs)) <;> rfl

/-- A line that is not text ends the reading. -/
theorem readLines_cons_of_fault {fault : Utf8.Fault} (h : Utf8.decode line = .error fault)
    (lines : List (List UInt8)) :
    readLines fresh number (line :: lines) = { fault := some fault } := by
  rw [readLines, h]

/-- The lines in front of the first one that is not text are read one by one. -/
theorem readLines_eq (lines : List (List UInt8)) :
    (readLines fresh number lines).accepted = recordsOf fresh number (lines.takeWhile isText) ∧
      (readLines fresh number lines).skipped = faultsOf fresh number (lines.takeWhile isText) := by
  induction lines generalizing number with
  | nil => exact ⟨rfl, rfl⟩
  | cons line lines ih =>
    cases htext : isText line with
    | true =>
      obtain ⟨haccepted, hskipped⟩ := ih (number + 1)
      rw [readLines_cons_of_isText fresh number htext, List.takeWhile_cons_of_pos htext,
        recordsOf_cons, faultsOf_cons, haccepted, hskipped]
      exact ⟨rfl, rfl⟩
    | false =>
      obtain ⟨fault, hdecode⟩ := isText_eq_false_iff.1 htext
      rw [readLines_cons_of_fault fresh number hdecode,
        List.takeWhile_cons_of_neg (Bool.eq_false_iff.1 htext)]
      exact ⟨rfl, rfl⟩

/-- The reading ends with the fault of the first line that is not text. -/
theorem fault_readLines {before after : List (List UInt8)} {fault : Utf8.Fault}
    (hbefore : ∀ line ∈ before, isText line = true) (h : Utf8.decode line = .error fault) :
    (readLines fresh number (before ++ line :: after)).fault = some fault := by
  induction before generalizing number with
  | nil => rw [List.nil_append, readLines_cons_of_fault fresh number h]
  | cons first before ih =>
    have hfirst := hbefore first List.mem_cons_self
    rw [List.cons_append, readLines_cons_of_isText fresh number hfirst]
    exact ih _ fun line hline => hbefore line (List.mem_cons_of_mem _ hline)

/-- Only a line that is not text ends the reading before the end of the input. -/
theorem fault_readLines_eq_none_iff :
    (readLines fresh number lines).fault = none ↔ ∀ line ∈ lines, isText line = true := by
  induction lines generalizing number with
  | nil => simp [readLines]
  | cons line lines ih =>
    rw [List.forall_mem_cons]
    cases htext : isText line with
    | true =>
      rw [readLines_cons_of_isText fresh number htext, ih]
      exact (and_iff_right rfl).symm
    | false =>
      obtain ⟨fault, hdecode⟩ := isText_eq_false_iff.1 htext
      rw [readLines_cons_of_fault fresh number hdecode]
      simp

/-- The first line that is not text has only text in front of it. -/
theorem takeWhile_isText_append {before after : List (List UInt8)} {fault : Utf8.Fault}
    (hbefore : ∀ line ∈ before, isText line = true) (h : Utf8.decode line = .error fault) :
    (before ++ line :: after).takeWhile isText = before := by
  have hline : isText line = false := isText_eq_false_iff.2 ⟨fault, h⟩
  rw [List.takeWhile_append_of_pos hbefore, List.takeWhile_cons_of_neg (Bool.eq_false_iff.1 hline),
    List.append_nil]

/-- Lines that hold the same records give the same records. -/
theorem recordsOf_congr {others : List (List UInt8)}
    (h : List.Forall₂ (fun line other =>
      ∀ id, (lineOf id line).record? = (lineOf id other).record?) lines others) :
    recordsOf fresh number lines = recordsOf fresh number others := by
  induction h generalizing number with
  | nil => rfl
  | cons hline _ ih => rw [recordsOf_cons, recordsOf_cons, hline, ih]

end Intake

end AlertRelay
