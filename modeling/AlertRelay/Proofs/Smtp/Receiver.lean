import AlertRelay.Smtp.Body
import Mathlib.Tactic.Common

/-!
# What a mail server makes of a body

A server cuts what comes in at the breaks, that is, where a carriage return is followed by a line
feed. A line with a single dot marks the end of a message, and what stands behind it is read as
commands again; of every other line that starts with a dot the server drops the dot (`receive`).

The lines that a message is meant to have are told without a word about how it is sent: line feeds
take the places of its breaks, one line feed at the end is left out, and the rest is cut at the line
feeds (`textLines`). `receive_encodeBody` says that a server gets exactly these lines out of the
encoded message, and exactly what was sent behind it is left. So a message cannot end the transfer
before its time, whatever it holds: no line feed is in its lines, which makes the inserted break the
first one that a server can see behind a line, and no line is a single dot once dots are stuffed.
-/

namespace AlertRelay.Smtp

/-! ### Lines and breaks -/

/-- The line in front of the first break, and what stands behind the break. -/
def cutLine? : List Char → Option (List Char × List Char)
  | [] => none
  | '\r' :: '\n' :: rest => some ([], rest)
  | c :: rest => (cutLine? rest).map fun (line, behind) => (c :: line, behind)

/-- The first break is where it was found. -/
theorem eq_of_cutLine? {cs line rest : List Char} (h : cutLine? cs = some (line, rest)) :
    cs = line ++ crlf ++ rest := by
  induction cs using cutLine?.induct generalizing line with
  | case1 => cases h
  | case2 behind =>
    rw [cutLine?] at h
    cases h
    rfl
  | case3 c behind hbreak ih =>
    rw [cutLine?.eq_3 c behind hbreak] at h
    obtain ⟨⟨first, last⟩, hcut, h⟩ := Option.map_eq_some_iff.1 h
    cases h
    rw [ih hcut]
    rfl

theorem length_of_cutLine? {cs line rest : List Char} (h : cutLine? cs = some (line, rest)) :
    rest.length < cs.length := by
  have hlength := congrArg List.length (eq_of_cutLine? h)
  simp only [List.length_append, crlf, List.length_cons, List.length_nil] at hlength
  omega

/-- The first break behind a line without line feeds is the one that was put there, even if the line
ends with a carriage return. -/
theorem cutLine?_line {line : List Char} (hline : '\n' ∉ line) (rest : List Char) :
    cutLine? (line ++ (crlf ++ rest)) = some (line, rest) := by
  induction line with
  | nil => rfl
  | cons c line ih =>
    rw [List.mem_cons, not_or] at hline
    obtain ⟨-, hline⟩ := hline
    have hbreak : ∀ behind, c = '\r' → line ++ (crlf ++ rest) = '\n' :: behind → False := by
      rintro behind - hbehind
      cases line with
      | nil => exact absurd (List.cons.inj hbehind).1 (by decide)
      | cons d line =>
        have hd : d = '\n' := (List.cons.inj hbehind).1
        exact hline (by rw [hd]; exact List.mem_cons_self)
    rw [List.cons_append, cutLine?.eq_3 c _ hbreak, ih hline]
    rfl

/-- What comes in later does not move the first break. -/
theorem cutLine?_append {cs line rest : List Char} (h : cutLine? cs = some (line, rest))
    (more : List Char) : cutLine? (cs ++ more) = some (line, rest ++ more) := by
  induction cs using cutLine?.induct generalizing line with
  | case1 => cases h
  | case2 behind =>
    rw [cutLine?] at h
    cases h
    rfl
  | case3 c behind hbreak ih =>
    rw [cutLine?.eq_3 c behind hbreak] at h
    obtain ⟨⟨first, last⟩, hcut, h⟩ := Option.map_eq_some_iff.1 h
    cases h
    have hlater : ∀ later, c = '\r' → behind ++ more = '\n' :: later → False := by
      rintro later hc hlater
      cases behind with
      | nil => cases hcut
      | cons d behind =>
        have hd : d = '\n' := (List.cons.inj hlater).1
        exact hbreak behind hc (by rw [hd])
    rw [List.cons_append, cutLine?.eq_3 c _ hlater, ih hcut]
    rfl

/-- The parts between the breaks. -/
def breakParts (cs : List Char) : List (List Char) :=
  match _h : cutLine? cs with
  | none => [cs]
  | some (line, rest) => line :: breakParts rest
termination_by cs.length
decreasing_by exact length_of_cutLine? ‹_›

theorem breakParts_of_eq_none {cs : List Char} (h : cutLine? cs = none) : breakParts cs = [cs] := by
  rw [breakParts]
  split <;> rename_i heq
  · rfl
  · rw [h] at heq
    cases heq

theorem breakParts_of_eq_some {cs line rest : List Char} (h : cutLine? cs = some (line, rest)) :
    breakParts cs = line :: breakParts rest := by
  rw [breakParts]
  split <;> rename_i heq <;> rw [h] at heq
  · cases heq
  · cases heq
    rfl

theorem breakParts_ne_nil (cs : List Char) : breakParts cs ≠ [] := by
  rw [breakParts]
  split <;> exact List.cons_ne_nil _ _

/-- A message with line feeds in the places of its breaks. -/
def withLineFeeds (message : List Char) : List Char :=
  ['\n'].intercalate (breakParts message)

/-- A message without the line feed at its end. One is left out, not more. -/
def withoutFinalLineFeed (message : List Char) : List Char :=
  if message.getLast? = some '\n' then message.dropLast else message

/-- The lines of a message. -/
def textLines (message : List Char) : List (List Char) :=
  Text.splitChars '\n' (withoutFinalLineFeed (withLineFeeds message))

/-- No line has a line feed in it. -/
theorem not_mem_of_mem_textLines {message line : List Char} (h : line ∈ textLines message) :
    '\n' ∉ line :=
  Text.not_mem_of_mem_splitChars h

/-! ### The lines that are sent -/

theorem unifyBreaks_of_eq_none {cs : List Char} (h : cutLine? cs = none) : unifyBreaks cs = cs := by
  induction cs using cutLine?.induct with
  | case1 => rfl
  | case2 behind => cases h
  | case3 c behind hbreak ih =>
    rw [cutLine?.eq_3 c behind hbreak, Option.map_eq_none_iff] at h
    rw [unifyBreaks.eq_3 c behind hbreak, ih h]

theorem unifyBreaks_of_eq_some {cs line rest : List Char} (h : cutLine? cs = some (line, rest)) :
    unifyBreaks cs = line ++ '\n' :: unifyBreaks rest := by
  induction cs using cutLine?.induct generalizing line with
  | case1 => cases h
  | case2 behind =>
    rw [cutLine?] at h
    cases h
    rfl
  | case3 c behind hbreak ih =>
    rw [cutLine?.eq_3 c behind hbreak] at h
    obtain ⟨⟨first, last⟩, hcut, h⟩ := Option.map_eq_some_iff.1 h
    cases h
    rw [unifyBreaks.eq_3 c behind hbreak, ih hcut]
    rfl

/-- The breaks of a message become line feeds before it is sent. -/
theorem unifyBreaks_eq (message : List Char) : unifyBreaks message = withLineFeeds message := by
  unfold withLineFeeds
  induction message using breakParts.induct with
  | case1 cs h =>
    rw [breakParts_of_eq_none h, unifyBreaks_of_eq_none h, List.intercalate_singleton]
  | case2 cs line rest h ih =>
    rw [breakParts_of_eq_some h, unifyBreaks_of_eq_some h, ih]
    obtain ⟨part, parts, hparts⟩ := List.exists_cons_of_ne_nil (breakParts_ne_nil rest)
    rw [hparts, List.intercalate_cons_cons, List.append_assoc, List.singleton_append]

/-- A line feed at the end of a message is not sent. -/
theorem dropFinalBreak_eq (message : List Char) :
    dropFinalBreak message = withoutFinalLineFeed message := by
  unfold withoutFinalLineFeed
  induction message using dropFinalBreak.induct with
  | case1 => rfl
  | case2 => rfl
  | case3 c rest hlast ih =>
    rw [dropFinalBreak.eq_3 c rest hlast, ih]
    cases rest with
    | nil =>
      have hc : c ≠ '\n' := fun hc => hlast hc rfl
      simp [hc]
    | cons d rest =>
      rw [List.getLast?_cons_cons, List.dropLast_cons_cons]
      split <;> rfl

/-- The lines that are sent are those of the message. -/
theorem bodyLines_eq (message : List Char) : bodyLines message = textLines message := by
  rw [bodyLines, textLines, unifyBreaks_eq, dropFinalBreak_eq]

/-! ### Dots -/

/-- A line without the dot at its start, if it has one there. -/
def unstuffDot : List Char → List Char
  | '.' :: rest => rest
  | line => line

theorem unstuffDot_stuffDot (line : List Char) : unstuffDot (stuffDot line) = line := by
  unfold stuffDot
  split
  · rfl
  · rename_i hdot
    unfold unstuffDot
    split
    · exact absurd rfl (hdot _)
    · rfl

/-- No line is taken for the end of the message. -/
theorem stuffDot_ne_dot (line : List Char) : stuffDot line ≠ ['.'] := by
  unfold stuffDot
  split
  · simp
  · rename_i hdot
    exact hdot []

theorem not_mem_stuffDot {line : List Char} (hline : '\n' ∉ line) : '\n' ∉ stuffDot line := by
  unfold stuffDot
  split
  · simpa using hline
  · exact hline

/-! ### The receiver -/

/-- The lines of the message at the start of what comes in, and what stands behind the line that
marks its end. There is nothing yet if this line has not come. -/
def receive (input : List Char) : Option (List (List Char) × List Char) :=
  match _h : cutLine? input with
  | none => none
  | some (line, rest) =>
    if line = ['.'] then some ([], rest)
    else (receive rest).map fun (lines, behind) => (unstuffDot line :: lines, behind)
termination_by input.length
decreasing_by exact length_of_cutLine? ‹_›

theorem receive_of_eq_none {input : List Char} (h : cutLine? input = none) :
    receive input = none := by
  rw [receive]
  split <;> rename_i heq
  · rfl
  · rw [h] at heq
    cases heq

theorem receive_of_eq_some {input line rest : List Char}
    (h : cutLine? input = some (line, rest)) :
    receive input = if line = ['.'] then some ([], rest)
      else (receive rest).map fun (lines, behind) => (unstuffDot line :: lines, behind) := by
  rw [receive]
  split <;> rename_i heq <;> rw [h] at heq
  · cases heq
  · cases heq
    rfl

/-- The line with a single dot ends the message. -/
theorem receive_dot (rest : List Char) : receive ('.' :: crlf ++ rest) = some ([], rest) := by
  have hline : '\n' ∉ ['.'] := by decide
  have hcut : cutLine? ('.' :: crlf ++ rest) = some (['.'], rest) := cutLine?_line hline rest
  rw [receive_of_eq_some hcut, if_pos rfl]

/-- A line of the message is received as it was. -/
theorem receive_stuffDot {line : List Char} (hline : '\n' ∉ line) (rest : List Char) :
    receive (stuffDot line ++ (crlf ++ rest)) =
      (receive rest).map fun (lines, behind) => (line :: lines, behind) := by
  rw [receive_of_eq_some (cutLine?_line (not_mem_stuffDot hline) rest),
    if_neg (stuffDot_ne_dot line), unstuffDot_stuffDot]

/-- All lines of a message are received as they were, up to the line that marks its end. -/
theorem receive_lines {lines : List (List Char)} (hlines : ∀ line ∈ lines, '\n' ∉ line)
    (rest : List Char) :
    receive ((lines.flatMap fun line => stuffDot line ++ crlf) ++ '.' :: crlf ++ rest) =
      some (lines, rest) := by
  induction lines with
  | nil => exact receive_dot rest
  | cons line lines ih =>
    have hline := hlines line List.mem_cons_self
    have hrest := ih fun line h => hlines line (List.mem_cons_of_mem _ h)
    rw [List.flatMap_cons, List.append_assoc, List.append_assoc, List.append_assoc,
      receive_stuffDot hline, ← List.append_assoc, hrest]
    rfl

/-- What comes in later does not change a message that has come. -/
theorem receive_append {input rest : List Char} {lines : List (List Char)}
    (h : receive input = some (lines, rest)) (more : List Char) :
    receive (input ++ more) = some (lines, rest ++ more) := by
  induction input using receive.induct generalizing lines with
  | case1 input hcut =>
    rw [receive_of_eq_none hcut] at h
    cases h
  | case2 input behind hcut =>
    rw [receive_of_eq_some hcut, if_pos rfl] at h
    cases h
    rw [receive_of_eq_some (cutLine?_append hcut more), if_pos rfl]
  | case3 input line behind hcut hdot ih =>
    rw [receive_of_eq_some hcut, if_neg hdot] at h
    obtain ⟨⟨later, last⟩, hreceive, h⟩ := Option.map_eq_some_iff.1 h
    cases h
    rw [receive_of_eq_some (cutLine?_append hcut more), if_neg hdot, ih hreceive]
    rfl

theorem encodeBody_eq (message : List Char) : encodeBody message =
    ((textLines message).flatMap fun line => stuffDot line ++ crlf) ++ '.' :: crlf := by
  rw [encodeBody, bodyLines_eq]

/-- A server gets the lines of a message out of what is sent, and exactly what was sent behind the
message is left. It gets nothing before all of the message has come, and messages are sent alike
only if they have the same lines. -/
theorem receive_encodeBody (message rest : List Char) :
    receive (encodeBody message ++ rest) = some (textLines message, rest) ∧
    (∀ k, receive ((encodeBody message).take k) =
      if k < (encodeBody message).length then none else some (textLines message, [])) ∧
    ∀ other, encodeBody message = encodeBody other ↔ textLines message = textLines other := by
  have hreceive : ∀ message rest : List Char,
      receive (encodeBody message ++ rest) = some (textLines message, rest) := by
    intro message rest
    have hlines : ∀ line ∈ textLines message, '\n' ∉ line := fun line hline =>
      Text.not_mem_of_mem_splitChars hline
    rw [encodeBody_eq]
    exact receive_lines hlines rest
  have hwhole : ∀ message : List Char,
      receive (encodeBody message) = some (textLines message, []) := by
    intro message
    have hsame := hreceive message []
    rwa [List.append_nil] at hsame
  refine ⟨hreceive message rest, fun k => ?_, fun other => ?_⟩
  · split
    · rename_i hk
      cases hstart : receive ((encodeBody message).take k) with
      | none => rfl
      | some received =>
        -- Whatever was received so far would stay received when the rest comes.
        obtain ⟨lines, behind⟩ := received
        have hsame := receive_append hstart ((encodeBody message).drop k)
        rw [List.take_append_drop, hwhole, Option.some.injEq, Prod.mk.injEq] at hsame
        have hdrop : (encodeBody message).drop k = [] := (List.append_eq_nil_iff.1 hsame.2.symm).2
        have hle : (encodeBody message).length ≤ k := List.drop_eq_nil_iff.1 hdrop
        omega
    · rename_i hk
      rw [List.take_of_length_le (Nat.le_of_not_lt hk), hwhole]
  · constructor
    · intro hsent
      have hsame := hwhole other
      rw [← hsent, hwhole, Option.some.injEq, Prod.mk.injEq] at hsame
      exact hsame.1
    · intro hlines
      rw [encodeBody_eq, encodeBody_eq, hlines]

end AlertRelay.Smtp
