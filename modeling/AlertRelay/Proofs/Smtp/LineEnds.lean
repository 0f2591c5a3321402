import AlertRelay.Proofs.Smtp.Receiver
import AlertRelay.Smtp.Reply

/-!
# Line ends that servers read differently

A line ends with a break, a carriage return and a line feed. There are servers that take one of
these characters alone for the end of a line as well (`looseLines`), and they get the lines that
were sent only if neither of them stands alone.

No line feed stands alone in what is sent for a message, since every line feed of the message is
sent as a break (`EndsLines.preceded`). A carriage return that stands alone is sent as it is, so
that all depends on the message (`EndsLines.followed`): the servers agree exactly if each of its
carriage returns has a line feed behind it (`EndsLines.both`). Otherwise a dot that stands between
two of them marks the end of the mail for some servers and not for others (`EndsLines.ended`), and
what stands behind it is a command there (`return_ends_mail`).
-/

namespace AlertRelay.Smtp

/-- Every line feed has a carriage return in front of it. -/
def FeedsPreceded (cs : List Char) : Prop :=
  ∀ front back, cs = front ++ '\n' :: back → front.getLast? = some '\r'

/-- Every carriage return has a line feed behind it. -/
def ReturnsFollowed (cs : List Char) : Prop :=
  ∀ front back, cs = front ++ '\r' :: back → back.head? = some '\n'

/-- The lines that a server sees for which a line ends with a break, or with a character alone of
those that end a line there. -/
def looseLines (ends : Char → Bool) (cs : List Char) : List (List Char) :=
  (breakParts cs).flatMap (List.splitOnP ends)

/-! ### Characters beside each other -/

theorem FeedsPreceded.append {as bs : List Char} (ha : FeedsPreceded as) (hb : FeedsPreceded bs) :
    FeedsPreceded (as ++ bs) := by
  intro front back hsame
  rcases List.append_eq_append_iff.1 hsame with ⟨middle, rfl, hbs⟩ | ⟨middle, rfl, hback⟩
  · have hlast := hb middle back hbs
    rw [List.getLast?_append, hlast]
    rfl
  · cases middle with
    | nil =>
      have hnone := hb [] back hback.symm
      cases hnone
    | cons c middle =>
      obtain ⟨rfl, -⟩ := List.cons.inj hback
      exact ha front middle rfl

theorem feedsPreceded_of_not_mem {cs : List Char} (h : '\n' ∉ cs) : FeedsPreceded cs := by
  rintro front back rfl
  exact absurd (List.mem_append_right _ List.mem_cons_self) h

theorem feedsPreceded_crlf : FeedsPreceded crlf := by
  intro front back hsame
  cases front with
  | nil => cases hsame
  | cons c front =>
    cases front with
    | nil =>
      cases hsame
      rfl
    | cons d front => cases front <;> cases hsame

theorem returnsFollowed_nil : ReturnsFollowed [] := by
  intro front back hsame
  cases front <;> cases hsame

theorem returnsFollowed_cons {c : Char} {cs : List Char} :
    ReturnsFollowed (c :: cs) ↔ (c = '\r' → cs.head? = some '\n') ∧ ReturnsFollowed cs := by
  constructor
  · intro h
    refine ⟨fun hc => h [] cs (by rw [hc]; rfl), fun front back hsame => ?_⟩
    exact h (c :: front) back (by rw [hsame]; rfl)
  · rintro ⟨hfirst, hrest⟩ front back hsame
    cases front with
    | nil =>
      obtain ⟨rfl, rfl⟩ := List.cons.inj hsame
      exact hfirst rfl
    | cons d front => exact hrest front back (List.cons.inj hsame).2

/-- A character in front that does not start a break may be anything but a carriage return. -/
theorem returnsFollowed_cons_of_no_break {c : Char} {cs : List Char}
    (hbreak : ∀ behind, c = '\r' → cs = '\n' :: behind → False) :
    ReturnsFollowed (c :: cs) ↔ '\r' ≠ c ∧ ReturnsFollowed cs := by
  rw [returnsFollowed_cons]
  refine and_congr_left' ⟨fun h hc => ?_, fun h hc => absurd hc.symm h⟩
  obtain ⟨behind, hbehind⟩ := List.head?_eq_some_iff.1 (h hc.symm)
  exact hbreak behind hc.symm hbehind

/-- A carriage return alone stands in one of the parts between the breaks. -/
theorem returnsFollowed_iff (cs : List Char) :
    ReturnsFollowed cs ↔ ∀ part ∈ breakParts cs, '\r' ∉ part := by
  induction cs using breakParts.induct with
  | case1 cs h =>
    rw [breakParts_of_eq_none h, List.forall_mem_singleton]
    induction cs using cutLine?.induct with
    | case1 => exact iff_of_true returnsFollowed_nil List.not_mem_nil
    | case2 behind => cases h
    | case3 c behind hbreak ih =>
      rw [cutLine?.eq_3 c behind hbreak, Option.map_eq_none_iff] at h
      rw [returnsFollowed_cons_of_no_break hbreak, ih h, List.mem_cons, not_or]
  | case2 cs line rest h ih =>
    rw [breakParts_of_eq_some h, List.forall_mem_cons, ← ih]
    clear ih
    induction cs using cutLine?.induct generalizing line with
    | case1 => cases h
    | case2 behind =>
      rw [cutLine?] at h
      cases h
      have hfeed : ReturnsFollowed ('\n' :: rest) ↔ ReturnsFollowed rest := by
        rw [returnsFollowed_cons]
        exact and_iff_right fun hc => absurd hc (by decide)
      rw [returnsFollowed_cons, hfeed]
      exact and_congr_left' (iff_of_true (fun _ => rfl) List.not_mem_nil)
    | case3 c behind hbreak ih =>
      rw [cutLine?.eq_3 c behind hbreak] at h
      obtain ⟨⟨first, last⟩, hcut, h⟩ := Option.map_eq_some_iff.1 h
      cases h
      rw [returnsFollowed_cons_of_no_break hbreak, ih first hcut, List.mem_cons, not_or, and_assoc]

/-! ### Lines and their characters -/

/-- A character other than the separator is in one of the parts exactly if it is in the whole. -/
theorem mem_intercalate {c separator : Char} (hc : c ≠ separator) (parts : List (List Char)) :
    c ∈ [separator].intercalate parts ↔ ∃ part ∈ parts, c ∈ part := by
  induction parts with
  | nil => simp
  | cons part parts ih =>
    cases parts with
    | nil => simp
    | cons next parts =>
      rw [List.intercalate_cons_cons, List.mem_append, List.mem_append, ih, List.mem_singleton,
        or_iff_left hc]
      simp only [List.mem_cons, exists_eq_or_imp]

theorem mem_withoutFinalLineFeed {c : Char} (hc : c ≠ '\n') (message : List Char) :
    c ∈ withoutFinalLineFeed message ↔ c ∈ message := by
  unfold withoutFinalLineFeed
  split
  · rename_i hlast
    obtain ⟨front, rfl⟩ := List.getLast?_eq_some_iff.1 hlast
    rw [List.dropLast_concat, List.mem_append, List.mem_singleton, or_iff_left hc]
  · exact Iff.rfl

/-- The lines of a message hold the carriage returns that stand alone in it. -/
theorem returnsFollowed_iff_textLines (message : List Char) :
    ReturnsFollowed message ↔ ∀ line ∈ textLines message, '\r' ∉ line := by
  have hreturn : '\r' ≠ '\n' := by decide
  have hlines : (∃ line ∈ textLines message, '\r' ∈ line) ↔
      ∃ part ∈ breakParts message, '\r' ∈ part := by
    rw [← mem_intercalate hreturn, textLines, Text.intercalate_splitChars,
      mem_withoutFinalLineFeed hreturn, withLineFeeds, mem_intercalate hreturn]
  rw [returnsFollowed_iff]
  simpa only [not_exists, not_and] using (not_congr hlines).symm

/-! ### Servers that see more line ends -/

/-- No line holds a character that ends one. -/
theorem forall_of_mem_splitOnP {ends : Char → Bool} {cs line : List Char}
    (h : line ∈ cs.splitOnP ends) : ∀ c ∈ line, ends c = false := by
  induction cs generalizing line with
  | nil =>
    obtain rfl := List.mem_singleton.1 h
    exact List.forall_mem_nil _
  | cons c cs ih =>
    obtain ⟨first, lines, hlines⟩ := List.exists_cons_of_ne_nil (List.splitOnP_ne_nil ends cs)
    rw [List.splitOnP_cons_eq_if_modifyHead, hlines] at h
    rw [hlines] at ih
    cases hc : ends c with
    | true =>
      rw [hc, if_pos rfl] at h
      rcases List.mem_cons.1 h with rfl | h
      · exact List.forall_mem_nil _
      · exact ih h
    | false =>
      rw [hc, if_neg Bool.false_ne_true, List.modifyHead_cons] at h
      rcases List.mem_cons.1 h with rfl | h
      · exact List.forall_mem_cons.2 ⟨hc, ih List.mem_cons_self⟩
      · exact ih (List.mem_cons_of_mem _ h)

/-- A server sees more lines than there are between the breaks, unless nothing in them ends a
line. -/
theorem looseLines_eq_iff {ends : Char → Bool} {cs : List Char} :
    looseLines ends cs = breakParts cs ↔ ∀ part ∈ breakParts cs, ∀ c ∈ part, ends c = false := by
  unfold looseLines
  constructor
  · intro hsame part hpart
    rw [← hsame] at hpart
    obtain ⟨whole, -, hcut⟩ := List.mem_flatMap.1 hpart
    exact forall_of_mem_splitOnP hcut
  · intro hclean
    generalize breakParts cs = parts at hclean
    induction parts with
    | nil => rfl
    | cons part parts ih =>
      obtain ⟨hpart, hparts⟩ := List.forall_mem_cons.1 hclean
      rw [List.flatMap_cons, List.splitOnP_eq_singleton hpart, ih hparts, List.singleton_append]

/-- A stuffed line has a dot alone in it where the line has one behind its first line end. -/
theorem dot_mem_splitOnP_stuffDot (line : List Char) :
    ['.'] ∈ (stuffDot line).splitOnP isBreak ↔ ['.'] ∈ (line.splitOnP isBreak).tail := by
  have hdot : isBreak '.' = false := by decide
  cases line with
  | nil => decide
  | cons c rest =>
    obtain ⟨first, parts, hparts⟩ := List.exists_cons_of_ne_nil (List.splitOnP_ne_nil isBreak rest)
    by_cases hc : c = '.'
    · subst hc
      rw [stuffDot, List.splitOnP_cons_eq_if_modifyHead, List.splitOnP_cons_eq_if_modifyHead, hdot,
        hparts]
      simp
    · have hstuff : stuffDot (c :: rest) = c :: rest := by
        unfold stuffDot
        split
        · rename_i hline
          exact absurd (List.cons.inj hline).1 hc
        · rfl
      rw [hstuff, List.splitOnP_cons_eq_if_modifyHead, hparts]
      split
      · simp
      · simp [Ne.symm hc]

/-! ### What is sent -/

/-- The parts of what is sent are the lines, with their dots, and the line that marks the end. -/
theorem breakParts_encodeBody (message : List Char) : breakParts (encodeBody message) =
    (textLines message).map stuffDot ++ [['.'], []] := by
  have hlines : ∀ line ∈ textLines message, '\n' ∉ line := fun _ => not_mem_of_mem_textLines
  have hend : breakParts ('.' :: crlf) = [['.'], []] := by
    have hcut : cutLine? (['.'] ++ (crlf ++ [])) = some (['.'], []) :=
      cutLine?_line (by decide) []
    exact (breakParts_of_eq_some hcut).trans (congrArg _ (breakParts_of_eq_none rfl))
  rw [encodeBody_eq]
  generalize textLines message = lines at hlines
  induction lines with
  | nil => exact hend
  | cons line lines ih =>
    obtain ⟨hline, hrest⟩ := List.forall_mem_cons.1 hlines
    rw [List.flatMap_cons, List.append_assoc, List.append_assoc,
      breakParts_of_eq_some (cutLine?_line (not_mem_stuffDot hline) _), ih hrest, List.map_cons,
      List.cons_append]

theorem feedsPreceded_encodeBody (message : List Char) : FeedsPreceded (encodeBody message) := by
  have hlines : ∀ line ∈ textLines message, '\n' ∉ line := fun _ => not_mem_of_mem_textLines
  have hdot : FeedsPreceded ['.'] := feedsPreceded_of_not_mem (by decide)
  rw [encodeBody_eq]
  refine FeedsPreceded.append ?_ (hdot.append feedsPreceded_crlf)
  generalize textLines message = lines at hlines
  induction lines with
  | nil => exact feedsPreceded_of_not_mem List.not_mem_nil
  | cons line lines ih =>
    obtain ⟨hline, hrest⟩ := List.forall_mem_cons.1 hlines
    have hfirst : FeedsPreceded (stuffDot line) :=
      feedsPreceded_of_not_mem (not_mem_stuffDot hline)
    exact (hfirst.append feedsPreceded_crlf).append (ih hrest)

/-- What holds of a dot holds of all characters between the breaks that are sent exactly if it holds
of all characters in the lines of the message. -/
theorem forall_breakParts_encodeBody {p : Char → Prop} (hp : p '.') (message : List Char) :
    (∀ part ∈ breakParts (encodeBody message), ∀ c ∈ part, p c) ↔
      ∀ line ∈ textLines message, ∀ c ∈ line, p c := by
  have hline (line : List Char) : (∀ c ∈ stuffDot line, p c) ↔ ∀ c ∈ line, p c := by
    unfold stuffDot
    split
    · rw [List.forall_mem_cons, and_iff_right hp]
    · exact Iff.rfl
  have hend : ∀ part ∈ [['.'], []], ∀ c ∈ part, p c := by simpa using hp
  rw [breakParts_encodeBody, List.forall_mem_append, and_iff_left hend, List.forall_mem_map]
  exact forall₂_congr fun line _ => hline line

/-- The carriage returns that stand alone are sent as they are. -/
theorem returnsFollowed_encodeBody (message : List Char) :
    ReturnsFollowed (encodeBody message) ↔ ReturnsFollowed message := by
  have hsent := forall_breakParts_encodeBody (p := fun c => '\r' ≠ c) (by decide) message
  rw [returnsFollowed_iff, returnsFollowed_iff_textLines]
  simpa only [ne_eq, List.forall_mem_ne] using hsent

/-- Servers that take a carriage return alone for the end of a line, and maybe a line feed, see the
lines of a message exactly if no carriage return stands alone in it. -/
theorem looseLines_encodeBody_iff {ends : Char → Bool} (hreturn : ends '\r' = true)
    (hends : ∀ c, ends c = true → isBreak c = true) (message : List Char) :
    looseLines ends (encodeBody message) = breakParts (encodeBody message) ↔
      ReturnsFollowed message := by
  have hdot : ends '.' = false := Bool.eq_false_iff.2 fun hdot => absurd (hends _ hdot) (by decide)
  rw [looseLines_eq_iff, forall_breakParts_encodeBody hdot, returnsFollowed_iff_textLines]
  refine forall₂_congr fun line hline => ⟨fun hclean hmem => ?_, fun hnone c hc => ?_⟩
  · rw [hclean _ hmem] at hreturn
    cases hreturn
  · refine Bool.eq_false_iff.2 fun hend => ?_
    have hbreak : c = '\r' ∨ c = '\n' := by simpa [isBreak] using hends c hend
    rcases hbreak with rfl | rfl
    · exact hnone hc
    · exact not_mem_of_mem_textLines hline hc

/-- The line ends in what is sent for a message. -/
structure EndsLines (message sent : List Char) : Prop where
  /-- No line feed stands alone. -/
  preceded : FeedsPreceded sent
  /-- No carriage return stands alone if none does in the message, and only then. -/
  followed : ReturnsFollowed sent ↔ ReturnsFollowed message
  /-- Between the breaks stand the lines of the message and the one that marks its end. -/
  parts : breakParts sent = (textLines message).map stuffDot ++ [['.'], []]
  single : (breakParts sent).count ['.'] = 1
  /-- A server that takes a line feed alone for the end of a line sees these lines. -/
  feeds : looseLines (· == '\n') sent = breakParts sent
  /-- One that takes a carriage return alone for it does not if there is one in the message. -/
  returns : looseLines (· == '\r') sent = breakParts sent ↔ ReturnsFollowed message
  both : looseLines isBreak sent = breakParts sent ↔ ReturnsFollowed message
  /-- The end is marked once there, too, if no dot alone stands behind a carriage return. -/
  ended : (looseLines isBreak sent).count ['.'] = 1 ↔
    ∀ line ∈ textLines message, ['.'] ∉ (line.splitOnP isBreak).tail

/-- What is sent has no line feed alone in it, and a carriage return alone if the message has. So
servers of all kinds see the same lines if there is none in the message, and they see the end of the
mail in the same place if no dot alone stands behind one. -/
theorem encodeBody_endsLines (message : List Char) : EndsLines message (encodeBody message) := by
  have hparts : breakParts (encodeBody message) = (textLines message).map stuffDot ++ [['.'], []] :=
    breakParts_encodeBody message
  refine
    { preceded := feedsPreceded_encodeBody message
      followed := returnsFollowed_encodeBody message
      parts := hparts
      single := ?single
      feeds := ?feeds
      returns := looseLines_encodeBody_iff rfl (fun c hc => by simp_all [isBreak]) message
      both := looseLines_encodeBody_iff rfl (fun c hc => hc) message
      ended := ?ended }
  case single =>
    have hnone : ((textLines message).map stuffDot).count ['.'] = 0 := by
      refine List.count_eq_zero.2 fun hdot => ?_
      obtain ⟨line, -, hline⟩ := List.mem_map.1 hdot
      exact stuffDot_ne_dot line hline
    rw [hparts, List.count_append, hnone]
    rfl
  case feeds =>
    rw [looseLines_eq_iff, forall_breakParts_encodeBody (by decide)]
    intro line hline c hc
    refine beq_false_of_ne ?_
    rintro rfl
    exact not_mem_of_mem_textLines hline hc
  case ended =>
    have hlast : ([['.'], []].flatMap (List.splitOnP isBreak)).count ['.'] = 1 := by decide
    rw [looseLines, hparts, List.flatMap_append, List.count_append, hlast, List.flatMap_map]
    simp only [Nat.add_eq_right, List.count_eq_zero, List.mem_flatMap, not_exists, not_and,
      dot_mem_splitOnP_stuffDot]

/-- A dot between two carriage returns ends the mail for a server that takes either of them for the
end of a line. What stands behind it is a command there. -/
theorem return_ends_mail :
    let message := "hello\r.\rQUIT".toList
    ¬ReturnsFollowed (encodeBody message) ∧
      breakParts (encodeBody message) = [message, ['.'], []] ∧
      looseLines isBreak (encodeBody message) =
        ["hello".toList, ['.'], "QUIT".toList, ['.'], []] := by
  intro message
  have hlines : textLines message = [message] := by
    rw [← bodyLines_eq]
    decide +kernel
  have hparts : breakParts (encodeBody message) = [message, ['.'], []] := by
    rw [breakParts_encodeBody, hlines]
    rfl
  refine ⟨fun h => absurd (h "hello".toList _ rfl) (by decide +kernel), hparts, ?_⟩
  rw [looseLines, hparts]
  decide +kernel

end AlertRelay.Smtp
