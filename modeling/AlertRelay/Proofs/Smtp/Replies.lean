import AlertRelay.Proofs.Smtp.Script
import AlertRelay.Proofs.Text.Digits
import AlertRelay.Proofs.Text.Utf8
import Mathlib.Data.List.DropRight

/-!
# Replies on the wire

The lines of a server are bytes, and a line of a reply is told by its first four of them: three
characters that make a numeral (`IsNumbered`), and a hyphen if another line follows (`Continues`).
`exists_read_iff` says that a line is read exactly if it is text and starts like this, with digits
or with a plus sign and two digits. A code of three digits that is looked for can only be met in
its digits (`isNumbered_iff_announces`).

Lines are a reply (`IsReply`) if they are numbered and all but the last one are continued, and
nothing else is read as one. `replies_framed` is what keeps a session in step. A reply is read back
as a server writes it, down to the break of its last line and no further. A reply in a session is
accepted exactly if the first line without a hyphen starts with the digits of an accepted code and
every line before it with a numeral; nothing behind that line is touched.
-/

namespace AlertRelay.Smtp

/-! ### Lines -/

/-- The byte behind the code of a line that another line follows. -/
def hyphen : UInt8 := 45

/-- The fourth byte of a line says that another line follows. -/
def Continues (bytes : List UInt8) : Prop :=
  bytes[3]? = some hyphen

instance (bytes : List UInt8) : Decidable (Continues bytes) :=
  inferInstanceAs (Decidable (_ = _))

/-- A line of text that starts with a numeral of three characters. -/
def IsNumbered (n : Nat) (line : List UInt8) : Prop :=
  ∃ a b c rest, Utf8.encode (a :: b :: c :: rest) = line ∧ Text.IsNumeralOf n [a, b, c]

/-- A line of text that starts with the three digits of a code. -/
def Announces (code : Nat) (line : List UInt8) : Prop :=
  ∃ rest, Utf8.encode (Text.padded 3 code ++ rest) = line

variable {code n : Nat} {a b c : Char} {cs rest : List Char} {line : List UInt8} {more : Bool}

/-- A character of a numeral is ASCII, and no part of a break. -/
theorem ascii_of_mem_numeral (h : Text.IsNumeralOf n cs) (hc : c ∈ cs) :
    c.toNat < 0x80 ∧ isBreak c = false := by
  have hchar : c = '+' ∨ Text.isDigit c = true := by
    obtain ⟨digits, rfl | rfl, -, hdigits, -⟩ := h
    · exact .inr (hdigits c hc)
    · exact (List.mem_cons.1 hc).imp_right (hdigits c)
  rcases hchar with rfl | hdigit
  · decide
  · unfold Text.isDigit at hdigit
    rw [Bool.and_eq_true, decide_eq_true_eq, decide_eq_true_eq] at hdigit
    have hmin : 48 ≤ c.toNat := hdigit.1
    have hmax : c.toNat ≤ 57 := hdigit.2
    refine ⟨by omega, ?_⟩
    rw [isBreak, Bool.or_eq_false_iff, beq_eq_false_iff_ne, beq_eq_false_iff_ne]
    constructor
    · rintro rfl
      exact absurd hmin (by decide)
    · rintro rfl
      exact absurd hmin (by decide)

theorem lt_of_numeral (h : Text.IsNumeralOf n [a, b, c]) : n < 1000 := by
  obtain ⟨digits, hsame, -, hdigits, rfl⟩ := h
  have hlt := Text.digitsValue_lt hdigits
  have hlength : digits.length ≤ 3 := by
    rcases hsame with h | h
    · rw [← h]
      exact Nat.le_refl _
    · have hlength := congrArg List.length h
      simp only [List.length_cons, List.length_nil] at hlength
      omega
  exact Nat.lt_of_lt_of_le hlt (Nat.pow_le_pow_right (by decide) hlength)

theorem isNumeralOf_padded (code : Nat) : Text.IsNumeralOf code (Text.padded 3 code) :=
  ⟨_, .inl rfl, Text.padded_ne_nil _ _, fun _ => Text.isDigit_of_mem_padded,
    Text.digitsValue_padded _ _⟩

/-- A numeral of three characters for a number with three digits is these digits. -/
theorem isNumeralOf_iff (hmin : 100 ≤ code) (hmax : code < 1000) :
    Text.IsNumeralOf code [a, b, c] ↔ [a, b, c] = Text.padded 3 code := by
  constructor
  · rintro ⟨digits, rfl | hplus, hne, hdigits, rfl⟩
    · exact (Text.padded_digitsValue hne hdigits).symm
    · -- Behind a plus sign there are two digits.
      obtain ⟨-, rfl⟩ := List.cons.inj hplus
      exact absurd (Text.digitsValue_lt hdigits) (Nat.not_lt.2 hmin)
  · intro h
    rw [h]
    exact isNumeralOf_padded code

theorem isNumbered_iff_announces (hmin : 100 ≤ code) (hmax : code < 1000) :
    IsNumbered code line ↔ Announces code line := by
  constructor
  · rintro ⟨a, b, c, rest, rfl, hnumeral⟩
    refine ⟨rest, ?_⟩
    rw [← (isNumeralOf_iff hmin hmax).1 hnumeral]
    rfl
  · rintro ⟨rest, rfl⟩
    have hlength : (Text.padded 3 code).length = 3 := Text.length_padded (by decide) hmax
    obtain ⟨a, b, c, habc⟩ := List.length_eq_three.1 hlength
    refine ⟨a, b, c, rest, ?_, (isNumeralOf_iff hmin hmax).2 habc.symm⟩
    rw [habc]
    rfl

theorem continues_encode_iff (h : Text.IsNumeralOf n [a, b, c]) :
    Continues (Utf8.encode (a :: b :: c :: rest)) ↔ rest.head? = some '-' := by
  have hascii : ∀ d ∈ [a, b, c], Utf8.encodeChar d = [UInt8.ofNat d.toNat] :=
    fun d hd => Utf8.encodeChar_of_ascii (ascii_of_mem_numeral h hd).1
  simp only [List.forall_mem_cons] at hascii
  obtain ⟨ha, hb, hc, -⟩ := hascii
  rw [Continues, Utf8.encode_cons, Utf8.encode_cons, Utf8.encode_cons, ha, hb, hc]
  change (Utf8.encode rest)[0]? = some hyphen ↔ _
  cases rest with
  | nil => simp
  | cons d rest =>
    rw [Utf8.encode_cons, List.head?_cons, Option.some_inj]
    constructor
    · intro hfirst
      obtain ⟨b, bs, hd⟩ := List.exists_cons_of_ne_nil (Utf8.encodeChar_ne_nil d)
      rw [hd] at hfirst
      obtain rfl : b = hyphen := Option.some.inj hfirst
      have hmem : hyphen ∈ Utf8.encodeChar d := by
        rw [hd]
        exact List.mem_cons_self
      exact Char.toNat_inj.1 (Utf8.toNat_eq_of_mem_encodeChar hmem (by decide))
    · rintro rfl
      rfl

/-! ### Breaks -/

theorem dropBreaks_cons (h : isBreak c = false) (cs : List Char) :
    dropBreaks (c :: cs) = c :: dropBreaks cs := by
  unfold dropBreaks
  rw [List.reverse_cons, List.dropWhile_append]
  split
  · rename_i hnil
    rw [List.isEmpty_iff.1 hnil, List.dropWhile_cons_of_neg (by rw [h]; exact Bool.false_ne_true)]
    rfl
  · rw [List.reverse_append]
    rfl

theorem dropBreaks_append_crlf (h : ∀ c ∈ cs, isBreak c = false) :
    dropBreaks (cs ++ crlf) = cs := by
  induction cs with
  | nil => rfl
  | cons c cs ih =>
    rw [List.forall_mem_cons] at h
    rw [List.cons_append, dropBreaks_cons h.1, ih h.2]

theorem dropBreaks_prefix (cs : List Char) : dropBreaks cs <+: cs :=
  List.rdropWhile_prefix isBreak cs

theorem head?_dropBreaks : (dropBreaks cs).head? = some '-' ↔ cs.head? = some '-' := by
  obtain ⟨breaks, hbreaks⟩ := dropBreaks_prefix cs
  cases hdropped : dropBreaks cs with
  | nil =>
    constructor
    · intro h
      cases h
    · intro h
      obtain ⟨rest, rfl⟩ := List.head?_eq_some_iff.1 h
      rw [dropBreaks_cons (by decide)] at hdropped
      cases hdropped
  | cons d dropped =>
    rw [hdropped] at hbreaks
    rw [← hbreaks]
    rfl

/-- Breaks are dropped behind a numeral. -/
theorem dropBreaks_numeral (h : Text.IsNumeralOf n [a, b, c]) (rest : List Char) :
    dropBreaks (a :: b :: c :: rest) = a :: b :: c :: dropBreaks rest := by
  have hbreak := fun d hd => (ascii_of_mem_numeral (c := d) h hd).2
  simp only [List.forall_mem_cons] at hbreak
  obtain ⟨ha, hb, hc, -⟩ := hbreak
  rw [dropBreaks_cons ha, dropBreaks_cons hb, dropBreaks_cons hc]

/-! ### What is read in a line -/

theorem exists_ofChars?_eq (a b c : Char) (rest : List Char) :
    ∃ text, ReplyLine.ofChars? (a :: b :: c :: rest) =
      (Text.readNumeral? codeLimit [a, b, c]).map fun code =>
        ⟨code, rest.head? == some '-', text⟩ := by
  cases rest with
  | nil => exact ⟨[], rfl⟩
  | cons d text =>
    refine ⟨if d.toNat < 0x80 then text else [], ?_⟩
    rw [ReplyLine.ofChars?, List.head?_cons]
    rfl

theorem readNumeral?_code (h : Text.IsNumeralOf n [a, b, c]) :
    Text.readNumeral? codeLimit [a, b, c] = some n :=
  Text.readNumeral?_eq_some.2
    ⟨h, Nat.le_trans (Nat.le_of_lt (lt_of_numeral h)) (by decide)⟩

theorem ofChars?_mark {mark : Char} (h : Text.IsNumeralOf n [a, b, c]) (hascii : mark.toNat < 0x80)
    (text : List Char) :
    ReplyLine.ofChars? (a :: b :: c :: mark :: text) = some ⟨n, mark == '-', text⟩ := by
  simp [ReplyLine.ofChars?, readNumeral?_code h, hascii]

theorem read_encode (cs : List Char) (r : ReplyLine) :
    ReplyLine.read (Utf8.encode cs) = .ok r ↔ ReplyLine.ofChars? (dropBreaks cs) = some r := by
  unfold ReplyLine.read
  rw [Utf8.decode_eq_ok_iff.2 rfl]
  cases hline : ReplyLine.ofChars? (dropBreaks cs) with
  | none => simp [hline]
  | some r' => simp [hline]

/-- What is read in a line of text has three characters in front. -/
theorem exists_of_ofChars? {r : ReplyLine} (h : ReplyLine.ofChars? cs = some r) :
    ∃ a b c rest, cs = a :: b :: c :: rest := by
  unfold ReplyLine.ofChars? at h
  split at h
  · exact ⟨_, _, _, _, rfl⟩
  · cases h

/-- A line is read as one of a reply exactly if it starts with a numeral, and its fourth byte says
whether another line follows. -/
theorem exists_read_iff : (∃ text, ReplyLine.read line = .ok ⟨n, more, text⟩) ↔
    IsNumbered n line ∧ (more = true ↔ Continues line) := by
  constructor
  · rintro ⟨text, h⟩
    obtain ⟨cs, rfl⟩ : ∃ cs, Utf8.encode cs = line := by
      cases hdecode : Utf8.decode line with
      | error fault =>
        rw [ReplyLine.read, hdecode] at h
        cases h
      | ok cs => exact ⟨cs, Utf8.decode_eq_ok_iff.1 hdecode⟩
    rw [read_encode] at h
    obtain ⟨a, b, c, dropped, hdropped⟩ := exists_of_ofChars? h
    obtain ⟨text', htext⟩ := exists_ofChars?_eq a b c dropped
    rw [hdropped, htext] at h
    obtain ⟨m, hm, hr⟩ := Option.map_eq_some_iff.1 h
    cases hr
    have hnumeral := (Text.readNumeral?_eq_some.1 hm).1
    obtain ⟨breaks, rfl⟩ : ∃ breaks, a :: b :: c :: dropped ++ breaks = cs :=
      hdropped ▸ dropBreaks_prefix cs
    have hrest : dropBreaks (dropped ++ breaks) = dropped := by
      have hline := hdropped.symm.trans (dropBreaks_numeral hnumeral (dropped ++ breaks))
      simpa only [List.cons.injEq, true_and] using hline.symm
    refine ⟨⟨a, b, c, _, rfl, hnumeral⟩, ?_⟩
    change _ ↔ Continues (Utf8.encode (a :: b :: c :: (dropped ++ breaks)))
    rw [continues_encode_iff hnumeral, ← head?_dropBreaks, hrest, beq_iff_eq]
  · rintro ⟨⟨a, b, c, rest, rfl, hnumeral⟩, hmore⟩
    obtain ⟨text, hread⟩ := exists_ofChars?_eq a b c (dropBreaks rest)
    have hmark : ((dropBreaks rest).head? == some '-') = more := by
      rw [Bool.eq_iff_iff, hmore, continues_encode_iff hnumeral, ← head?_dropBreaks, beq_iff_eq]
    rw [readNumeral?_code hnumeral, Option.map_some, hmark] at hread
    refine ⟨text, (read_encode _ _).2 ?_⟩
    rw [dropBreaks_numeral hnumeral, hread]

/-! ### Lines of a server -/

/-- A line of a reply as a server writes it. -/
def replyLine (code : Nat) (mark : Char) (text : List Char) : List Char :=
  Text.padded 3 code ++ mark :: text ++ crlf

/-- A reply as a server writes it: a line for each text, with a hyphen behind the code except in the
last one. -/
def replyBytes (code : Nat) (texts : List (List Char)) (last : List Char) : List UInt8 :=
  Utf8.encode (texts.flatMap (replyLine code '-') ++ replyLine code ' ' last)

theorem encode_crlf : Utf8.encode crlf = [Text.carriageReturn, Text.lineFeed] := by
  decide

/-- A line without a break in it is cut off. -/
theorem byteLines_encode_line (h : ∀ c ∈ cs, isBreak c = false) (bytes : List UInt8) :
    Text.byteLines (Utf8.encode (cs ++ crlf) ++ bytes) =
      Utf8.encode (cs ++ crlf) :: Text.byteLines bytes := by
  have hfeed : Text.lineFeed ∉ Utf8.encode cs ++ [Text.carriageReturn] := by
    intro hmem
    rcases List.mem_append.1 hmem with hmem | hmem
    · obtain ⟨c, hc, hsame⟩ := Utf8.exists_mem_of_mem_encode hmem (by decide)
      obtain rfl : c = '\n' := Char.toNat_inj.1 hsame
      exact absurd (h _ hc) (by decide)
    · exact absurd (List.mem_singleton.1 hmem) (by decide)
  have hline : Utf8.encode (cs ++ crlf) =
      Utf8.encode cs ++ [Text.carriageReturn] ++ [Text.lineFeed] := by
    rw [Utf8.encode_append, encode_crlf, List.append_assoc]
    rfl
  rw [hline, Text.byteLines_line hfeed]

variable {mark : Char} {text last : List Char} {texts : List (List Char)}

theorem not_isBreak_replyLine (hmark : isBreak mark = false)
    (htext : ∀ c ∈ text, isBreak c = false) :
    ∀ c ∈ Text.padded 3 code ++ mark :: text, isBreak c = false := by
  rw [List.forall_mem_append, List.forall_mem_cons]
  exact ⟨fun c hc => (ascii_of_mem_numeral (isNumeralOf_padded code) hc).2, hmark, htext⟩

theorem byteLines_replyLine (hmark : isBreak mark = false) (htext : ∀ c ∈ text, isBreak c = false)
    (bytes : List UInt8) : Text.byteLines (Utf8.encode (replyLine code mark text) ++ bytes) =
      Utf8.encode (replyLine code mark text) :: Text.byteLines bytes :=
  byteLines_encode_line (not_isBreak_replyLine hmark htext) bytes

theorem replyBytes_nil (code : Nat) (last : List Char) :
    replyBytes code [] last = Utf8.encode (replyLine code ' ' last) := rfl

theorem replyBytes_cons (code : Nat) (text : List Char) (texts : List (List Char))
    (last : List Char) : replyBytes code (text :: texts) last =
      Utf8.encode (replyLine code '-' text) ++ replyBytes code texts last := by
  rw [replyBytes, List.flatMap_cons, List.append_assoc, Utf8.encode_append]
  rfl

/-- A line of a server is read as it is written. -/
theorem read_replyLine (hcode : code < 1000) (hascii : mark.toNat < 0x80)
    (hmark : isBreak mark = false) (htext : ∀ c ∈ text, isBreak c = false) :
    ReplyLine.read (Utf8.encode (replyLine code mark text)) = .ok ⟨code, mark == '-', text⟩ := by
  obtain ⟨a, b, c, habc⟩ := List.length_eq_three.1 (Text.length_padded (by decide) hcode)
  have hnumeral : Text.IsNumeralOf code [a, b, c] := by
    rw [← habc]
    exact isNumeralOf_padded code
  rw [read_encode, replyLine, dropBreaks_append_crlf (not_isBreak_replyLine hmark htext), habc]
  exact ofChars?_mark hnumeral hascii text

/-! ### Replies -/

/-- A line that is not the last one leaves its text behind. -/
theorem readReplyFrom_continued (h : ReplyLine.read line = .ok ⟨n, true, text⟩)
    (lines : List (List UInt8)) :
    readReplyFrom texts (line :: lines) = readReplyFrom (texts ++ [text]) lines := by
  rw [readReplyFrom, h]
  rfl

/-- The last line gives the code. -/
theorem readReplyFrom_last (h : ReplyLine.read line = .ok ⟨n, false, text⟩)
    (lines : List (List UInt8)) :
    readReplyFrom texts (line :: lines) = .ok (⟨n, joinTexts (texts ++ [text])⟩, lines) := by
  rw [readReplyFrom, h]
  rfl

theorem readReplyFrom_error {fault : ReplyFault} (h : ReplyLine.read line = .error fault)
    (lines : List (List UInt8)) : readReplyFrom texts (line :: lines) = .error fault := by
  rw [readReplyFrom, h]
  rfl

/-- Some texts of a reply are read already, and the others are read behind them. -/
theorem readReplyFrom_replyBytes (hcode : code < 1000) (before : List (List Char))
    (htexts : ∀ text ∈ texts, ∀ c ∈ text, isBreak c = false)
    (hlast : ∀ c ∈ last, isBreak c = false) (rest : List UInt8) :
    readReplyFrom before (Text.byteLines (replyBytes code texts last ++ rest)) =
      .ok (⟨code, joinTexts (before ++ texts ++ [last])⟩, Text.byteLines rest) := by
  induction texts generalizing before with
  | nil =>
    have hread : ReplyLine.read (Utf8.encode (replyLine code ' ' last)) = .ok ⟨code, false, last⟩ :=
      read_replyLine hcode (by decide) (by decide) hlast
    rw [replyBytes_nil, byteLines_replyLine (by decide) hlast, List.append_nil]
    exact readReplyFrom_last hread _
  | cons text texts ih =>
    rw [List.forall_mem_cons] at htexts
    have hread : ReplyLine.read (Utf8.encode (replyLine code '-' text)) = .ok ⟨code, true, text⟩ :=
      read_replyLine hcode (by decide) (by decide) htexts.1
    rw [replyBytes_cons, List.append_assoc, byteLines_replyLine (by decide) htexts.1,
      readReplyFrom_continued hread, ih _ htexts.2]
    simp only [List.append_assoc, List.singleton_append]

/-- Lines of a reply: behind each of the first ones another one follows, the last one gives the
code, and all of them are numbered. -/
structure IsReply (n : Nat) (before : List (List UInt8)) (last : List UInt8) : Prop where
  continued : ∀ line ∈ before, Continues line ∧ ∃ m, IsNumbered m line
  ends : ¬Continues last
  numbered : IsNumbered n last

/-- What is read was a reply. -/
theorem exists_isReply_of_readReplyFrom {lines left : List (List UInt8)} {reply : Reply}
    (h : readReplyFrom texts lines = .ok (reply, left)) :
    ∃ before last, lines = before ++ last :: left ∧ IsReply reply.code before last := by
  induction lines generalizing texts with
  | nil => cases h
  | cons line lines ih =>
    cases hread : ReplyLine.read line with
    | error fault =>
      rw [readReplyFrom_error hread] at h
      cases h
    | ok r =>
      obtain ⟨m, more, part⟩ := r
      obtain ⟨hnumbered, hmore⟩ := exists_read_iff.1 ⟨part, hread⟩
      cases more with
      | true =>
        rw [readReplyFrom_continued hread] at h
        obtain ⟨before, last, rfl, hreply⟩ := ih h
        refine ⟨line :: before, last, rfl, ?_, hreply.ends, hreply.numbered⟩
        exact List.forall_mem_cons.2 ⟨⟨hmore.1 rfl, m, hnumbered⟩, hreply.continued⟩
      | false =>
        rw [readReplyFrom_last hread] at h
        cases h
        refine ⟨[], line, rfl, List.forall_mem_nil _, ?_, hnumbered⟩
        intro hcontinues
        exact Bool.false_ne_true (hmore.2 hcontinues)

/-- A reply is read, and what is behind it is left. -/
theorem IsReply.exists_readReplyFrom {before : List (List UInt8)} {last : List UInt8}
    (h : IsReply n before last) (texts : List (List Char)) (left : List (List UInt8)) :
    ∃ text, readReplyFrom texts (before ++ last :: left) = .ok (⟨n, text⟩, left) := by
  obtain ⟨hbefore, hends, hnumbered⟩ := h
  induction before generalizing texts with
  | nil =>
    obtain ⟨text, hread⟩ := exists_read_iff.2
      ⟨hnumbered, iff_of_false Bool.false_ne_true hends⟩
    exact ⟨_, readReplyFrom_last hread _⟩
  | cons line before ih =>
    obtain ⟨⟨hcontinues, m, hm⟩, hbefore⟩ := List.forall_mem_cons.1 hbefore
    obtain ⟨text, hread⟩ := exists_read_iff.2 ⟨hm, iff_of_true rfl hcontinues⟩
    rw [List.cons_append, readReplyFrom_continued hread]
    exact ih _ hbefore

/-! ### Replies that are expected -/

theorem expectReply_eq_ok_iff {stage : SmtpStage} {accepted : List Nat}
    {lines left : List (List UInt8)} : expectReply stage accepted lines = .ok left ↔
      ∃ code ∈ accepted, ∃ text, readReply lines = .ok (⟨code, text⟩, left) := by
  unfold expectReply
  cases hread : readReply lines with
  | error fault => simp
  | ok taken =>
    obtain ⟨⟨code, text⟩, rest⟩ := taken
    by_cases hcode : code ∈ accepted
    · simp [hcode]
    · simp [hcode]

/-- A reply is read as the server writes it, and what stands behind it is left. In a session a reply
is accepted exactly if its lines are numbered and the first one that is not continued starts with
the three digits of an accepted code, and what stands behind this line is left. -/
theorem replies_framed :
    (∀ (code : Nat) (texts : List (List Char)) (last : List Char) (rest : List UInt8),
      code < 1000 → (∀ text ∈ texts ++ [last], ∀ c ∈ text, isBreak c = false) →
      readReply (Text.byteLines (replyBytes code texts last ++ rest)) =
        .ok (⟨code, [' '].intercalate (texts ++ [last])⟩, Text.byteLines rest)) ∧
    ∀ (c : EmailConfig) (message : String), ∀ e ∈ script c message ++ [farewell],
      ∀ (bytes : List UInt8) (left : List (List UInt8)),
        expectReply e.stage e.accepted (Text.byteLines bytes) = .ok left ↔
          ∃ before last, Text.byteLines bytes = before ++ last :: left ∧
            (∀ line ∈ before, Continues line ∧ ∃ n, IsNumbered n line) ∧
            ¬Continues last ∧ ∃ code ∈ e.accepted, Announces code last := by
  constructor
  · intro code texts last rest hcode htexts
    rw [List.forall_mem_append, List.forall_mem_singleton] at htexts
    exact readReplyFrom_replyBytes hcode [] htexts.1 htexts.2 rest
  · intro c message e he bytes left
    have hannounces : ∀ code ∈ e.accepted, ∀ line, IsNumbered code line ↔ Announces code line := by
      intro code hcode line
      obtain ⟨hmin, hmax⟩ := accepted_bounds c message e he code hcode
      exact isNumbered_iff_announces hmin hmax
    rw [expectReply_eq_ok_iff]
    constructor
    · rintro ⟨code, hcode, text, hread⟩
      obtain ⟨before, last, hlines, hreply⟩ := exists_isReply_of_readReplyFrom hread
      refine ⟨before, last, hlines, hreply.continued, hreply.ends, code, hcode, ?_⟩
      exact (hannounces code hcode last).1 hreply.numbered
    · rintro ⟨before, last, hlines, hcontinued, hends, code, hcode, hlast⟩
      have hreply : IsReply code before last :=
        ⟨hcontinued, hends, (hannounces code hcode last).2 hlast⟩
      rw [hlines]
      exact ⟨code, hcode, hreply.exists_readReplyFrom [] left⟩

/-- A farewell of two lines with something behind it. -/
theorem sample_replies_framed :
    let bytes := replyBytes 221 ["bye".toList] "now".toList ++ Utf8.encode "+22-late".toList
    readReply (Text.byteLines bytes) =
        .ok (⟨221, "bye now".toList⟩, [Utf8.encode "+22-late".toList]) ∧
      expectReply farewell.stage farewell.accepted (Text.byteLines bytes) =
        .ok [Utf8.encode "+22-late".toList] := by
  have hlines : Text.byteLines (replyBytes 221 ["bye".toList] "now".toList ++
      Utf8.encode "+22-late".toList) =
      [Utf8.encode "221-bye\r\n".toList] ++ Utf8.encode "221 now\r\n".toList ::
        [Utf8.encode "+22-late".toList] := by
    decide +kernel
  refine ⟨?_, (replies_framed.2 default "" farewell (by simp) _ _).2 ⟨_, _, hlines, ?_, ?_, ?_⟩⟩
  · have hread := replies_framed.1 221 ["bye".toList] "now".toList
      (Utf8.encode "+22-late".toList) (by decide) (by simp [isBreak])
    exact hread
  · rw [List.forall_mem_singleton]
    exact ⟨by decide +kernel, 221, '2', '2', '1', "-bye\r\n".toList, by decide +kernel,
      isNumeralOf_padded 221⟩
  · decide +kernel
  · exact ⟨221, by decide, " now\r\n".toList, by decide +kernel⟩

end AlertRelay.Smtp
