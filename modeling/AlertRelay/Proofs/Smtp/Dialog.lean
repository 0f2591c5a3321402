import AlertRelay.Proofs.Smtp.Replies

/-!
# The course of a mail session

What a server sends is a sequence of replies on the wire, the first one for its greeting and one for
each step after it. `CodeAt` finds the code of a reply among the lines, and knows nothing of how a
client reads them; a step is accepted if the code of its reply is one of those that it expects.
Replies as a server writes them have the codes that it wrote (`meets_replies`).

`exists_course` says how far a session gets, whatever a server sends: the steps that are written are
those up to the first one that is not accepted, an error names this step, and the message counts as
delivered exactly if there is no such step. Nothing is written before everything in front of it was
accepted, so that a message is never sent unless the server has taken every recipient.
-/

namespace AlertRelay.Smtp

variable {lines left : List (List UInt8)} {reply : Reply} {code i : Nat} {e : Exchange}

/-! ### Replies one after the other -/

/-- The reply number `i` in these lines has this code. -/
inductive CodeAt : List (List UInt8) → Nat → Nat → Prop
  | first {code before last} (left : List (List UInt8)) :
    IsReply code before last → CodeAt (before ++ last :: left) 0 code
  | behind {n code before last left i} :
    IsReply n before last → CodeAt left i code → CodeAt (before ++ last :: left) (i + 1) code

/-- A step is accepted at number `i` if the reply with this number has one of the codes that it
expects. -/
def Exchange.Accepts (e : Exchange) (lines : List (List UInt8)) (i : Nat) : Prop :=
  ∃ code ∈ e.accepted, CodeAt lines i code

/-- A reply is read with its code and down to its end. -/
theorem IsReply.eq_of_readReply {before behind : List (List UInt8)} {last : List UInt8}
    (h : IsReply code before last)
    (hread : readReply (before ++ last :: behind) = .ok (reply, left)) :
    code = reply.code ∧ behind = left := by
  obtain ⟨text, hsame⟩ := h.exists_readReplyFrom [] behind
  cases hsame.symm.trans hread
  exact ⟨rfl, rfl⟩

/-- The first reply is the one that is read. -/
theorem codeAt_zero_iff (h : readReply lines = .ok (reply, left)) :
    CodeAt lines 0 code ↔ code = reply.code := by
  constructor
  · rintro (⟨_, hreply⟩ | _)
    exact (hreply.eq_of_readReply h).1
  · rintro rfl
    obtain ⟨before, last, rfl, hreply⟩ := exists_isReply_of_readReplyFrom h
    exact .first left hreply

/-- The others are in what is left. -/
theorem codeAt_succ_iff (h : readReply lines = .ok (reply, left)) :
    CodeAt lines (i + 1) code ↔ CodeAt left i code := by
  constructor
  · rintro (_ | ⟨hreply, hcode⟩)
    rwa [← (hreply.eq_of_readReply h).2]
  · intro hcode
    obtain ⟨before, last, rfl, hreply⟩ := exists_isReply_of_readReplyFrom h
    exact .behind hreply hcode

/-- Lines in which there is a reply start with one. -/
theorem CodeAt.exists_isReply (h : CodeAt lines i code) :
    ∃ n before last behind, lines = before ++ last :: behind ∧ IsReply n before last := by
  cases h with
  | first behind hreply => exact ⟨_, _, _, behind, rfl, hreply⟩
  | behind hreply => exact ⟨_, _, _, _, rfl, hreply⟩

/-- Where nothing can be read there is no reply. -/
theorem not_codeAt_of_readReply_error {fault : ReplyFault} (h : readReply lines = .error fault) :
    ¬CodeAt lines i code := by
  intro hcode
  obtain ⟨n, before, last, behind, rfl, hreply⟩ := hcode.exists_isReply
  obtain ⟨text, hread⟩ := hreply.exists_readReplyFrom [] behind
  cases h.symm.trans hread

theorem accepts_zero_iff (h : readReply lines = .ok (reply, left)) :
    e.Accepts lines 0 ↔ reply.code ∈ e.accepted := by
  simp only [Exchange.Accepts, codeAt_zero_iff h, exists_eq_right]

theorem accepts_succ_iff (h : readReply lines = .ok (reply, left)) :
    e.Accepts lines (i + 1) ↔ e.Accepts left i := by
  simp only [Exchange.Accepts, codeAt_succ_iff h]

/-! ### Replies that are read -/

/-- What a client that takes one reply after the other reads at step number `i`. Behind a reply that
cannot be read there is none. -/
def replyAt : Nat → List (List UInt8) → Except ReplyFault Reply
  | 0, lines => (readReply lines).map Prod.fst
  | i + 1, lines =>
    match readReply lines with
    | .ok (_, rest) => replyAt i rest
    | .error fault => .error fault

/-- What is wrong with a reply that is not accepted: its code and text, or why there is none. -/
def refusal : Except ReplyFault Reply → String
  | .ok reply =>
    let text := String.ofList reply.text
    s!"{reply.code} {text}"
  | .error fault => fault.message

theorem replyAt_zero (h : readReply lines = .ok (reply, left)) : replyAt 0 lines = .ok reply := by
  rw [replyAt, h]
  rfl

theorem replyAt_succ (h : readReply lines = .ok (reply, left)) (i : Nat) :
    replyAt (i + 1) lines = replyAt i left := by
  rw [replyAt, h]

/-! ### Replies as a server writes them -/

/-- A reply that a server writes on some lines: a code and the texts behind it, none of them with a
break in it. -/
structure ServerReply where
  code : Nat
  texts : List (List Char)
  last : List Char
  code_lt : code < 1000
  unbroken : ∀ text ∈ texts ++ [last], ∀ c ∈ text, isBreak c = false

def ServerReply.bytes (r : ServerReply) : List UInt8 :=
  replyBytes r.code r.texts r.last

/-- What a client reads in it. -/
def ServerReply.asRead (r : ServerReply) : Reply :=
  ⟨r.code, joinTexts (r.texts ++ [r.last])⟩

theorem ServerReply.readReply_bytes (r : ServerReply) (rest : List UInt8) :
    readReply (Text.byteLines (r.bytes ++ rest)) = .ok (r.asRead, Text.byteLines rest) := by
  have hunbroken := r.unbroken
  rw [List.forall_mem_append, List.forall_mem_singleton] at hunbroken
  exact readReplyFrom_replyBytes r.code_lt [] hunbroken.1 hunbroken.2 rest

/-- In these lines there are the given replies, and other lines behind them. A step is accepted if
the server wrote a code for it that it expects, and a refusal is told in the words of the server.
Behind what the server wrote the other lines decide. -/
structure Meets (lines : List (List UInt8)) (replies : List ServerReply)
    (left : List (List UInt8)) : Prop where
  accepts : ∀ (e : Exchange) (i : Fin replies.length),
    e.Accepts lines i ↔ replies[i].code ∈ e.accepted
  accepts_behind : ∀ (e : Exchange) (i : Nat),
    e.Accepts lines (replies.length + i) ↔ e.Accepts left i
  read : ∀ i : Fin replies.length, replyAt i lines = .ok replies[i].asRead
  read_behind : ∀ i, replyAt (replies.length + i) lines = replyAt i left

theorem Meets.cons {replies : List ServerReply} {next : List (List UInt8)} {r : ServerReply}
    (h : Meets left replies next) (hread : readReply lines = .ok (r.asRead, left)) :
    Meets lines (r :: replies) next where
  accepts := by
    intro e i
    cases i using Fin.cases with
    | zero => exact accepts_zero_iff hread
    | succ i => exact (accepts_succ_iff hread).trans (h.accepts e i)
  accepts_behind := by
    intro e i
    rw [List.length_cons, Nat.succ_add, accepts_succ_iff hread]
    exact h.accepts_behind e i
  read := by
    intro i
    cases i using Fin.cases with
    | zero => exact replyAt_zero hread
    | succ i => exact (replyAt_succ hread i).trans (h.read i)
  read_behind := by
    intro i
    rw [List.length_cons, Nat.succ_add, replyAt_succ hread]
    exact h.read_behind i

/-- What a server writes is what a client meets. -/
theorem meets_replies (replies : List ServerReply) (rest : List UInt8) :
    Meets (Text.byteLines (replies.flatMap ServerReply.bytes ++ rest)) replies
      (Text.byteLines rest) := by
  induction replies with
  | nil =>
    exact
      { accepts := fun _ i => i.elim0
        accepts_behind := fun _ i => by rw [List.length_nil, Nat.zero_add]; rfl
        read := fun i => i.elim0
        read_behind := fun i => by rw [List.length_nil, Nat.zero_add]; rfl }
  | cons r replies ih =>
    rw [List.flatMap_cons, List.append_assoc]
    exact ih.cons (r.readReply_bytes _)

/-! ### Steps -/

/-- A reply that is accepted is taken off the lines. -/
theorem expectReply_of_accepts (h : e.Accepts lines 0) :
    ∃ reply left, readReply lines = .ok (reply, left) ∧
      expectReply e.stage e.accepted lines = .ok left := by
  cases hread : readReply lines with
  | error fault =>
    obtain ⟨code, -, hcode⟩ := h
    exact absurd hcode (not_codeAt_of_readReply_error hread)
  | ok taken =>
    obtain ⟨reply, left⟩ := taken
    have hcode : reply.code ∈ e.accepted := (accepts_zero_iff hread).1 h
    exact ⟨reply, left, rfl, by simp [expectReply, hread, hcode]⟩

/-- A reply that is not accepted is an error at its stage. -/
theorem expectReply_of_not_accepts (h : ¬e.Accepts lines 0) :
    expectReply e.stage e.accepted lines =
      .error (.smtp e.stage (refusal (replyAt 0 lines))) := by
  cases hread : readReply lines with
  | error fault =>
    rw [replyAt, expectReply, hread]
    rfl
  | ok taken =>
    obtain ⟨reply, left⟩ := taken
    have hcode : reply.code ∉ e.accepted := fun hcode => h ((accepts_zero_iff hread).2 hcode)
    simp [expectReply, replyAt, hread, hcode, refusal, Except.map]

/-! ### Sessions -/

/-- The first `n` steps are accepted. -/
def AcceptsFirst (steps : List Exchange) (lines : List (List UInt8)) (n : Nat) : Prop :=
  ∀ (i : Nat) (e : Exchange), i < n → steps[i]? = some e → e.Accepts lines i

/-- What a session comes to in which the first `n` steps are accepted and no more. -/
structure Course (steps : List Exchange) (lines : List (List UInt8)) (n : Nat)
    (report : SessionReport) : Prop where
  le : n ≤ steps.length
  accepted : AcceptsFirst steps lines n
  /-- The step behind those that are accepted is the last one that is written. It is the farewell if
  all are accepted. -/
  sent : report.sent = ((steps ++ [farewell]).take (n + 1)).flatMap Exchange.text
  /-- The error names the first step that is not accepted. -/
  refused : ∀ e, steps[n]? = some e → ¬e.Accepts lines n ∧
    report.result = .error (.smtp e.stage (refusal (replyAt n lines)))
  delivered : n = steps.length → report.result = .ok ()

/-- A step that is accepted goes in front of the rest of the session. -/
theorem Course.cons {steps : List Exchange} {n : Nat} {report : SessionReport}
    (h : Course steps left n report) (hread : readReply lines = .ok (reply, left))
    (he : e.Accepts lines 0) : Course (e :: steps) lines (n + 1) (report.afterSending e.text) where
  le := Nat.succ_le_succ h.le
  sent := by
    rw [List.cons_append, List.take_succ_cons, List.flatMap_cons, ← h.sent]
    rfl
  accepted := by
    intro i e' hi he'
    cases i with
    | zero =>
      obtain rfl : e = e' := Option.some.inj he'
      exact he
    | succ i =>
      rw [accepts_succ_iff hread]
      exact h.accepted i e' (Nat.lt_of_succ_lt_succ hi) he'
  refused := by
    intro e' he'
    rw [accepts_succ_iff hread, replyAt_succ hread]
    exact h.refused e' he'
  delivered := by
    intro hn
    exact h.delivered (Nat.succ.inj hn)

/-- Every session takes such a course: it ends with the first step that is not accepted, and with
the farewell if there is none. -/
theorem exists_course_converse (steps : List Exchange) (lines : List (List UInt8)) :
    ∃ n, Course steps lines n (converse steps lines) := by
  induction steps generalizing lines with
  | nil =>
    refine ⟨0, ?_⟩
    exact
      { le := Nat.le_refl _
        sent := rfl
        accepted := fun i e hi => absurd hi (Nat.not_lt_zero i)
        refused := fun e he => nomatch he
        delivered := fun _ => rfl }
  | cons e steps ih =>
    by_cases he : e.Accepts lines 0
    · obtain ⟨reply, left, hread, hexpect⟩ := expectReply_of_accepts he
      obtain ⟨n, hcourse⟩ := ih left
      refine ⟨n + 1, ?_⟩
      rw [converse, hexpect]
      exact hcourse.cons hread he
    · refine ⟨0, ?_⟩
      rw [converse, expectReply_of_not_accepts he]
      exact
        { le := Nat.zero_le _
          sent := by
            simp [SessionReport.afterSending]
          accepted := fun i e hi => absurd hi (Nat.not_lt_zero i)
          refused := by
            intro e' he'
            obtain rfl : e = e' := Option.some.inj he'
            exact ⟨he, rfl⟩
          delivered := fun hn => nomatch hn }

/-- A session is the script, step by step. -/
theorem runSession_eq (c : EmailConfig) (message : String) (lines : List (List UInt8)) :
    runSession c message lines = converse (script c message) lines := by
  rw [script_eq, converse, runSession]
  split <;> rename_i h <;> rw [h] <;> rfl

/-- A message is delivered exactly if all steps are accepted. -/
theorem Course.result_iff {steps : List Exchange} {lines : List (List UInt8)} {n : Nat}
    {report : SessionReport} (h : Course steps lines n report) :
    report.result = .ok () ↔ AcceptsFirst steps lines steps.length := by
  constructor
  · intro hok
    have hn : n = steps.length := by
      refine Nat.le_antisymm h.le (List.getElem?_eq_none_iff.1 ?_)
      cases he : steps[n]? with
      | none => rfl
      | some e =>
        rw [(h.refused e he).2] at hok
        cases hok
    rw [← hn]
    exact h.accepted
  · intro hall
    refine h.delivered (Nat.le_antisymm h.le (Nat.le_of_not_lt fun hn => ?_))
    have he : steps[n]? = some steps[n] := List.getElem?_eq_getElem hn
    exact (h.refused steps[n] he).1 (hall n steps[n] hn he)

/-- A server sends some replies and then anything else, which is all that it sends if there are no
replies in front; it may end anywhere. The session writes the steps of the script in their order up
to the first one that is not accepted, which its error names, or all of them and the farewell. It
delivers the message exactly if every step is accepted, the one that sends the message included; the
reply to the farewell has no part in that. A step is accepted by the reply with its number and no
other one. -/
theorem exists_course (limit : Span) (c : EmailConfig) (message : String)
    (replies : List ServerReply) (rest : List UInt8) :
    let bytes := replies.flatMap ServerReply.bytes ++ rest
    let lines := Text.byteLines bytes
    let report := sendMail limit c message (.sends bytes)
    (∃ n, Course (script c message) lines n report) ∧
      (report.result = .ok () ↔
        AcceptsFirst (script c message) lines (script c message).length) ∧
      Meets lines replies (Text.byteLines rest) := by
  intro bytes lines report
  obtain ⟨n, hcourse⟩ := exists_course_converse (script c message) lines
  rw [← runSession_eq] at hcourse
  exact ⟨⟨n, hcourse⟩, hcourse.result_iff, meets_replies replies rest⟩

end AlertRelay.Smtp
