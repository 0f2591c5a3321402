import AlertRelay.Proofs.Smtp.Dialog

/-!
# Commands on lines of their own

A command is read up to the first break, so that it has to be exactly one line (`IsLine`): a second
break in it would end it early and make a command of what stands behind. Most commands of a session
are words of the client and Base64, but three of them carry texts of the configuration.
`isolatesCommands_iff` says that all commands of all sessions are lines exactly if there is no break
in these texts. For the one direction a server is needed with which every step of a session is
written; it is one that nods at everything (`exists_accepts`).
-/

namespace AlertRelay

namespace Smtp

/-! ### Lines -/

/-- No character of a text could be part of a break. -/
def Unbroken (s : String) : Prop :=
  ∀ c ∈ s.toList, isBreak c = false

instance (s : String) : Decidable (Unbroken s) :=
  List.decidableBAll _ s.toList

/-- One line: its break stands at its end, and there is no part of another one. -/
def IsLine (text : List Char) : Prop :=
  ∃ line, text = line ++ crlf ∧ ∀ c ∈ line, isBreak c = false

theorem isLine_append_crlf {line : List Char} :
    IsLine (line ++ crlf) ↔ ∀ c ∈ line, isBreak c = false := by
  constructor
  · rintro ⟨other, hsame, hother⟩
    rw [List.append_cancel_right hsame]
    exact hother
  · intro hline
    exact ⟨line, rfl, hline⟩

@[simp] theorem unbroken_append {s t : String} : Unbroken (s ++ t) ↔ Unbroken s ∧ Unbroken t := by
  unfold Unbroken
  rw [String.toList_append]
  exact List.forall_mem_append

/-! ### Credentials -/

theorem isBreak_digit {n : Nat} (h : n < 64) : isBreak (Base64.digit n) = false := by
  have hall : ∀ n < 64, isBreak (Base64.digit n) = false := by decide
  exact hall n h

/-- No byte makes a break in Base64. -/
theorem isBreak_encode (bytes : List UInt8) : ∀ c ∈ Base64.encode bytes, isBreak c = false := by
  have hpad : isBreak '=' = false := by decide
  have hbyte : ∀ b : UInt8, b.toNat < 256 := fun b => b.toNat_lt
  induction bytes using Base64.encode.induct with
  | case1 =>
    intro c hc
    cases hc
  | case2 a =>
    have ha := hbyte a
    simp only [Base64.encode, List.mem_cons, List.not_mem_nil, or_false, forall_eq_or_imp,
      forall_eq]
    exact ⟨isBreak_digit (by omega), isBreak_digit (by omega), hpad, hpad⟩
  | case3 a b =>
    have ha := hbyte a
    have hb := hbyte b
    simp only [Base64.encode, List.mem_cons, List.not_mem_nil, or_false, forall_eq_or_imp,
      forall_eq]
    exact ⟨isBreak_digit (by omega), isBreak_digit (by omega), isBreak_digit (by omega), hpad⟩
  | case4 a b c rest ih =>
    have ha := hbyte a
    have hb := hbyte b
    have hc := hbyte c
    simp only [Base64.encode, List.mem_cons, forall_eq_or_imp]
    exact ⟨isBreak_digit (by omega), isBreak_digit (by omega), isBreak_digit (by omega),
      isBreak_digit (by omega), ih⟩

theorem unbroken_authToken (c : Credentials) : Unbroken (authToken c) := by
  unfold Unbroken authToken
  rw [String.toList_ofList]
  exact isBreak_encode _

/-! ### Sessions -/

/-- A step that is a command: the greeting is none, and neither is the message. -/
def Exchange.IsCommand (e : Exchange) : Prop :=
  e.stage ≠ .greeting ∧ e.stage ≠ .body

/-- Whatever a server sends, every command that a session writes is one line. -/
def IsolatesCommands (c : EmailConfig) (message : String) : Prop :=
  ∀ limit bytes, ∃ n, Course (script c message) (Text.byteLines bytes) n
      (sendMail limit c message (.sends bytes)) ∧
    ∀ e ∈ (script c message ++ [farewell]).take (n + 1), e.IsCommand → IsLine e.text

/-- A command is one line exactly if its words are unbroken. -/
theorem isLine_command_iff (stage : SmtpStage) (line : String) (accepted : List Nat)
    (hgreeting : stage ≠ .greeting) (hbody : stage ≠ .body) :
    ((command stage line accepted).IsCommand → IsLine (command stage line accepted).text) ↔
      Unbroken line := by
  have hcommand : (command stage line accepted).IsCommand := ⟨hgreeting, hbody⟩
  rw [forall_prop_of_true hcommand]
  exact isLine_append_crlf

theorem unbroken_path (verb address : String) (hverb : Unbroken verb) :
    Unbroken s!"{verb}{path address}" ↔ Unbroken address := by
  have hopen : Unbroken "<" := by decide
  have hclose : Unbroken ">" := by decide
  change Unbroken (verb ++ ("<" ++ address ++ ">")) ↔ _
  rw [unbroken_append, unbroken_append, unbroken_append, and_iff_right hverb, and_assoc,
    and_iff_right hopen, and_iff_left hclose]

/-- The commands of a session are lines exactly if the texts are unbroken that the configuration
puts into them. -/
theorem isLine_commands_iff (c : EmailConfig) (message : String) :
    (∀ e ∈ script c message ++ [farewell], e.IsCommand → IsLine e.text) ↔
      Unbroken c.clientIdentity ∧ Unbroken c.sender ∧ ∀ a ∈ c.recipients, Unbroken a := by
  have hidentity : Unbroken s!"HELO {c.clientIdentity}" ↔ Unbroken c.clientIdentity := by
    change Unbroken ("HELO " ++ c.clientIdentity) ↔ _
    rw [unbroken_append]
    exact and_iff_right (by decide)
  have htoken : ∀ credentials, Unbroken s!"AUTH PLAIN {authToken credentials}" := by
    intro credentials
    change Unbroken ("AUTH PLAIN " ++ authToken credentials)
    rw [unbroken_append]
    exact ⟨by decide, unbroken_authToken credentials⟩
  have hhelo := (isLine_command_iff .helo _ [250] nofun nofun).trans hidentity
  have hauth := fun credentials =>
    (isLine_command_iff .auth _ [235] nofun nofun).2 (htoken credentials)
  have hmail := (isLine_command_iff .mailFrom _ [250] nofun nofun).trans
    (unbroken_path "MAIL FROM:" c.sender (by decide))
  have hrcpt := fun a => (isLine_command_iff .rcptTo _ [250, 251] nofun nofun).trans
    (unbroken_path "RCPT TO:" a (by decide))
  have hdata := (isLine_command_iff .data "DATA" [354] nofun nofun).2 (by decide)
  have hquit := (isLine_command_iff .quit "QUIT" [221] nofun nofun).2 (by decide)
  have hgreeting : ¬(⟨.greeting, [], greetingCodes⟩ : Exchange).IsCommand := fun h => h.1 rfl
  have hbody : ¬(⟨.body, encodeBody message.toList, [250]⟩ : Exchange).IsCommand :=
    fun h => h.2 rfl
  rw [script_eq, exchanges, farewell]
  simp only [List.cons_append, List.append_assoc, List.nil_append, List.forall_mem_cons,
    List.forall_mem_append, List.forall_mem_map, hgreeting, hbody, false_imp_iff, true_and]
  constructor
  · rintro ⟨hh, -, hm, hr, -⟩
    exact ⟨hhelo.1 hh, hmail.1 hm, fun a ha => (hrcpt a).1 (hr a ha)⟩
  · rintro ⟨hh, hm, hr⟩
    refine ⟨hhelo.2 hh, ?_, hmail.2 hm, fun a ha => (hrcpt a).2 (hr a ha), hdata, hquit,
      List.forall_mem_nil _⟩
    intro e he
    cases hcredentials : c.credentials with
    | none =>
      rw [hcredentials] at he
      cases he
    | some credentials =>
      rw [hcredentials] at he
      rw [List.mem_singleton.1 he]
      exact hauth credentials

/-! ### A server that accepts everything -/

/-- A reply with a code and nothing behind it. -/
def nod (code : Nat) (h : code < 1000) : ServerReply where
  code := code
  texts := []
  last := []
  code_lt := h
  unbroken := by simp

/-- There is a server that accepts every step. -/
theorem exists_accepts {steps : List Exchange}
    (h : ∀ e ∈ steps, ∃ code ∈ e.accepted, code < 1000) :
    ∃ bytes, AcceptsFirst steps (Text.byteLines bytes) steps.length := by
  induction steps with
  | nil => exact ⟨[], fun i e hi => absurd hi (Nat.not_lt_zero i)⟩
  | cons first steps ih =>
    rw [List.forall_mem_cons] at h
    obtain ⟨⟨code, haccepted, hcode⟩, hsteps⟩ := h
    obtain ⟨bytes, hbytes⟩ := ih hsteps
    have hread := (nod code hcode).readReply_bytes bytes
    refine ⟨(nod code hcode).bytes ++ bytes, fun i e hi he => ?_⟩
    cases i with
    | zero =>
      obtain rfl : first = e := Option.some.inj he
      exact (accepts_zero_iff hread).2 haccepted
    | succ i => exact (accepts_succ_iff hread).2 (hbytes i e (Nat.lt_of_succ_lt_succ hi) he)

/-- There is a server with which a session comes to its farewell. -/
theorem exists_course_to_farewell (limit : Span) (c : EmailConfig) (message : String) :
    ∃ bytes, ∀ n, Course (script c message) (Text.byteLines bytes) n
      (sendMail limit c message (.sends bytes)) → n = (script c message).length := by
  have hcodes : ∀ e ∈ script c message, ∃ code ∈ e.accepted, code < 1000 := by
    simp only [script, List.forall_mem_append, List.forall_mem_map, List.forall_mem_cons]
    simp
  obtain ⟨bytes, hbytes⟩ := exists_accepts hcodes
  refine ⟨bytes, fun n hcourse => ?_⟩
  refine Nat.le_antisymm hcourse.le (Nat.le_of_not_lt fun hn => ?_)
  have he : (script c message)[n]? = some (script c message)[n] := List.getElem?_eq_getElem hn
  exact (hcourse.refused _ he).1 (hbytes n _ hn he)

/-- All commands that sessions write are lines exactly if the texts are unbroken that the
configuration puts into them. -/
theorem isolatesCommands_iff (c : EmailConfig) (message : String) :
    IsolatesCommands c message ↔
      Unbroken c.clientIdentity ∧ Unbroken c.sender ∧ ∀ a ∈ c.recipients, Unbroken a := by
  rw [← isLine_commands_iff c message]
  constructor
  · intro hisolates
    obtain ⟨bytes, hbytes⟩ := exists_course_to_farewell (Span.ofSeconds 0) c message
    obtain ⟨n, hcourse, hlines⟩ := hisolates (Span.ofSeconds 0) bytes
    rw [hbytes n hcourse] at hlines
    intro e he
    refine hlines e ?_
    rw [← List.length_singleton (a := farewell), ← List.length_append, List.take_length]
    exact he
  · intro hlines limit bytes
    obtain ⟨n, hcourse⟩ := exists_course_converse (script c message) (Text.byteLines bytes)
    rw [← runSession_eq] at hcourse
    exact ⟨n, hcourse, fun e he => hlines e (List.mem_of_mem_take he)⟩

end Smtp

end AlertRelay
