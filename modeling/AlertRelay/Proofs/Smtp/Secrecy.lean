import AlertRelay.Proofs.Smtp.Dialog
import AlertRelay.Proofs.Text.Base64
import Mathlib.Data.List.Forall2

/-!
# What a mail session tells of the password

A session gets as far as the replies of the server let it, and what is wrong with a reply is told by
the reply. So sessions that differ only in what they send take the same course
(`converse_interchangeable`). The password is sent in one command and used nowhere else: two
sessions with different passwords end alike and send the same, but for the token in that command
(`password_hidden`).
-/

namespace AlertRelay.Smtp

/-- Two exchanges differ at most in what is sent. -/
structure Exchange.Interchangeable (e e' : Exchange) : Prop where
  stage : e.stage = e'.stage
  accepted : e.accepted = e'.accepted

/-- Two sessions with these exchanges end alike, with equally many of the exchanges. -/
structure EndAlike (steps steps' : List Exchange) (r r' : SessionReport) : Prop where
  result : r.result = r'.result
  farewellFault : r.farewellFault = r'.farewellFault
  sent : ∃ n, r.sent = ((steps ++ [farewell]).take n).flatMap Exchange.text ∧
    r'.sent = ((steps' ++ [farewell]).take n).flatMap Exchange.text

/-- Another exchange in front. -/
theorem EndAlike.cons {steps steps' : List Exchange} {r r' : SessionReport}
    (h : EndAlike steps steps' r r') (e e' : Exchange) :
    EndAlike (e :: steps) (e' :: steps') (r.afterSending e.text) (r'.afterSending e'.text) where
  result := h.result
  farewellFault := h.farewellFault
  sent := by
    obtain ⟨n, hsent, hsent'⟩ := h.sent
    refine ⟨n + 1, ?_, ?_⟩
    · rw [List.cons_append, List.take_succ_cons, List.flatMap_cons, ← hsent]
      rfl
    · rw [List.cons_append, List.take_succ_cons, List.flatMap_cons, ← hsent']
      rfl

/-- The replies of the server alone decide how far a session gets and how it ends. -/
theorem converse_interchangeable {steps steps' : List Exchange}
    (h : List.Forall₂ Exchange.Interchangeable steps steps') (lines : List (List UInt8)) :
    EndAlike steps steps' (converse steps lines) (converse steps' lines) := by
  induction h generalizing lines with
  | nil => exact ⟨rfl, rfl, 1, rfl, rfl⟩
  | @cons e e' steps steps' he hsteps ih =>
    rw [converse, converse, ← he.stage, ← he.accepted]
    cases expectReply e.stage e.accepted lines with
    | ok rest => exact (ih rest).cons e e'
    | error fault =>
      have hstop : EndAlike steps steps' { result := .error fault } { result := .error fault } :=
        ⟨rfl, rfl, 0, rfl, rfl⟩
      exact hstop.cons e e'

/-- The configuration with these credentials. -/
def withCredentials (c : EmailConfig) (username password : String) : EmailConfig :=
  { c with credentials := some ⟨username, password⟩ }

/-- How a client introduces itself. -/
def hello (c : EmailConfig) : String :=
  "HELO " ++ c.clientIdentity ++ "\r\n"

/-- The command that proves who the client is. -/
def authCommand (token : String) : String :=
  "AUTH PLAIN " ++ token ++ "\r\n"

/-- The credentials are in the third step of a session and nowhere else. -/
theorem exists_script_withCredentials (c : EmailConfig) (message : String) :
    ∃ rest, ∀ username password, script (withCredentials c username password) message =
      ⟨.greeting, [], [220]⟩ :: ⟨.helo, (hello c).toList, [250]⟩ ::
        ⟨.auth, (authCommand (authToken ⟨username, password⟩)).toList, [235]⟩ :: rest :=
  ⟨(script { c with credentials := none } message).drop 2, fun _ _ => rfl⟩

/-- Two sessions that differ in the password take the same course. -/
theorem endAlike_withCredentials (c : EmailConfig) (username p q message : String)
    (lines : List (List UInt8)) :
    EndAlike (script (withCredentials c username p) message)
      (script (withCredentials c username q) message)
      (converse (script (withCredentials c username p) message) lines)
      (converse (script (withCredentials c username q) message) lines) := by
  obtain ⟨rest, hscript⟩ := exists_script_withCredentials c message
  apply converse_interchangeable
  rw [hscript, hscript]
  refine .cons ⟨rfl, rfl⟩ (.cons ⟨rfl, rfl⟩ (.cons ⟨rfl, rfl⟩ ?_))
  exact List.forall₂_same.2 fun e _ => ⟨rfl, rfl⟩

/-- What they send is the same, but for the token. -/
theorem EndAlike.sent_withCredentials {c : EmailConfig} {username p q message : String}
    {r r' : SessionReport}
    (h : EndAlike (script (withCredentials c username p) message)
      (script (withCredentials c username q) message) r r') :
    (∃ sent ∈ [[], (hello c).toList], r.sent = sent ∧ r'.sent = sent) ∨
      ∃ rest,
        r.sent = (hello c ++ authCommand (authToken ⟨username, p⟩)).toList ++ rest ∧
        r'.sent = (hello c ++ authCommand (authToken ⟨username, q⟩)).toList ++ rest := by
  obtain ⟨rest, hscript⟩ := exists_script_withCredentials c message
  obtain ⟨n, hsent, hsent'⟩ := h.sent
  rw [hsent, hsent', hscript, hscript]
  -- The command with the password is the third thing that is written.
  match n with
  | 0 => exact .inl ⟨[], by simp, rfl, rfl⟩
  | 1 => exact .inl ⟨[], by simp, rfl, rfl⟩
  | 2 => exact .inl ⟨(hello c).toList, by simp, by simp, by simp⟩
  | n + 3 =>
    refine .inr ⟨((rest ++ [farewell]).take n).flatMap Exchange.text, ?_, ?_⟩
    · simp
    · simp

/-- The token is the one form of name and password. -/
theorem isForm_iff_authToken (username password : String) (text : List Char) :
    Base64.IsForm (Utf8.encode ('\x00' :: (username.toList ++ '\x00' :: password.toList))) text ↔
      text = (authToken ⟨username, password⟩).toList := by
  change _ ↔ text = (String.ofList _).toList
  rw [Base64.isForm_iff, String.toList_ofList]

/-- Whatever a server does, two sessions that differ in the password have the same result and find
the same fault with the farewell. What they send is the same up to the password if they do not come
to it; otherwise it is the same in front of it and behind it. In place of the password stands the
Base64 form of name and password, each behind a zero. -/
theorem password_hidden (limit : Span) (c : EmailConfig) (username p q message : String)
    (server : Server) :
    let session (password : String) :=
      sendMail limit (withCredentials c username password) message server
    let token (password : String) := authToken ⟨username, password⟩
    (session p).result = (session q).result ∧
    (session p).farewellFault = (session q).farewellFault ∧
    ((∃ sent ∈ [[], (hello c).toList], (session p).sent = sent ∧ (session q).sent = sent) ∨
      ∃ rest, (session p).sent = (hello c ++ authCommand (token p)).toList ++ rest ∧
        (session q).sent = (hello c ++ authCommand (token q)).toList ++ rest) ∧
    ∀ text, Base64.IsForm
      (Utf8.encode ('\x00' :: (username.toList ++ '\x00' :: p.toList))) text ↔
        text = (token p).toList := by
  intro session token
  have hform := isForm_iff_authToken username p
  cases server with
  | unreachable reason => exact ⟨rfl, rfl, .inl ⟨[], List.mem_cons_self, rfl, rfl⟩, hform⟩
  | silent => exact ⟨rfl, rfl, .inl ⟨[], List.mem_cons_self, rfl, rfl⟩, hform⟩
  | sends bytes =>
    have hsession : ∀ password, session password =
        converse (script (withCredentials c username password) message) (Text.byteLines bytes) :=
      fun password => runSession_eq _ message _
    have halike := endAlike_withCredentials c username p q message (Text.byteLines bytes)
    rw [hsession, hsession]
    exact ⟨halike.result, halike.farewellFault, halike.sent_withCredentials, hform⟩

end AlertRelay.Smtp
