import AlertRelay.Smtp.Session
import Mathlib.Tactic.Common

/-!
# The script of a mail session

A session has a fixed sequence of steps (`script`): the server greets, the client says who it is and
may prove it, names the sender and one recipient after the other, and sends the message. It is the
sequence that a session goes through (`script_eq`), and every code that a step is accepted with has
three digits (`accepted_bounds`).
-/

namespace AlertRelay.Smtp

/-- The steps of a session: what the client writes, and the codes with which the server accepts
it. -/
def script (c : EmailConfig) (message : String) : List Exchange :=
  [⟨.greeting, [], [220]⟩,
    ⟨.helo, s!"HELO {c.clientIdentity}\r\n".toList, [250]⟩] ++
  (c.credentials.toList.map fun credentials =>
    ⟨.auth, s!"AUTH PLAIN {authToken credentials}\r\n".toList, [235]⟩) ++
  [⟨.mailFrom, s!"MAIL FROM:<{c.sender}>\r\n".toList, [250]⟩] ++
  (c.recipients.map fun recipient =>
    ⟨.rcptTo, s!"RCPT TO:<{recipient}>\r\n".toList, [250, 251]⟩) ++
  [⟨.data, "DATA\r\n".toList, [354]⟩,
    ⟨.body, encodeBody message.toList, [250]⟩]

/-- A command is sent on a line of its own. -/
theorem command_eq (stage : SmtpStage) (line : String) (accepted : List Nat) :
    command stage line accepted = ⟨stage, (line ++ "\r\n").toList, accepted⟩ := by
  rw [String.toList_append]
  rfl

/-- An address stands between angle brackets at the end of its line. -/
theorem append_path (verb address : String) :
    s!"{verb}{path address}" ++ "\r\n" = s!"{verb}<{address}>\r\n" := by
  have hend : ">" ++ "\r\n" = ">\r\n" := by decide
  change verb ++ ("<" ++ address ++ ">") ++ "\r\n" = verb ++ "<" ++ address ++ ">\r\n"
  rw [← hend]
  simp only [String.append_assoc]

/-- The client follows the script when it was greeted. -/
theorem script_eq (c : EmailConfig) (message : String) :
    script c message = ⟨.greeting, [], greetingCodes⟩ :: exchanges c message := by
  have hhelo : s!"HELO {c.clientIdentity}" ++ "\r\n" = s!"HELO {c.clientIdentity}\r\n" := rfl
  have hauth : ∀ token : String, s!"AUTH PLAIN {token}" ++ "\r\n" = s!"AUTH PLAIN {token}\r\n" :=
    fun _ => rfl
  have hmail : s!"MAIL FROM:{path c.sender}" ++ "\r\n" = s!"MAIL FROM:<{c.sender}>\r\n" :=
    append_path "MAIL FROM:" c.sender
  have hrcpt : ∀ r, s!"RCPT TO:{path r}" ++ "\r\n" = s!"RCPT TO:<{r}>\r\n" :=
    append_path "RCPT TO:"
  have hdata : "DATA" ++ "\r\n" = "DATA\r\n" := by decide
  simp only [exchanges, command_eq, hhelo, hauth, hmail, hrcpt, hdata]
  cases hcredentials : c.credentials with
  | none =>
    simp only [script, hcredentials, greetingCodes, Option.toList_none, List.map_nil,
      List.cons_append, List.nil_append]
  | some credentials =>
    simp only [script, hcredentials, greetingCodes, Option.toList_some, List.map_cons,
      List.map_nil, List.cons_append, List.nil_append]

/-- All codes that are accepted in a session have three digits. -/
theorem accepted_bounds (c : EmailConfig) (message : String) :
    ∀ e ∈ script c message ++ [farewell], ∀ code ∈ e.accepted, 100 ≤ code ∧ code < 1000 := by
  simp only [script, farewell, command, List.forall_mem_append, List.forall_mem_map,
    List.forall_mem_cons]
  simp

end AlertRelay.Smtp
