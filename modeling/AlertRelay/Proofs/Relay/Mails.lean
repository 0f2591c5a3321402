import AlertRelay.Proofs.Config
import AlertRelay.Proofs.Lane.Run
import AlertRelay.Proofs.Smtp.Commands
import AlertRelay.Proofs.Smtp.Receiver
import AlertRelay.Render.Mail

/-!
# Texts of the configuration in mails

The identity of the client, the sender and the recipients stand in commands of a mail session, and
the sender, the recipients and the name of the application in the header of the mail. All of them
come from the environment. A list of recipients is cut and trimmed, but the other texts are taken as
they are, and a line break in one of them breaks the line in which it stands.
`AppConfig.mails_framed_iff` says which environments are safe from this: exactly those without a
break in one of the texts that stand in commands and without a line feed in one of those that stand
in the header. A sender with a line feed at its end is accepted, and is not safe
(`AppConfig.sender_breaks_out`).
-/

namespace AlertRelay

/-- A character that is not in the separator is in the whole only if it is in a part. -/
theorem Text.not_mem_intercalate {c : Char} {separator : List Char} (h : c ∉ separator)
    (parts : List (List Char)) :
    c ∉ separator.intercalate parts ↔ ∀ part ∈ parts, c ∉ part := by
  induction parts with
  | nil => simp [List.intercalate]
  | cons part parts ih =>
    cases parts with
    | nil => simp
    | cons next parts =>
      rw [List.intercalate_cons_cons, List.forall_mem_cons, ← ih]
      simp [h]

namespace Smtp

/-! ### Lines of a message -/

theorem dropFinalBreak_append {front rest : List Char} (hrest : rest ≠ []) :
    dropFinalBreak (front ++ rest) = front ++ dropFinalBreak rest := by
  obtain ⟨d, rest, rfl⟩ := List.exists_cons_of_ne_nil hrest
  induction front with
  | nil => rfl
  | cons c front ih =>
    have hmore : front ++ d :: rest ≠ [] := by simp
    rw [List.cons_append, List.cons_append, ← ih, dropFinalBreak]
    intro _ hnil
    exact hmore hnil

theorem splitChars_line {line : List Char} (hline : '\n' ∉ line) (rest : List Char) :
    Text.splitChars '\n' (line ++ '\n' :: rest) = line :: Text.splitChars '\n' rest := by
  rw [Text.splitChars_append_cons, Text.splitChars_of_not_mem hline]
  rfl

theorem unifyBreaks_ne_nil {cs : List Char} (h : cs ≠ []) : unifyBreaks cs ≠ [] := by
  obtain ⟨c, rest, rfl⟩ := List.exists_cons_of_ne_nil h
  unfold unifyBreaks
  split <;> simp_all

/-- The first line of a message that goes on behind it. -/
theorem textLines_line {line rest : List Char} (hline : '\n' ∉ line) (hrest : rest ≠ []) :
    textLines (line ++ crlf ++ rest) = line :: textLines rest := by
  have hbroken : unifyBreaks (line ++ crlf ++ rest) = line ++ '\n' :: unifyBreaks rest := by
    rw [List.append_assoc]
    exact unifyBreaks_of_eq_some (cutLine?_line hline rest)
  rw [← bodyLines_eq, ← bodyLines_eq, bodyLines, bodyLines, hbroken]
  rw [← List.singleton_append, ← List.append_assoc, dropFinalBreak_append (unifyBreaks_ne_nil hrest),
    List.append_assoc, List.singleton_append, splitChars_line hline]

/-- An empty line. -/
theorem textLines_crlf {rest : List Char} (hrest : rest ≠ []) :
    textLines (crlf ++ rest) = [] :: textLines rest :=
  textLines_line (List.not_mem_nil) hrest

/-- A line feed ends a line as well. -/
theorem textLines_lineFeed {line rest : List Char} (hline : ∀ c ∈ line, isBreak c = false)
    (hrest : rest ≠ []) : textLines (line ++ '\n' :: rest) = line :: textLines rest := by
  have hbreaks : '\n' ∉ line ∧ '\r' ∉ line := by
    constructor <;> intro hmem <;> exact absurd (hline _ hmem) (by decide)
  have hunified : unifyBreaks (line ++ '\n' :: rest) = line ++ '\n' :: unifyBreaks rest := by
    clear hline
    induction line with
    | nil => rfl
    | cons c line ih =>
      simp only [List.mem_cons, not_or] at hbreaks
      rw [List.cons_append, unifyBreaks.eq_3 c _ fun _ hc => absurd hc.symm hbreaks.2.1,
        ih ⟨hbreaks.1.2, hbreaks.2.2⟩]
      rfl
  rw [← bodyLines_eq, ← bodyLines_eq, bodyLines, bodyLines, hunified]
  rw [← List.singleton_append, ← List.append_assoc, dropFinalBreak_append (unifyBreaks_ne_nil hrest),
    List.append_assoc, List.singleton_append, splitChars_line hbreaks.1]

/-- The lines of a message come out as they went in. -/
theorem receive_textLines (message behind : List Char) :
    receive (encodeBody message ++ behind) = some (textLines message, behind) := by
  have hlines : ∀ line ∈ textLines message, '\n' ∉ line := fun _ => not_mem_of_mem_textLines
  rw [encodeBody_eq]
  exact receive_lines hlines behind

end Smtp

/-! ### Headers -/

namespace Mail

/-- The lines that the header is meant to have. -/
def headerLines (r : EventRecord) (sender : String) (recipients : List String) (appName : String) :
    List String :=
  ["To: " ++ ", ".intercalate recipients, "From: " ++ sender,
    "Subject: " ++ messageTitle appName r]

variable {r : EventRecord} {sender appName : String} {recipients : List String}

/-- A mail, line by line down to its body. -/
theorem toList_message (r : EventRecord) (sender : String) (recipients : List String)
    (branding : Branding) (now : LocalTime) :
    (message r sender recipients branding now).toList =
      ("To: " ++ ", ".intercalate recipients).toList ++ Smtp.crlf ++
        (("From: " ++ sender).toList ++ Smtp.crlf ++
          (("Subject: " ++ messageTitle branding.appName r).toList ++ Smtp.crlf ++
            (Smtp.crlf ++ ((body r branding now).toList ++ Smtp.crlf)))) := by
  have hbreak : "\r\n".toList = Smtp.crlf := by decide
  have hfrom : "\r\nFrom: ".toList = Smtp.crlf ++ "From: ".toList := by decide
  have hsubject : "\r\nSubject: ".toList = Smtp.crlf ++ "Subject: ".toList := by decide
  change ("To: " ++ ", ".intercalate recipients ++ "\r\nFrom: " ++ sender ++ "\r\nSubject: " ++
    messageTitle branding.appName r ++ "\r\n" ++ "\r\n" ++ body r branding now ++ "\r\n").toList = _
  simp only [String.toList_append, hbreak, hfrom, hsubject, List.append_assoc]

/-- No line feed comes from the words of an action. -/
theorem not_mem_messageTitle (appName : String) (r : EventRecord) :
    '\n' ∉ (messageTitle appName r).toList ↔ '\n' ∉ appName.toList := by
  have hphase : ∀ p : Phase, '\n' ∉ p.text.toList := by
    intro p
    cases p <;> decide +kernel
  have haction : ∀ a : Action, '\n' ∉ a.text.toList := by
    intro a
    cases a <;> decide +kernel
  have hsplit : messageTitle appName r =
      appName ++ (": [" ++ r.action.phase.text ++ "] " ++ r.action.text) := by
    change appName ++ ": [" ++ r.action.phase.text ++ "] " ++ r.action.text = _
    simp only [String.append_assoc]
  rw [hsplit]
  simp only [String.toList_append, List.mem_append, hphase, haction, or_false, not_or]
  exact and_iff_left (by decide)

/-- No line feed stands in the lines of the header exactly if there is none in the texts in it. -/
theorem headerLines_unbroken_iff :
    (∀ line ∈ headerLines r sender recipients appName, '\n' ∉ line.toList) ↔
      (∀ a ∈ recipients, '\n' ∉ a.toList) ∧ '\n' ∉ sender.toList ∧ '\n' ∉ appName.toList := by
  have hto : '\n' ∉ "To: ".toList := by decide
  have hfrom : '\n' ∉ "From: ".toList := by decide
  have hsubject : '\n' ∉ "Subject: ".toList := by decide
  have hcomma : '\n' ∉ ", ".toList := by decide
  simp only [headerLines, List.forall_mem_cons, String.toList_append, List.mem_append, not_or, hto,
    hfrom, hsubject, not_false_eq_true, true_and, not_mem_messageTitle,
    String.toList_intercalate, Text.not_mem_intercalate hcomma, List.forall_mem_map]
  exact and_congr_right fun _ => and_congr_right fun _ => and_iff_left nofun

/-- A server sees the header as it is meant, and an empty line behind it, exactly if no text in the
header has a line feed. -/
theorem textLines_message_iff (branding : Branding) (now : LocalTime) :
    (∃ rest, Smtp.textLines (message r sender recipients branding now).toList =
        (headerLines r sender recipients branding.appName).map String.toList ++ [] :: rest) ↔
      (∀ a ∈ recipients, '\n' ∉ a.toList) ∧ '\n' ∉ sender.toList ∧
        '\n' ∉ branding.appName.toList := by
  rw [← headerLines_unbroken_iff (r := r)]
  constructor
  · -- What a server takes for a line has no line feed in it.
    rintro ⟨rest, hseen⟩ line hline
    have hmem : line.toList ∈ Smtp.textLines (message r sender recipients branding now).toList := by
      rw [hseen]
      exact List.mem_append_left _ (List.mem_map_of_mem hline)
    exact Smtp.not_mem_of_mem_textLines hmem
  · intro hlines
    simp only [headerLines, List.forall_mem_cons] at hlines
    obtain ⟨hto, hfrom, hsubject, -⟩ := hlines
    refine ⟨Smtp.textLines ((body r branding now).toList ++ Smtp.crlf), ?_⟩
    rw [toList_message, Smtp.textLines_line hto (by simp [Smtp.crlf]),
      Smtp.textLines_line hfrom (by simp [Smtp.crlf]),
      Smtp.textLines_line hsubject (by simp [Smtp.crlf]), Smtp.textLines_crlf (by simp [Smtp.crlf])]
    rfl

end Mail

/-! ### Configurations -/

namespace EmailConfig

variable {env : Environment} {c : EmailConfig}

/-- Where the texts of a configuration come from. -/
theorem eq_of_fromEnvironment (h : EmailConfig.fromEnvironment env = .ok (some c)) :
    c.clientIdentity = (env.get? "EMAIL_CLIENT_IDENTITY").getD "tripwire" ∧
      env.get? "EMAIL_SENDER" = some c.sender ∧
      c.recipients = readRecipients ((env.get? "EMAIL_RECIPIENTS").getD "") := by
  unfold EmailConfig.fromEnvironment at h
  split at h
  · cases h
  split at h
  · cases h
  rename_i sender hsender
  dsimp only at h
  split at h
  · cases h
  · obtain ⟨credentials, -, h⟩ := exists_ok_of_bind h
    obtain ⟨port, -, h⟩ := exists_ok_of_bind h
    obtain ⟨rateLimit, -, h⟩ := exists_ok_of_bind h
    obtain ⟨retries, -, h⟩ := exists_ok_of_bind h
    obtain ⟨retryDelay, -, h⟩ := exists_ok_of_bind h
    cases h
    exact ⟨rfl, (Option.filter_eq_some_iff.1 hsender).1, rfl⟩

end EmailConfig

namespace Environment

/-- No text that stands in a command of a mail session has a break in it. -/
structure KeepsCommands (env : Environment) : Prop where
  identity : ∀ s, env.get? "EMAIL_CLIENT_IDENTITY" = some s → Smtp.Unbroken s
  sender : ∀ s, env.get? "EMAIL_SENDER" = some s → Smtp.Unbroken s
  recipients : ∀ a ∈ readRecipients ((env.get? "EMAIL_RECIPIENTS").getD ""), Smtp.Unbroken a

/-- No text that stands in the header of a mail has a line feed in it. -/
structure KeepsHeader (env : Environment) : Prop where
  recipients : ∀ a ∈ readRecipients ((env.get? "EMAIL_RECIPIENTS").getD ""), '\n' ∉ a.toList
  sender : ∀ s, env.get? "EMAIL_SENDER" = some s → '\n' ∉ s.toList
  appName : ∀ s, env.get? "TRIPWIRE_APP_NAME" = some s → '\n' ∉ s.toList

variable {env : Environment} {c : EmailConfig}

theorem keepsCommands_iff (h : EmailConfig.fromEnvironment env = .ok (some c)) :
    env.KeepsCommands ↔ Smtp.Unbroken c.clientIdentity ∧ Smtp.Unbroken c.sender ∧
      ∀ a ∈ c.recipients, Smtp.Unbroken a := by
  obtain ⟨hidentity, hsender, hrecipients⟩ := EmailConfig.eq_of_fromEnvironment h
  constructor
  · intro henv
    refine ⟨?_, henv.sender _ hsender, ?_⟩
    · rw [hidentity]
      cases hkey : env.get? "EMAIL_CLIENT_IDENTITY" with
      | none => decide
      | some s => exact henv.identity s hkey
    · rw [hrecipients]
      exact henv.recipients
  · rintro ⟨hi, hs, hr⟩
    refine ⟨fun s hkey => ?_, fun s hkey => ?_, ?_⟩
    · rwa [hidentity, hkey] at hi
    · rw [hsender] at hkey
      cases hkey
      exact hs
    · rwa [hrecipients] at hr

theorem keepsHeader_iff (h : EmailConfig.fromEnvironment env = .ok (some c)) :
    env.KeepsHeader ↔ (∀ a ∈ c.recipients, '\n' ∉ a.toList) ∧ '\n' ∉ c.sender.toList ∧
      '\n' ∉ ((env.get? "TRIPWIRE_APP_NAME").getD "tripwire").toList := by
  obtain ⟨-, hsender, hrecipients⟩ := EmailConfig.eq_of_fromEnvironment h
  constructor
  · intro henv
    refine ⟨?_, henv.sender _ hsender, ?_⟩
    · rw [hrecipients]
      exact henv.recipients
    · cases hkey : env.get? "TRIPWIRE_APP_NAME" with
      | none => decide
      | some s => exact henv.appName s hkey
  · rintro ⟨hr, hs, hn⟩
    refine ⟨?_, fun s hkey => ?_, fun s hkey => ?_⟩
    · rwa [hrecipients] at hr
    · rw [hsender] at hkey
      cases hkey
      exact hs
    · rwa [hkey] at hn

end Environment

/-- The mail about a record that a configuration makes. -/
def AppConfig.mailOf (config : AppConfig) (c : EmailConfig) (r : EventRecord) (clock : LocalTime) :
    String :=
  Mail.message r c.sender c.recipients ⟨config.appName, config.appUrl⟩ clock

/-- Each command of every mail session is one line exactly if the environment has no break in the
texts that stand in commands, and the server that takes the mail sees the three lines of its header,
and an empty line behind them, exactly if the environment has no line feed in the texts that stand
in the header. -/
theorem AppConfig.mails_framed_iff {env : Environment} {config : AppConfig} {c : EmailConfig}
    (h : fromEnvironment env = .ok config) (hc : config.email = some c) (r : EventRecord)
    (clock : LocalTime) :
    (Smtp.IsolatesCommands c (config.mailOf c r clock) ↔ env.KeepsCommands) ∧
      ((∀ behind, ∃ rest, Smtp.receive (Smtp.encodeBody (config.mailOf c r clock).toList ++ behind) =
          some ((Mail.headerLines r c.sender c.recipients config.appName).map String.toList ++
            [] :: rest, behind)) ↔ env.KeepsHeader) := by
  obtain ⟨notify, -, h⟩ := exists_ok_of_bind h
  obtain ⟨teams, -, h⟩ := exists_ok_of_bind h
  obtain ⟨email, hemail, h⟩ := exists_ok_of_bind h
  obtain ⟨logFormat, -, h⟩ := exists_ok_of_bind h
  cases h
  obtain rfl : email = some c := hc
  refine ⟨?_, ?_⟩
  · rw [Smtp.isolatesCommands_iff, Environment.keepsCommands_iff hemail]
  · rw [Environment.keepsHeader_iff hemail, ← Mail.textLines_message_iff (r := r) ⟨_, _⟩ clock]
    constructor
    · intro hreceived
      obtain ⟨rest, hreceived⟩ := hreceived []
      rw [Smtp.receive_textLines] at hreceived
      exact ⟨rest, congrArg Prod.fst (Option.some.inj hreceived)⟩
    · rintro ⟨rest, hlines⟩ behind
      refine ⟨rest, ?_⟩
      rw [Smtp.receive_textLines, ← hlines]
      rfl

namespace Sample

/-- The way to send mails in the usual configuration. -/
def email : EmailConfig :=
  ⟨"mail.example", 25, "tripwire", "relay@example", ["desk@example"], none,
    ⟨Span.ofSeconds 3, Span.ofSeconds 30, 2, Span.ofSeconds 2⟩⟩

/-- An environment in which the sender has a line feed at its end. -/
def brokenEnvironment : Environment :=
  [("EMAIL_SERVER", "mail.example"), ("EMAIL_SENDER", "relay@example\n"),
    ("EMAIL_RECIPIENTS", "desk@example")]

/-- What is read from it. -/
def brokenConfig : AppConfig where
  appName := "tripwire"
  appUrl := "https://example.invalid/tripwire"
  logFormat := .json
  notify := {}
  teams := none
  email := some { email with sender := "relay@example\n" }

theorem brokenConfig_eq : AppConfig.fromEnvironment brokenEnvironment = .ok brokenConfig :=
  eq_ok_of_toOption (by decide +kernel)

end Sample

/-- Commands and header are as they should be in an environment with the usual texts. -/
theorem AppConfig.sample_framed :
    let mail := Sample.config.mailOf Sample.email Sample.record (.utc "12:00")
    fromEnvironment Sample.environment = .ok Sample.config ∧
      Sample.config.email = some Sample.email ∧ Smtp.IsolatesCommands Sample.email mail ∧
      ∃ rest, Smtp.receive (Smtp.encodeBody mail.toList ++ "QUIT\r\n".toList) =
        some (["To: desk@example".toList, "From: relay@example".toList,
          "Subject: tripwire: [step 2 of 3] Disable user account request received".toList] ++
            [] :: rest, "QUIT\r\n".toList) := by
  have hmails := mails_framed_iff Sample.config_eq (c := Sample.email) rfl Sample.record (.utc "12:00")
  refine ⟨Sample.config_eq, rfl, hmails.1.2 ?_, hmails.2.2 ?_ "QUIT\r\n".toList⟩
  · exact
      { identity := fun s hs => nomatch hs
        sender := by
          rintro s ⟨⟩
          decide
        recipients := by decide +kernel }
  · exact
      { recipients := by decide +kernel
        sender := by
          rintro s ⟨⟩
          decide
        appName := fun s hs => nomatch hs }

/-- A sender with a line feed at its end is accepted, but the command that names it is no line, and
the header of the mail ends behind it, so that the subject is taken for text. -/
theorem AppConfig.sender_breaks_out :
    let c : EmailConfig := { Sample.email with sender := "relay@example\n" }
    let mail := Sample.brokenConfig.mailOf c Sample.record (.utc "12:00")
    fromEnvironment Sample.brokenEnvironment = .ok Sample.brokenConfig ∧
      Sample.brokenConfig.email = some c ∧ ¬Smtp.IsolatesCommands c mail ∧
      ∃ rest, Smtp.receive (Smtp.encodeBody mail.toList ++ []) =
        some (["To: desk@example".toList, "From: relay@example".toList] ++ [] ::
          ("Subject: " ++ messageTitle "tripwire" Sample.record).toList :: rest, []) := by
  intro c mail
  refine ⟨Sample.brokenConfig_eq, rfl, ?_, ?_⟩
  · rw [Smtp.isolatesCommands_iff]
    rintro ⟨-, hsender, -⟩
    exact absurd hsender (by decide)
  · have hto : ("To: " ++ ", ".intercalate ["desk@example"]).toList = "To: desk@example".toList := by
      decide
    have hfrom : ("From: " ++ "relay@example\n").toList =
        "From: relay@example".toList ++ '\n' :: [] := by decide
    have hunbroken : Smtp.Unbroken "From: relay@example" := by decide
    have hsubject : '\n' ∉ ("Subject: " ++ messageTitle "tripwire" Sample.record).toList := by
      rw [String.toList_append, List.mem_append, not_or, Mail.not_mem_messageTitle]
      decide
    have hmail : mail.toList = (Mail.message Sample.record "relay@example\n" ["desk@example"]
      ⟨"tripwire", "https://example.invalid/tripwire"⟩ (.utc "12:00")).toList := rfl
    rw [Smtp.receive_textLines, hmail, Mail.toList_message, hto, hfrom,
      Smtp.textLines_line (by decide) (by simp [Smtp.crlf]), List.append_assoc, List.append_assoc,
      List.cons_append, List.nil_append, Smtp.textLines_lineFeed hunbroken (by simp [Smtp.crlf]),
      Smtp.textLines_crlf (by simp [Smtp.crlf]),
      Smtp.textLines_line hsubject (by simp [Smtp.crlf])]
    exact ⟨_, rfl⟩

end AlertRelay
