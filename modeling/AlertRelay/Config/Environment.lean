import AlertRelay.Config.Basic
import AlertRelay.Text.Digits
import AlertRelay.Text.Split

/-!
# Reading the configuration from the environment

`AppConfig.fromEnvironment` reads the variables in a fixed order and stops at the first one that is
wrong. Blank destinations count as missing, and the variables of a channel are looked at only if its
destination is given.
-/

namespace AlertRelay

/-- Named texts, each name once. -/
abbrev Environment := List (String × String)

/-- The text of a variable. -/
def Environment.get? (env : Environment) (key : String) : Option String :=
  env.lookup key

/-- The text of a variable that is not blank. -/
def Environment.getNonBlank? (env : Environment) (key : String) : Option String :=
  Text.nonBlank (env.get? key)

/-- Why a configuration is refused. -/
inductive ConfigFault where
  | config (reason : String)
  | validation (reason : String)
  /-- A variable that should hold a number of the given kind. -/
  | number (key kind : String)
  deriving DecidableEq, Repr

/-- The words for a refusal. -/
def ConfigFault.message : ConfigFault → String
  | .config reason => s!"Configuration error: {reason}"
  | .validation reason => s!"Validation error: {reason}"
  | .number key kind => s!"{key} must be a valid {kind}"

/-- The kinds of numbers among the variables. -/
inductive NumberKind where
  | size
  | word64
  | word32
  | word16
  deriving DecidableEq, Repr

/-- The name of a kind of numbers. -/
def NumberKind.name : NumberKind → String
  | .size => "usize"
  | .word64 => "u64"
  | .word32 => "u32"
  | .word16 => "u16"

/-- The greatest number of a kind. -/
def NumberKind.limit : NumberKind → Nat
  | .size => Nat.pow 2 64 - 1
  | .word64 => Nat.pow 2 64 - 1
  | .word32 => Nat.pow 2 32 - 1
  | .word16 => Nat.pow 2 16 - 1

/-- The number that a variable holds between blanks, or the default if there is no such variable. -/
def Environment.number (env : Environment) (key : String) (kind : NumberKind) (default : Nat) :
    Except ConfigFault Nat :=
  match env.get? key with
  | none => .ok default
  | some raw =>
    match Text.readNumeral? kind.limit (Text.trimChars raw.toList) with
    | some n => .ok n
    | none => .error (.number key kind.name)

/-- The number of seconds that a variable holds. -/
def Environment.seconds (env : Environment) (key : String) (default : Nat) :
    Except ConfigFault Span :=
  (env.number key .word64 default).map Span.ofSeconds

/-- The letters of a text in lower case, others as they are. -/
def lowerCase (s : String) : String :=
  String.ofList (s.toList.map Char.toLower)

/-- The log format of a given name, in either case. -/
def LogFormat.read (s : String) : Except ConfigFault LogFormat :=
  let name := lowerCase s
  if name = "json" then .ok .json
  else if name = "pretty" then .ok .pretty
  else if name = "compact" then .ok .compact
  else
    let shown := Text.quote name
    .error (.config s!"LOG_FORMAT must be one of json, pretty, compact (got {shown})")

/-- The addresses of a list separated by commas, without blanks around them and without empty
ones. -/
def readRecipients (raw : String) : List String :=
  let entries := (Text.splitChars ',' raw.toList).map Text.trimChars
  (entries.filter fun a => !a.isEmpty).map String.ofList

/-- The time that one post may take. -/
def teamsBaseTimeout : Span := Span.ofSeconds 10

/-- The time that one mail session may take. -/
def emailBaseTimeout : Span := Span.ofSeconds 30

/-- Reads the settings of the queues and reports. -/
def NotifyConfig.fromEnvironment (env : Environment) : Except ConfigFault NotifyConfig := do
  let queueDepth ← env.number "NOTIFY_QUEUE_DEPTH" .size 5
  let shutdownTimeout ← env.seconds "NOTIFY_SHUTDOWN_TIMEOUT_SECS" 2
  let statsInterval ← env.seconds "NOTIFY_STATS_INTERVAL_SECS" 300
  let queueInterval ← env.seconds "NOTIFY_QUEUE_INTERVAL_SECS" 15
  if queueDepth = 0 then
    .error (.validation "NOTIFY_QUEUE_DEPTH must be at least 1")
  else .ok ⟨queueDepth, shutdownTimeout, statsInterval, queueInterval⟩

/-- Reads the settings of the webhook, if it has a destination. -/
def TeamsConfig.fromEnvironment (env : Environment) : Except ConfigFault (Option TeamsConfig) := do
  match env.getNonBlank? "TEAMS_WEBHOOK_URL" with
  | none => .ok none
  | some webhookUrl =>
    let rateLimit ← env.seconds "TEAMS_RATE_LIMIT_SECS" 5
    let retries ← env.number "TEAMS_RETRIES" .word32 2
    let retryDelay ← env.seconds "TEAMS_RETRY_DELAY_SECS" 5
    .ok (some ⟨webhookUrl, ⟨rateLimit, teamsBaseTimeout, retries, retryDelay⟩⟩)

/-- Reads the credentials, of which both parts or none must be given. -/
def Credentials.fromEnvironment (env : Environment) : Except ConfigFault (Option Credentials) :=
  match env.getNonBlank? "EMAIL_USERNAME", env.getNonBlank? "EMAIL_PASSWORD" with
  | some username, some password => .ok (some ⟨username, password⟩)
  | none, none => .ok none
  | _, _ => .error (.config "EMAIL_USERNAME and EMAIL_PASSWORD must be set together")

/-- Reads the settings of mails, if there is a server. -/
def EmailConfig.fromEnvironment (env : Environment) : Except ConfigFault (Option EmailConfig) := do
  match env.getNonBlank? "EMAIL_SERVER" with
  | none => .ok none
  | some server =>
    match env.getNonBlank? "EMAIL_SENDER" with
    | none => .error (.config "EMAIL_SENDER is required when EMAIL_SERVER is set")
    | some sender =>
      let recipients := readRecipients ((env.get? "EMAIL_RECIPIENTS").getD "")
      if recipients.isEmpty then
        .error (.config "EMAIL_RECIPIENTS is required when EMAIL_SERVER is set")
      else
        let credentials ← Credentials.fromEnvironment env
        let port ← env.number "EMAIL_PORT" .word16 25
        let clientIdentity := (env.get? "EMAIL_CLIENT_IDENTITY").getD "tripwire"
        let rateLimit ← env.seconds "EMAIL_RATE_LIMIT_SECS" 3
        let retries ← env.number "EMAIL_RETRIES" .word32 2
        let retryDelay ← env.seconds "EMAIL_RETRY_DELAY_SECS" 2
        .ok (some ⟨server, port, clientIdentity, sender, recipients, credentials,
          ⟨rateLimit, emailBaseTimeout, retries, retryDelay⟩⟩)

/-- Reads the whole configuration. -/
def AppConfig.fromEnvironment (env : Environment) : Except ConfigFault AppConfig := do
  let notify ← NotifyConfig.fromEnvironment env
  let teams ← TeamsConfig.fromEnvironment env
  let email ← EmailConfig.fromEnvironment env
  let appName := (env.get? "TRIPWIRE_APP_NAME").getD "tripwire"
  let appUrl := (env.get? "TRIPWIRE_APP_URL").getD "https://example.invalid/tripwire"
  let logFormat ← LogFormat.read ((env.get? "LOG_FORMAT").getD "json")
  .ok ⟨appName, appUrl, logFormat, notify, teams, email⟩

end AlertRelay
