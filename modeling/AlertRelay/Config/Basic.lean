import AlertRelay.Channel
import AlertRelay.Text.Blank
import AlertRelay.Text.Quoted
import AlertRelay.Time.Span

/-!
# Configuration

What can be set: the size of the queues and the pace of the reports, and for each channel its
destination, how often it sends, how long an attempt may take and how often it is repeated. A
channel without a destination is not enabled.
-/

namespace AlertRelay

/-- The form of the log. -/
inductive LogFormat where
  | json
  | pretty
  | compact
  deriving DecidableEq, Repr, Inhabited

/-- The name of a log format as a constructor. -/
def LogFormat.label : LogFormat → String
  | .json => "Json"
  | .pretty => "Pretty"
  | .compact => "Compact"

/-- How a channel sends. -/
structure ChannelSettings where
  /-- The least time between two sends. -/
  rateLimit : Span
  /-- The time that one attempt may take. -/
  baseTimeout : Span
  /-- How many attempts may follow the first one. -/
  retries : Nat
  /-- The pause between two attempts. -/
  retryDelay : Span
  deriving DecidableEq, Repr, Inhabited

/-- A channel that posts cards to a webhook. -/
structure TeamsConfig where
  webhookUrl : String
  settings : ChannelSettings
  deriving DecidableEq, Repr, Inhabited

/-- The name and password for a mail server. -/
structure Credentials where
  username : String
  password : String
  deriving DecidableEq, Inhabited

/-- The credentials in words, without the password. -/
def Credentials.text (c : Credentials) : String :=
  "SmtpCredentials \x7b username: " ++ Text.quote c.username ++
    ", password: \"<redacted>\" \x7d"

/-- A channel that sends mails. -/
structure EmailConfig where
  server : String
  port : Nat
  clientIdentity : String
  sender : String
  recipients : List String
  credentials : Option Credentials
  settings : ChannelSettings
  deriving DecidableEq, Inhabited

/-- The server and port in words. -/
def EmailConfig.destination (c : EmailConfig) : String :=
  s!"{c.server}:{c.port}"

/-- The size of the queues and the pace of the reports. -/
structure NotifyConfig where
  queueDepth : Nat := 5
  shutdownTimeout : Span := Span.ofSeconds 2
  statsInterval : Span := Span.ofSeconds 300
  queueInterval : Span := Span.ofSeconds 15
  deriving DecidableEq, Repr, Inhabited

/-- All that can be set. -/
structure AppConfig where
  appName : String
  appUrl : String
  logFormat : LogFormat
  notify : NotifyConfig
  teams : Option TeamsConfig
  email : Option EmailConfig
  deriving DecidableEq, Inhabited

/-- The channels that are enabled, in the order in which they are started. -/
def AppConfig.channels (c : AppConfig) : List Channel :=
  (if c.teams.isSome then [.teams] else []) ++ (if c.email.isSome then [.email] else [])

end AlertRelay
