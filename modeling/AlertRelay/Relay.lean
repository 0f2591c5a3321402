import AlertRelay.Config.Environment
import AlertRelay.Intake
import AlertRelay.Pipeline.Run
import AlertRelay.Record.Writer
import AlertRelay.Render.Mail
import AlertRelay.Smtp.Session
import AlertRelay.Stats.Timeline
import AlertRelay.Webhook

/-!
# The relay

The whole program: it reads its configuration from the environment and records from its input,
delivers each record on every enabled channel, and ends when all is delivered or when it is
interrupted. `Relay.run` says how it ends and what it counts, given how the network behaves.
-/

namespace AlertRelay.Relay

/-- How the servers behave towards every request and every session. -/
structure Network where
  webhook : Webhook.Answer
  mailServer : Smtp.Server

/-- The words of a network that there is no way out of. -/
def noRoute : String := "Network is unreachable (os error 101)"

/-- A network in which no server can be reached. -/
def Network.unreachable : Network :=
  ⟨.unreachable, .unreachable noRoute⟩

/-- What becomes of posts that may take no longer than `limit`. -/
def Network.webhookTransport (n : Network) (limit : Span) : WebhookTransport Card :=
  fun _ url _ => .returns (Webhook.duration limit n.webhook) false (Webhook.post url n.webhook)

/-- What becomes of sessions that may take no longer than `limit`. -/
def Network.mailTransport (n : Network) (limit : Span) : MailTransport String :=
  fun _ config message =>
    .returns (Smtp.duration limit n.mailServer) false
      (Smtp.sendMail limit config message n.mailServer).result

/-- The behaviour of the network towards the deliveries of a sender. -/
def Network.transport (n : Network) (branding : Branding) (clock : LocalTime) (s : Sender)
    (r : EventRecord) : Transport Unit :=
  let limit := s.settings.baseTimeout
  match s with
  | .teams c =>
    let card := Card.ofRecord r branding clock
    fun number => n.webhookTransport limit number c.webhookUrl card
  | .email c =>
    let message := Mail.message r c.sender c.recipients branding clock
    fun number => n.mailTransport limit number c message

/-- How the program ends: why it failed if it did, the form of its log once that is known, what it
skipped, how many records it accepted if it read all its input, its counters, and whether the
bookkeeper was there to sum them up. -/
structure Report where
  failure : Option String := none
  format : Option LogFormat := none
  skipped : List ReadFault := []
  accepted : Option Nat := none
  totals : Option Counters := none
  summed : Bool := false

/-- The pipeline for a configuration at the time 0. -/
def pipelineOf (c : AppConfig) (network : Network) (clock : LocalTime) : Pipeline :=
  let branding : Branding := ⟨c.appName, c.appUrl⟩
  let depth := c.notify.queueDepth
  Pipeline.start depth c.notify.shutdownTimeout
    ((registerAll c.senders).map fun s =>
      Lane.start s (network.transport branding clock s) (fun _ => clock.text) depth 0)

/-- The counters in the end. Without an interruption the program waits until nothing is left to wait
for. -/
def countersOf (p : Pipeline) (records : List EventRecord) (interrupt : Option Span) : Counters :=
  let (p, _) := p.play (records.map fun r => (0, .submit r))
  let p := match interrupt with
    | some d => Clockwork.runTo d.toNanos p
    | none => Clockwork.runOut p
  p.conclude.totals

/-- Whether the bookkeeper can set the timer for its first report at an instant. -/
def hasBookkeeper (config : AppConfig) (start : Instant) : Bool :=
  (firstDue? start (reportInterval config.notify.statsInterval)).isSome

/-- The counters that the program gives in the end. Without a bookkeeper there is nothing to wait
for, and nothing is counted. -/
def totalsOf (config : AppConfig) (network : Network) (clock : LocalTime)
    (records : List EventRecord) (interrupt : Option Span) : Counters :=
  if hasBookkeeper config 0 then countersOf (pipelineOf config network clock) records interrupt
  else {}

/-- A run of the program. -/
def run (env : Environment) (input : List UInt8) (fresh : Nat → Uuid) (network : Network)
    (clock : LocalTime) (interrupt : Option Span) : Report :=
  match AppConfig.fromEnvironment env with
  | .error fault => { failure := some fault.message }
  | .ok config =>
    let intake := Intake.read fresh input
    let format := some config.logFormat
    match intake.fault with
    | some fault => { failure := some fault.message, format, skipped := intake.skipped }
    | none =>
      { format
        skipped := intake.skipped
        accepted := some intake.accepted.length
        totals := some (totalsOf config network clock intake.accepted interrupt)
        summed := hasBookkeeper config 0 }

/-- Whether the environment turns the log off. -/
def isMuted (env : Environment) : Bool :=
  (env.get? "RUST_LOG").any fun s => lowerCase s == "off"

/-- Whether a run writes its log as lines of JSON. -/
def Report.logsJson (r : Report) (env : Environment) : Bool :=
  r.format == some .json && !isMuted env

/-- The line about a skipped line of input. -/
def skippedLine (fault : ReadFault) : LogLine :=
  ⟨.warn, "Skipping invalid event record", [("error", optionalValue fault.message?)]⟩

/-- The last line of the log. -/
def stoppedLine (c : Counters) : LogLine :=
  ⟨.info, "Tripwire notifier stopped.",
    [("received", countValue c.received), ("success", countValue c.totalSuccess),
      ("failure", countValue c.totalFailure)]⟩

/-- The log of a run. -/
def Report.log (r : Report) : List LogLine :=
  r.skipped.map skippedLine ++
    match r.totals with
    | some c => (if r.summed then c.summary else []) ++ [stoppedLine c]
    | none => []

/-- What a run writes to its error stream. -/
def Report.errorText (r : Report) : String :=
  match r.failure with
  | some text => s!"Error: {text}\n"
  | none => ""

/-- The exit status of a run. -/
def Report.status (r : Report) : Nat :=
  if r.failure.isSome then 1 else 0

end AlertRelay.Relay
