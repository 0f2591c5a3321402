import AlertRelay.Config.Basic
import AlertRelay.Delivery.Attempts

/-!
# Senders

A sender delivers notifications on one channel. It gives up at once if it has no destination; else
it waits for the slot and attempts the delivery. An error is reported together with the
destination, and a success with the time of day.

`TeamsConfig.send` posts a card through `WebhookTransport.sendWithRetry`, and `EmailConfig.send`
submits a mail in a loop of its own. What is posted or submitted is made before the wait and handed
to the transport as it is, so its type is left open.
-/

namespace AlertRelay

/-! ## Webhooks -/

/-- What becomes of the posts to a webhook, by their number, the address and the card. -/
abbrev WebhookTransport (κ : Type) := Nat → String → κ → Attempt Unit

/-- Posts a card until it is taken, as often as the policy allows. -/
def WebhookTransport.sendWithRetry {κ : Type} (post : WebhookTransport κ) (c : Context)
    (url : String) (card : κ) (policy : RetryPolicy) (now : Instant) (timers : Timers := .exact) :
    Trace (Except DeliveryError Unit) :=
  attempts policy (fun number => post number url card) c now timers

/-- Delivers a card from `now` on. -/
def TeamsConfig.send {κ : Type} (config : TeamsConfig) (post : WebhookTransport κ) (card : κ)
    (clock : String) (choice : Choice) (c : Context) (slot now : Instant)
    (timers : Timers := .exact) : Trace DeliveryResult :=
  if config.webhookUrl.isEmpty then .done now (.failed .teams (.missingDestination .teams))
  else
    let wait := waitForSlot c choice .teams slot now timers
    match wait.cancelled with
    | some cancelled => .done wait.time cancelled
    | none =>
      let policy : RetryPolicy := ⟨config.settings.retries, config.settings.retryDelay⟩
      let sent := post.sendWithRetry c config.webhookUrl card policy wait.time timers
      sent.map fun
        | .ok () => .succeeded .teams s!"Message successfully sent to Microsoft Teams at {clock}"
        | .error e => .failed .teams (.delivery "Microsoft Teams" e)

/-! ## Mail servers -/

/-- What becomes of the submissions to a mail server, by their number, the settings and the mail. -/
abbrev MailTransport (μ : Type) := Nat → EmailConfig → μ → Attempt Unit

/-- Delivers a mail from `now` on. -/
def EmailConfig.send {μ : Type} (config : EmailConfig) (submit : MailTransport μ) (mail : μ)
    (clock : String) (choice : Choice) (c : Context) (slot now : Instant)
    (timers : Timers := .exact) : Trace DeliveryResult :=
  if config.server.isEmpty then .done now (.failed .email (.missingDestination .email))
  else
    let wait := waitForSlot c choice .email slot now timers
    match wait.cancelled with
    | some cancelled => .done wait.time cancelled
    | none =>
      let policy : RetryPolicy := ⟨config.settings.retries, config.settings.retryDelay⟩
      let destination := config.destination
      let sent := attempts policy (fun number => submit number config mail) c wait.time timers
      sent.map fun
        | .ok () =>
          .succeeded .email s!"Message successfully sent via SMTP server {destination} at {clock}"
        | .error e => .failed .email (.delivery destination e)

/-! ## Senders for any channel -/

/-- A channel with its destination and settings. -/
inductive Sender where
  | teams (config : TeamsConfig)
  | email (config : EmailConfig)
  deriving Inhabited

namespace Sender

/-- The channel of a sender. -/
def channel : Sender → Channel
  | .teams _ => .teams
  | .email _ => .email

/-- How a sender sends. -/
def settings : Sender → ChannelSettings
  | .teams c => c.settings
  | .email c => c.settings

/-- Delivers one notification from `now` on, with a transport that knows what it says. -/
def send (s : Sender) (clock : String) (choice : Choice) (transport : Transport Unit) (c : Context)
    (slot now : Instant) (timers : Timers := .exact) : Trace DeliveryResult :=
  match s with
  | .teams config =>
    config.send (fun number _ _ => transport number) () clock choice c slot now timers
  | .email config =>
    config.send (fun number _ _ => transport number) () clock choice c slot now timers

end Sender

/-- The senders with one more. A sender takes the place of an earlier one for the same channel. -/
def registerSender (senders : List Sender) (s : Sender) : List Sender :=
  if senders.any fun t => t.channel == s.channel then
    senders.map fun t => if t.channel == s.channel then s else t
  else senders ++ [s]

/-- The senders after some registrations, in the order of the first one for each channel. -/
def registerAll (senders : List Sender) : List Sender :=
  senders.foldl registerSender []

/-- The senders for the channels that a configuration enables. -/
def AppConfig.senders (c : AppConfig) : List Sender :=
  (match c.teams with | some t => [.teams t] | none => []) ++
    (match c.email with | some e => [.email e] | none => [])

end AlertRelay
