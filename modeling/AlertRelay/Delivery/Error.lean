import AlertRelay.Channel

/-!
# Delivery errors

Why a notification could not be delivered. An error may be wrapped: in the number of attempts that
all failed, in the reason why no further attempt was made, or in the destination it belongs to. The
message of an error always contains the message of the error inside.
-/

namespace AlertRelay

/-- Why a delivery has no time left. -/
inductive DoneReason where
  | cancelled
  | deadlineExceeded
  deriving DecidableEq, Repr, Inhabited

/-- The words for the reason. -/
def DoneReason.message : DoneReason → String
  | .cancelled => "context cancelled"
  | .deadlineExceeded => "context deadline exceeded"

/-- The stages of a mail session. -/
inductive SmtpStage where
  | session
  | connect
  | greeting
  | helo
  | auth
  | mailFrom
  | rcptTo
  | data
  | body
  | quit
  deriving DecidableEq, Repr, Inhabited

/-- The words for a stage. -/
def SmtpStage.text : SmtpStage → String
  | .session => "session"
  | .connect => "connect"
  | .greeting => "greeting"
  | .helo => "HELO"
  | .auth => "AUTH"
  | .mailFrom => "MAIL FROM"
  | .rcptTo => "RCPT TO"
  | .data => "DATA"
  | .body => "message body"
  | .quit => "QUIT"

/-- Why a notification could not be delivered. -/
inductive DeliveryError where
  | missingDestination (channel : Channel)
  | webhook (reason : String)
  | webhookStatus (status : Nat) (body : String)
  | smtp (stage : SmtpStage) (reason : String)
  | attemptsExhausted (attempts : Nat) (source : DeliveryError)
  | aborted (attempt allowed : Nat) (reason : DoneReason) (last : Option DeliveryError)
  | delivery (destination : String) (source : DeliveryError)
  deriving Inhabited

namespace DeliveryError

/-- The name of the kind of an error. -/
def kind : DeliveryError → String
  | .missingDestination _ => "MissingDestination"
  | .webhook _ => "Webhook"
  | .webhookStatus _ _ => "WebhookStatus"
  | .smtp _ _ => "Smtp"
  | .attemptsExhausted _ _ => "AttemptsExhausted"
  | .aborted _ _ _ _ => "Aborted"
  | .delivery _ _ => "Delivery"

/-- The words for an error. -/
def message : DeliveryError → String
  | .missingDestination channel =>
    s!"{channel.name} destination not defined, skipping message submission"
  | .webhook reason => s!"webhook request failed: {reason}"
  | .webhookStatus status body => s!"webhook returned HTTP {status}: {body}"
  | .smtp stage reason => s!"SMTP {stage.text} failed: {reason}"
  | .attemptsExhausted attempts source =>
    s!"all {attempts} attempts failed, last error: " ++ source.message
  | .aborted attempt allowed reason none =>
    s!"{reason.message}; aborting before attempt {attempt} of {allowed}"
  | .aborted attempt allowed reason (some last) =>
    s!"{reason.message}; aborting before attempt {attempt} of {allowed}" ++ " (last error: " ++
      last.message ++ ")"
  | .delivery destination source =>
    s!"failed to submit message to {destination}: " ++ source.message

/-- The chain of sources of an error, the outermost first. -/
def sources : DeliveryError → List DeliveryError
  | .attemptsExhausted _ source => source :: source.sources
  | .delivery _ source => source :: source.sources
  | _ => []

end DeliveryError

end AlertRelay
