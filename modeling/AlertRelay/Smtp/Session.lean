import AlertRelay.Config.Basic
import AlertRelay.Delivery.Error
import AlertRelay.Smtp.Body
import AlertRelay.Smtp.Reply
import AlertRelay.Text.Base64

/-!
# Mail sessions

A session is a fixed list of exchanges: the client sends something and expects a reply with one of
some codes. The greeting of the server comes first and the farewell last. The first reply that is
not as expected ends the session, except that nothing depends on the reply to the farewell: the
message is accepted by then.
-/

namespace AlertRelay.Smtp

/-- What is sent at a stage, and the codes that are accepted. -/
structure Exchange where
  stage : SmtpStage
  text : List Char
  accepted : List Nat
  deriving DecidableEq, Repr

/-- A command on a line of its own. -/
def command (stage : SmtpStage) (line : String) (accepted : List Nat) : Exchange :=
  ⟨stage, line.toList ++ crlf, accepted⟩

/-- What proves who the client is: the name and the password, each behind a zero. -/
def authToken (c : Credentials) : String :=
  let plain := '\x00' :: (c.username.toList ++ '\x00' :: c.password.toList)
  String.ofList (Base64.encode (Utf8.encode plain))

/-- The address as the origin or goal of a mail. -/
def path (address : String) : String :=
  s!"<{address}>"

/-- The exchanges up to the acceptance of a message. -/
def exchanges (c : EmailConfig) (message : String) : List Exchange :=
  let auth := match c.credentials with
    | some credentials => [command .auth s!"AUTH PLAIN {authToken credentials}" [235]]
    | none => []
  [command .helo s!"HELO {c.clientIdentity}" [250]] ++ auth ++
    [command .mailFrom s!"MAIL FROM:{path c.sender}" [250]] ++
    (c.recipients.map fun r => command .rcptTo s!"RCPT TO:{path r}" [250, 251]) ++
    [command .data "DATA" [354], ⟨.body, encodeBody message.toList, [250]⟩]

/-- The codes of a greeting. -/
def greetingCodes : List Nat := [220]

/-- The farewell. -/
def farewell : Exchange := command .quit "QUIT" [221]

/-- Takes a reply off the lines of the server and checks its code. -/
def expectReply (stage : SmtpStage) (accepted : List Nat) (lines : List (List UInt8)) :
    Except DeliveryError (List (List UInt8)) :=
  match readReply lines with
  | .error fault => .error (.smtp stage fault.message)
  | .ok (reply, rest) =>
    if accepted.contains reply.code then .ok rest
    else
      let text := String.ofList reply.text
      .error (.smtp stage s!"{reply.code} {text}")

/-- What a session comes to: all that was sent, what became of the message, and what was wrong with
the reply to the farewell. -/
structure SessionReport where
  sent : List Char := []
  result : Except DeliveryError Unit
  farewellFault : Option DeliveryError := none

/-- A session with something sent in front. -/
def SessionReport.afterSending (text : List Char) (r : SessionReport) : SessionReport :=
  { r with sent := text ++ r.sent }

/-- The farewell of a session whose message is accepted. -/
def sayFarewell (lines : List (List UInt8)) : SessionReport :=
  { sent := farewell.text
    result := .ok ()
    farewellFault :=
      match expectReply farewell.stage farewell.accepted lines with
      | .ok _ => none
      | .error e => some e }

/-- The exchanges one after the other, and then the farewell. -/
def converse : List Exchange → List (List UInt8) → SessionReport
  | [], lines => sayFarewell lines
  | e :: rest, lines =>
    (match expectReply e.stage e.accepted lines with
      | .ok lines => converse rest lines
      | .error fault => { result := .error fault : SessionReport }).afterSending e.text

/-- The session with a server that sends these lines. -/
def runSession (c : EmailConfig) (message : String) (lines : List (List UInt8)) : SessionReport :=
  match expectReply .greeting greetingCodes lines with
  | .ok lines => converse (exchanges c message) lines
  | .error fault => { result := .error fault }

/-- A server as a client meets it: it cannot be reached, it never says anything, or it sends some
bytes and closes the connection. -/
inductive Server where
  | unreachable (reason : String)
  | silent
  | sends (bytes : List UInt8)
  deriving Repr

/-- The words for a session that takes too long. -/
def timeoutReason (limit : Span) : String :=
  s!"timed out after {limit.text}"

/-- Sends a message through a server in a session that may take no longer than `limit`. -/
def sendMail (limit : Span) (c : EmailConfig) (message : String) : Server → SessionReport
  | .unreachable reason =>
    { result := .error (.smtp .connect s!"{c.destination}: {reason}") }
  | .silent => { result := .error (.smtp .session (timeoutReason limit)) }
  | .sends bytes => runSession c message (Text.byteLines bytes)

/-- How many nanoseconds a session takes when one may take no longer than `limit`. -/
def duration (limit : Span) : Server → Nat
  | .silent => limit.pause.toNanos
  | _ => 0

end AlertRelay.Smtp
