import AlertRelay.Delivery.Error
import AlertRelay.Render.Card
import AlertRelay.Text.Utf16
import AlertRelay.Text.Utf8
import AlertRelay.Time.Span
import AlertRelay.Url.Reader

/-!
# Webhooks

A card is posted to a webhook as compact JSON. Any status of the two hundreds is a success; with any
other one the body of the answer is kept. A text that is no URL, or one that cannot be asked for, is
noticed before anything is sent.
-/

namespace AlertRelay.Webhook

/-- What comes of a request. -/
inductive Answer where
  | status (code : Nat) (body : List UInt8)
  /-- The connection is closed without an answer. -/
  | dropped
  /-- There is no answer within the time for a request. -/
  | silent
  /-- There is no connection. -/
  | unreachable
  deriving Repr

/-- What a server gets to see of a request. -/
structure Request where
  verb : String := "POST"
  path : String
  contentType : String := "application/json"
  userAgent : String := s!"tripwire/{version}"
  body : String
  deriving DecidableEq, Repr

/-! ## Where a card is posted -/

/-- Why nothing can be posted to a text. -/
inductive Refusal where
  | noUrl
  | unusable (url : Url)
  deriving DecidableEq, Repr

/-- The words for a refusal. -/
def Refusal.message : Refusal → String
  | .noUrl => "builder error"
  | .unusable url => s!"builder error for url ({url.text})"

/-- The greatest length of a URL that can be asked for. -/
def lengthLimit : Nat := 65534

/-- A character that the name of a host may have, but not in a request. -/
def isOddInHost (c : Char) : Bool :=
  c == '"' || c == '\x60' || c == '\x7b' || c == '\x7d'

/-- Whether a URL can be asked for: it is one of the web, neither too long nor with an odd host. -/
def isUsable (url : Url) : Bool :=
  (url.scheme == "http" || url.scheme == "https") && url.chars.length ≤ lengthLimit &&
    (url.host?.any fun h => !h.chars.any isOddInHost)

/-- The URL that a text is, without its credentials, if it can be posted to. -/
def destination (text : String) : Except Refusal Url :=
  match Url.read? text with
  | none => .error .noUrl
  | some url =>
    if url.host?.isNone then .error (.unusable url)
    else if isUsable url.anonymous then .ok url.anonymous
    else .error (.unusable url.anonymous)

/-! ## What comes of it -/

/-- Whether a status means success. -/
def isSuccess (code : Nat) : Bool :=
  200 ≤ code && code < 300

/-- The text of a body. A byte order mark is not part of it and says how the rest is to be read;
without one it is UTF-8. -/
def bodyText (body : List UInt8) : String :=
  String.ofList (match body with
    | 0xEF :: 0xBB :: 0xBF :: rest => Utf8.decodeLossy rest
    | 0xFE :: 0xFF :: rest => Utf16.decodeLossy .highFirst rest
    | 0xFF :: 0xFE :: rest => Utf16.decodeLossy .lowFirst rest
    | _ => Utf8.decodeLossy body)

/-- The words for a request without an answer. -/
def noAnswer (url : Url) : String :=
  s!"error sending request for url ({url.text})"

/-- What comes of posting to a text. -/
def post (text : String) (answer : Answer) : Except DeliveryError Unit :=
  match destination text with
  | .error refusal => .error (.webhook refusal.message)
  | .ok url =>
    match answer with
    | .status code body =>
      if isSuccess code then .ok ()
      else .error (.webhookStatus code (bodyText body))
    | _ => .error (.webhook (noAnswer url))

/-- How many nanoseconds a request takes when one may take no longer than `limit`. -/
def duration (limit : Span) : Answer → Nat
  | .silent => limit.pause.toNanos
  | _ => 0

/-- The request that reaches the server, if one does. -/
def request? (text : String) (card : Card) (answer : Answer) : Option Request :=
  match destination text, answer with
  | .ok _, .unreachable => none
  | .ok url, _ => some { path := url.target, body := card.toValue.write }
  | .error _, _ => none

end AlertRelay.Webhook
