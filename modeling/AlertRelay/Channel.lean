/-!
# Channels

The ways a notification can be sent: as a card to a webhook, or as a mail.
-/

namespace AlertRelay

/-- A way to send a notification. -/
inductive Channel where
  | teams
  | email
  deriving DecidableEq, Repr, Inhabited

namespace Channel

/-- All channels, in the order in which they are reported. -/
def all : List Channel := [.teams, .email]

/-- The name of a channel. -/
def name : Channel → String
  | .teams => "teams"
  | .email => "email"

/-- The name of a channel as a constructor. -/
def label : Channel → String
  | .teams => "Teams"
  | .email => "Email"

/-- The channel of a given name. -/
def ofName? (s : String) : Option Channel :=
  all.find? fun c => c.name == s

end Channel

end AlertRelay
