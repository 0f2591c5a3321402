import AlertRelay.Delivery.Error

/-!
# Delivery results

What a channel reports about a notification: it was sent, it failed with an error, or it was given
up before anything was known. A channel also reports when it shuts down; such a notice belongs to no
notification.
-/

namespace AlertRelay

/-- How a result counts. -/
inductive Outcome where
  | succeeded
  | failed
  | cancelled
  | status
  deriving DecidableEq, Repr, Inhabited

/-- The name of an outcome. -/
def Outcome.label : Outcome → String
  | .succeeded => "Succeeded"
  | .failed => "Failed"
  | .cancelled => "Cancelled"
  | .status => "Status"

/-- What a channel reports. -/
structure DeliveryResult where
  channel : Channel
  message : String
  error : Option DeliveryError
  success : Bool
  isNotice : Bool
  deriving Inhabited

namespace DeliveryResult

/-- The notification was sent. -/
def succeeded (channel : Channel) (message : String) : DeliveryResult :=
  ⟨channel, message, none, true, false⟩

/-- The notification could not be sent. -/
def failed (channel : Channel) (error : DeliveryError) : DeliveryResult :=
  ⟨channel, "", some error, false, false⟩

/-- The notification was given up. -/
def cancelled (channel : Channel) (message : String) : DeliveryResult :=
  ⟨channel, message, none, false, false⟩

/-- A notice of the channel itself. -/
def notice (channel : Channel) (message : String) : DeliveryResult :=
  { cancelled channel message with isNotice := true }

/-- How a result counts. A notice counts as such whatever else it holds. -/
def outcome (r : DeliveryResult) : Outcome :=
  if r.isNotice then .status
  else if r.success then .succeeded
  else if r.error.isSome then .failed
  else .cancelled

end DeliveryResult

end AlertRelay
