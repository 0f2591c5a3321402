import AlertRelay.Channel

/-!
# Counters

How many records were received, and for each channel how many were handed to it and what became of
them. Counters only grow. What is handed to a channel and not yet resolved is pending.
-/

namespace AlertRelay

/-- One increment. -/
inductive Update where
  | received
  | sent (channel : Channel)
  | succeeded (channel : Channel)
  | failed (channel : Channel)
  | cancelled (channel : Channel)
  deriving DecidableEq, Repr

/-- An increment in words. -/
def Update.text : Update → String
  | .received => "Received"
  | .sent c => s!"Sent({c.label})"
  | .succeeded c => s!"Succeeded({c.label})"
  | .failed c => s!"Failed({c.label})"
  | .cancelled c => s!"Cancelled({c.label})"

/-- The counters of one channel. -/
structure ChannelCounters where
  sent : Nat := 0
  success : Nat := 0
  failure : Nat := 0
  cancelled : Nat := 0
  deriving DecidableEq, Repr, Inhabited

/-- What became of records so far. -/
def ChannelCounters.resolved (c : ChannelCounters) : Nat :=
  c.success + c.failure + c.cancelled

/-- What is not resolved, never less than nothing. -/
def ChannelCounters.pending (c : ChannelCounters) : Nat :=
  c.sent - c.resolved

/-- All counters. -/
structure Counters where
  received : Nat := 0
  teams : ChannelCounters := {}
  email : ChannelCounters := {}
  deriving DecidableEq, Repr, Inhabited

namespace Counters

/-- The counters of a channel. -/
def channel (c : Counters) : Channel → ChannelCounters
  | .teams => c.teams
  | .email => c.email

/-- Changes the counters of a channel. -/
def modify (c : Counters) (channel : Channel) (f : ChannelCounters → ChannelCounters) : Counters :=
  match channel with
  | .teams => { c with teams := f c.teams }
  | .email => { c with email := f c.email }

/-- Counts an increment. -/
def apply (c : Counters) : Update → Counters
  | .received => { c with received := c.received + 1 }
  | .sent channel => c.modify channel fun k => { k with sent := k.sent + 1 }
  | .succeeded channel => c.modify channel fun k => { k with success := k.success + 1 }
  | .failed channel => c.modify channel fun k => { k with failure := k.failure + 1 }
  | .cancelled channel => c.modify channel fun k => { k with cancelled := k.cancelled + 1 }

/-- The successes of all channels. -/
def totalSuccess (c : Counters) : Nat :=
  c.teams.success + c.email.success

/-- The failures of all channels. -/
def totalFailure (c : Counters) : Nat :=
  c.teams.failure + c.email.failure

/-- What is pending on all channels. -/
def totalPending (c : Counters) : Nat :=
  c.teams.pending + c.email.pending

/-- The counters after some increments from nothing. -/
def ofUpdates (us : List Update) : Counters :=
  us.foldl apply {}

/-- The counters after each of some increments. -/
def history (c : Counters) : List Update → List Counters
  | [] => []
  | u :: us => c.apply u :: (c.apply u).history us

end Counters

end AlertRelay
