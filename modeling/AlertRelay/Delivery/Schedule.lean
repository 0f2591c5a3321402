import AlertRelay.Time.Span

/-!
# Slots

A channel sends at slots that are at least its rate limit apart. `Schedule.next?` gives out the next
slot: the rate limit after the last one, or after now if the last one is over. `deliveryTimeout` is
the time that a delivery gets: until its slot, for one attempt, and for all pauses between attempts.
-/

namespace AlertRelay

/-- The slots of a channel: the rate limit and the last slot that was given out. -/
structure Schedule where
  delay : Span
  last : Instant
  deriving DecidableEq, Repr, Inhabited

namespace Schedule

/-- The next slot after a request at `now`, if there is such an instant. -/
def next? (s : Schedule) (now : Instant) : Option Schedule :=
  ((if s.last ≤ now then now else s.last).after? s.delay).map fun slot => { s with last := slot }

/-- The slots for a list of requests, up to the first one that there is no instant for. -/
def slots (s : Schedule) : List Instant → List (Option Instant)
  | [] => []
  | now :: rest =>
    match s.next? now with
    | some s => some s.last :: s.slots rest
    | none => [none]

end Schedule

/-- The time that a delivery gets which is scheduled for `slot` at the time `now`. -/
def deliveryTimeout (now : Instant) (base : Span) (slot : Instant) (retries : Nat)
    (retryDelay : Span) : Span :=
  (base.add (now.spanTo slot)).add (retryDelay.mul retries)

end AlertRelay
