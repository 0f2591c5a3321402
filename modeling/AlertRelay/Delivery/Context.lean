import AlertRelay.Delivery.Error
import AlertRelay.Delivery.Result
import AlertRelay.Time.Span

/-!
# Contexts

A delivery runs in a context: it has a deadline, and it may be cancelled. A cancellation at an
instant is seen by everything that looks at that instant, and it counts before the deadline.

`waitForSlot` waits for a slot as long as the context is not done. Two things can then be ready at
once, the slot and the end of the context, or the cancellation and the deadline; a `Choice` says
which of them is noticed. Slots and deadlines are waited for by timers, which are exact unless
others are given; whether a context is done is read off the clock, without a timer.
-/

namespace AlertRelay

/-- The deadline of a delivery, and the time of its cancellation, if it is ever cancelled. -/
structure Context where
  deadline : Instant
  cancelledAt : Option Instant := none
  deriving DecidableEq, Repr, Inhabited

namespace Context

/-- Whether the context is cancelled by `now`. -/
def isCancelled (c : Context) (now : Instant) : Bool :=
  match c.cancelledAt with
  | some t => t ≤ now
  | none => false

/-- Why the context is done at `now`, if it is. -/
def doneReason? (c : Context) (now : Instant) : Option DoneReason :=
  if c.isCancelled now then some .cancelled
  else if c.deadline ≤ now then some .deadlineExceeded
  else none

/-- When a wait for the end of the context is over that begins at `now`. A cancellation is noticed
at once, the deadline when its timer rings. -/
def doneAt (c : Context) (now : Instant) (timers : Timers := .exact) : Instant :=
  match c.cancelledAt with
  | some t => max now (min t (timers.ring c.deadline))
  | none => max now (timers.ring c.deadline)

/-- The context with a cancellation at `t`, unless it is cancelled before. -/
def cancel (c : Context) (t : Instant) : Context :=
  { c with cancelledAt := some (match c.cancelledAt with | some u => min u t | none => t) }

end Context

/-- Which of two things that are ready at once is noticed. -/
structure Choice where
  /-- The slot, and not the end of the context. -/
  slotFirst : Bool := false
  /-- The deadline, and not the cancellation. -/
  deadlineFirst : Bool := false
  deriving DecidableEq, Repr, Inhabited

/-- The reason that a wait for the end of a context reports at the instant at which it is over. -/
def Context.endReason (c : Context) (choice : Choice) (now : Instant) (timers : Timers := .exact) :
    DoneReason :=
  if c.isCancelled now && !(choice.deadlineFirst && timers.ring c.deadline ≤ now) then .cancelled
  else .deadlineExceeded

/-- What comes of waiting for a slot: when the wait is over, and the result to hand back if the
context was done. -/
structure SlotWait where
  time : Instant
  cancelled : Option DeliveryResult := none

/-- The words for a context that is done before the slot. -/
def slotMissed (reason : DoneReason) (channel : Channel) : String :=
  s!"{reason.message} while waiting for scheduled {channel.name} send"

/-- The words for a context that is done at the slot. -/
def slotLate (reason : DoneReason) (channel : Channel) : String :=
  s!"{reason.message} at scheduled {channel.name} send time"

/-- Waits from `now` until the slot or the end of the context. When the slot comes first the context
is looked at once more. -/
def waitForSlot (c : Context) (choice : Choice) (channel : Channel) (slot now : Instant)
    (timers : Timers := .exact) : SlotWait :=
  let ready := max now (timers.ring slot)
  let done := c.doneAt now timers
  if done < ready || (done == ready && !choice.slotFirst) then
    ⟨done, some (.cancelled channel (slotMissed (c.endReason choice done timers) channel))⟩
  else
    match c.doneReason? ready with
    | some reason => ⟨ready, some (.cancelled channel (slotLate reason channel))⟩
    | none => ⟨ready, none⟩

end AlertRelay
