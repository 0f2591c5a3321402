import AlertRelay.Delivery.Context

/-!
# Attempts

A delivery is attempted until it succeeds, until its attempts are used up, or until its context is
done. The context is looked at before every attempt and cuts a pause between attempts short, but an
attempt that has begun is never interrupted. `attempts` says which calls are made at which times and
what is returned when, for every behaviour of the transport.
-/

namespace AlertRelay

/-- What happens to one call of a transport: it never returns, or it returns after some
nanoseconds and may have cancelled the whole program at that moment. -/
inductive Attempt (α : Type) where
  | hangs
  | returns (after : Nat) (cancelsRoot : Bool) (outcome : Except DeliveryError α)

/-- The behaviour of a transport towards one delivery, by the number of the call. -/
abbrev Transport (α : Type) := Nat → Attempt α

/-- The transport that plays the given attempts, the last of which repeats. Without any it succeeds
at once. -/
def Transport.script {α : Type} (value : α) (steps : List (Attempt α)) : Transport α :=
  fun number =>
    (steps[min (number - 1) (steps.length - 1)]?).getD (.returns 0 false (.ok value))

/-- How often and at which pace a delivery is attempted. -/
structure RetryPolicy where
  retries : Nat
  delay : Span
  deriving DecidableEq, Repr, Inhabited

/-- The greatest number of attempts. -/
def attemptsLimit : Nat := Nat.pow 2 32 - 1

/-- How many attempts are allowed, the first one included. -/
def RetryPolicy.attempts (p : RetryPolicy) : Nat :=
  min (p.retries + 1) attemptsLimit

/-- How an activity ends. -/
inductive Ending (β : Type) where
  | returns (time : Instant) (value : β)
  | hangs

/-- What can be seen of an activity: its calls of the transport, when it first cancelled the whole
program by itself, and its end. -/
structure Trace (β : Type) where
  calls : List (Instant × Nat) := []
  cancelsAt : Option Instant := none
  ending : Ending β

namespace Trace

variable {β γ : Type}

/-- An activity that returns without any call. -/
def done (t : Instant) (value : β) : Trace β :=
  { ending := .returns t value }

/-- Puts a call in front. -/
def addCall (call : Instant × Nat) (cancelsAt : Option Instant) (t : Trace β) : Trace β :=
  ⟨call :: t.calls, match cancelsAt with | some u => some u | none => t.cancelsAt, t.ending⟩

/-- Changes the value that is returned. -/
def map (f : β → γ) (t : Trace β) : Trace γ :=
  ⟨t.calls, t.cancelsAt,
    match t.ending with | .returns u value => .returns u (f value) | .hangs => .hangs⟩

/-- When the activity returns, if it does. -/
def returnsAt? (t : Trace β) : Option Instant :=
  match t.ending with
  | .returns u _ => some u
  | .hangs => none

/-- What the activity returns, if it does. -/
def value? (t : Trace β) : Option β :=
  match t.ending with
  | .returns _ value => some value
  | .hangs => none

end Trace

/-- When a pause that begins at `now` is over. No timer runs longer than the longest pause. A pause
is cut short by the end of the context, and there is none if the context is done already. -/
def pauseEnd (c : Context) (delay : Span) (now : Instant) (timers : Timers := .exact) : Instant :=
  match c.doneReason? now with
  | some _ => now
  | none => min (timers.ring (now + delay.pause.toNanos)) (c.doneAt now timers)

variable {α : Type}

/-- The attempts from number `number` on, with `left` more allowed after it. -/
def attemptsFrom (policy : RetryPolicy) (transport : Transport α) (timers : Timers) :
    Nat → Context → Nat → Instant → Option DeliveryError → Trace (Except DeliveryError α)
  | left, c, number, now, last =>
    match c.doneReason? now with
    | some reason => .done now (.error (.aborted number policy.attempts reason last))
    | none =>
      match transport number with
      | .hangs => ⟨[(now, number)], none, .hangs⟩
      | .returns after cancelsRoot outcome =>
        let t := now + after
        let cancelsAt := if cancelsRoot then some t else none
        let c := if cancelsRoot then c.cancel t else c
        match outcome, left with
        | .ok value, _ => (Trace.done t (.ok value)).addCall (now, number) cancelsAt
        | .error e, 0 =>
          (Trace.done t (.error (.attemptsExhausted policy.attempts e))).addCall (now, number)
            cancelsAt
        | .error e, left + 1 =>
          (attemptsFrom policy transport timers left c (number + 1)
            (pauseEnd c policy.delay t timers) (some e)).addCall (now, number) cancelsAt

/-- All attempts of a delivery that begin at `now`. -/
def attempts (policy : RetryPolicy) (transport : Transport α) (c : Context) (now : Instant)
    (timers : Timers := .exact) : Trace (Except DeliveryError α) :=
  attemptsFrom policy transport timers (policy.attempts - 1) c 1 now none

end AlertRelay
