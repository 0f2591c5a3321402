import AlertRelay.Delivery.Context

/-!
# Contexts under one root

Contexts are made one after the other while a clock runs. Each can be cancelled by itself, and the
root cancels all of them, also those that are made later.
-/

namespace AlertRelay

/-- A clock, the time at which the root was cancelled, and the contexts made so far. -/
structure ContextSet where
  now : Instant := 0
  rootCancelledAt : Option Instant := none
  contexts : List Context := []
  deriving DecidableEq, Repr, Inhabited

namespace ContextSet

/-- Whether the root is cancelled. -/
def rootCancelled (s : ContextSet) : Bool :=
  s.rootCancelledAt.isSome

/-- Makes a context that ends after `timeout`, unless there is no such instant. -/
def add? (s : ContextSet) (timeout : Span) : Option ContextSet :=
  (s.now.after? timeout).map fun deadline =>
    { s with contexts := s.contexts ++ [⟨deadline, s.rootCancelledAt⟩] }

/-- Pauses. -/
def pause (s : ContextSet) (d : Span) : ContextSet :=
  { s with now := s.now + d.pause.toNanos }

/-- Cancels the root, and with it every context. -/
def cancelRoot (s : ContextSet) : ContextSet :=
  { s with
    rootCancelledAt := some (s.rootCancelledAt.getD s.now)
    contexts := s.contexts.map fun c => c.cancel s.now }

/-- Cancels one context. -/
def cancel (s : ContextSet) (i : Nat) : ContextSet :=
  { s with contexts := s.contexts.modify i fun c => c.cancel s.now }

/-- Why a context is done, if it is. -/
def doneReason? (s : ContextSet) (i : Nat) : Option DoneReason :=
  s.contexts[i]?.bind fun c => c.doneReason? s.now

/-- The time from the origin to the deadline of a context. -/
def deadline? (s : ContextSet) (i : Nat) : Option Span :=
  s.contexts[i]?.map fun c => Instant.spanTo 0 c.deadline

/-- Waits until a context is done. -/
def waitDone (s : ContextSet) (i : Nat) : ContextSet × Option DoneReason :=
  match s.contexts[i]? with
  | none => (s, none)
  | some c =>
    let t := c.doneAt s.now .millis
    ({ s with now := t }, some (c.endReason {} t .millis))

end ContextSet

end AlertRelay
