import AlertRelay.Time.Span

/-!
# Systems on a clock

A `Clockwork` is a system that computes in no time. What it can do at an instant it does before the
clock moves, and the clock then jumps to the next instant at which something is due.
-/

namespace AlertRelay

/-- A system on a clock. -/
class Clockwork (σ : Type) where
  /-- The time of the clock. -/
  now : σ → Instant
  /-- The system after what it does next, if it can do anything at this instant. -/
  act? : σ → Option σ
  /-- The instants at which something will be due. -/
  due : σ → List Instant
  /-- Moves the clock. -/
  wait : Instant → σ → σ
  /-- An upper bound on all that the system can do by itself. -/
  effort : σ → Nat

namespace Clockwork

variable {σ : Type} [Clockwork σ]

/-- The earliest instant behind the present one at which something is due. -/
def nextDue? (s : σ) : Option Instant :=
  ((due s).filter (now s < ·)).min?

/-- Lets the system act until nothing is left to do or the steps are used up. -/
def settleFor : Nat → σ → σ
  | 0, s => s
  | steps + 1, s =>
    match act? s with
    | some s => settleFor steps s
    | none => s

/-- Lets the system act until nothing is left to do at this instant. -/
def settle (s : σ) : σ :=
  settleFor (effort s) s

/-- Acts and moves the clock until nothing is due before `limit`, or nothing at all if there is no
limit, or the steps are used up. -/
def runFor (limit : Option Instant) : Nat → σ → σ
  | 0, s => s
  | steps + 1, s =>
    let s := settle s
    match nextDue? s with
    | none => s
    | some t =>
      if limit.all fun u => t < u then runFor limit steps (wait t s) else s

/-- Lets the system run to the instant `t`. What is due at that instant itself is not done yet. -/
def runTo (t : Instant) (s : σ) : σ :=
  let s := runFor (some t) (effort s + 1) s
  wait (max (now s) t) s

/-- Lets the system run until nothing is left to wait for. -/
def runOut (s : σ) : σ :=
  runFor none (effort s + 1) s

end Clockwork

end AlertRelay
