import AlertRelay.Pipeline.Lane
import AlertRelay.Time.Clockwork
import AlertRelay.Time.Plan

/-!
# A lane by itself

The worker of one channel with somebody who takes every result at once. `SoloRun.play` gives the
state when the worker is gone and all its results are taken, while records come in and the program
is cancelled at given times.
-/

namespace AlertRelay

/-- A lane, the results taken from it, and when the last one was. -/
structure SoloRun where
  moment : Moment := {}
  lane : Lane
  results : List (Instant × DeliveryResult) := []
  closedAt : Option Instant := none

namespace SoloRun

/-- The time. -/
def now (s : SoloRun) : Instant :=
  s.moment.now

/-- Moves the clock. -/
def wait (t : Instant) (s : SoloRun) : SoloRun :=
  { s with moment := { s.moment with now := t } }

/-- Cancels the program. Only the first cancellation counts. -/
def cancel (s : SoloRun) : SoloRun :=
  { s with
    moment := { s.moment with cancelledAt := some (s.moment.cancelledAt.getD s.now) } }

/-- Takes the next result, or notices that there will be no more. -/
def collect? (s : SoloRun) : Option SoloRun :=
  match s.lane.takeResult? with
  | some (r, lane) => some { s with lane, results := s.results ++ [(s.now, r)] }
  | none => if s.lane.isFinished then some { s with closedAt := some s.now } else none

/-- What happens next at this instant: cancellations by deliveries, then the lane, then results. -/
def act? (s : SoloRun) : Option SoloRun :=
  if s.closedAt.isSome then none
  else match s.lane.firstTrip? s.moment with
    | some lane => some ({ s with lane } : SoloRun).cancel
    | none =>
      match s.lane.internalEvent? s.moment |>.bind (s.lane.step? s.moment) with
      | some lane => some { s with lane }
      | none => s.collect?

instance : Clockwork SoloRun where
  now := SoloRun.now
  act? := SoloRun.act?
  due s := if s.closedAt.isSome then [] else s.lane.timers s.moment
  wait := SoloRun.wait
  effort s := 3 * s.lane.effort

/-- What is done to a lane from outside: a record comes in, or the program is cancelled. -/
inductive Directive where
  | submit (record : EventRecord)
  | cancel

/-- Follows a directive at once. A record that comes when the worker is gone is lost. -/
def follow (s : SoloRun) : Directive → SoloRun
  | .submit r => { s with lane := s.lane.offer r }
  | .cancel => s.cancel

/-- Follows a plan of directives and lets the lane come to its end. -/
def play (s : SoloRun) : Plan Directive → SoloRun
  | [] => Clockwork.runOut s
  | (t, d) :: rest => ((Clockwork.settle ((Clockwork.runTo t s).follow d))).play rest

/-- The calls that were made until the end. -/
def calls (s : SoloRun) : List Call :=
  s.lane.allCalls s.moment

end SoloRun

end AlertRelay
