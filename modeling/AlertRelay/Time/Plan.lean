import AlertRelay.Time.Span

/-!
# Plans

A `Plan` is a list of steps, each with the time that it is meant for. Steps are taken in the order
of the list, so a step that is meant for an earlier time than the one before it is taken together
with that one. `Plan.taken` gives the times at which steps are really taken.
-/

namespace AlertRelay

/-- Steps and the times that they are meant for. -/
abbrev Plan (α : Type) := List (Instant × α)

namespace Plan

variable {α : Type}

/-- The steps with the times at which they are taken when the clock shows `now`. -/
def takenFrom (now : Instant) : Plan α → Plan α
  | [] => []
  | (t, step) :: rest => (max now t, step) :: takenFrom (max now t) rest

/-- The steps with the times at which they are taken. -/
def taken (plan : Plan α) : Plan α :=
  takenFrom 0 plan

/-- The time of the last step, or 0 if there is none. -/
def finish (plan : Plan α) : Instant :=
  plan.foldl (fun t step => max t step.1) 0

/-- The steps meant for the time `t` or an earlier one. -/
def upTo (t : Instant) (plan : Plan α) : List α :=
  (plan.filter fun step => step.1 ≤ t).map Prod.snd

end Plan

end AlertRelay
