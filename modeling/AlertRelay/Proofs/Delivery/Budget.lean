import AlertRelay.Proofs.Delivery.Course
import AlertRelay.Proofs.Time.Span

/-!
# The budget of a delivery

How late an attempt can begin is decided by how long the calls before it took and by the pauses
behind them (`latestStart`). So attempts that are given up for their deadline have spent the time up
to the deadline on calls and pauses (`Attempting.of_expired`), and attempts that all fail are not
given up before the last one that is allowed, if calls and pauses leave time enough for that one
(`Attempting.of_failing`).
-/

namespace AlertRelay

variable {α : Type}

theorem RetryPolicy.attempts_pos (p : RetryPolicy) : 0 < p.attempts :=
  Nat.lt_min.2 ⟨Nat.succ_pos _, by decide⟩

/-- There are no more pauses than retries. -/
theorem RetryPolicy.attempts_sub_one_le (p : RetryPolicy) : p.attempts - 1 ≤ p.retries :=
  Nat.sub_le_of_le_add (Nat.min_le_left _ _)

/-- How long a call takes. A call that hangs does not count. -/
def Attempt.took : Attempt α → Nat
  | .hangs => 0
  | .returns after _ _ => after

/-- How long `n` calls take, the first of which has number `number`. -/
def Transport.took (transport : Transport α) (number : Nat) : Nat → Nat
  | 0 => 0
  | n + 1 => (transport number).took + Transport.took transport (number + 1) n

/-- Each of the `n` calls from number `number` on returns with an error, and none of them cancels
the program. -/
def Transport.FailsFor (transport : Transport α) (number n : Nat) : Prop :=
  ∀ i, number ≤ i → i < number + n → ∃ after e, transport i = .returns after false (.error e)

theorem Transport.FailsFor.call {transport : Transport α} {number n : Nat}
    (h : transport.FailsFor number (n + 1)) :
    ∃ after e, transport number = .returns after false (.error e) :=
  h number (Nat.le_refl _) (Nat.lt_add_of_pos_right (Nat.succ_pos _))

theorem Transport.FailsFor.rest {transport : Transport α} {number n : Nat}
    (h : transport.FailsFor number (n + 1)) : transport.FailsFor (number + 1) n := by
  intro i hi hlt
  exact h i (by omega) (by omega)

/-- When attempt number `number` begins at `now`, the one after `n` more begins no later than
this. -/
def latestStart (policy : RetryPolicy) (transport : Transport α) (number now n : Nat) : Nat :=
  now + transport.took number n + n * policy.delay.toNanos

theorem latestStart_zero (policy : RetryPolicy) (transport : Transport α) (number now : Nat) :
    latestStart policy transport number now 0 = now := by
  simp [latestStart, Transport.took]

theorem le_latestStart (policy : RetryPolicy) (transport : Transport α) (number now n : Nat) :
    now ≤ latestStart policy transport number now n :=
  Nat.le_trans (Nat.le_add_right _ _) (Nat.le_add_right _ _)

/-- A pause ends no later than it is meant to. -/
theorem pauseEnd_le (c : Context) (delay : Span) (now : Instant) :
    pauseEnd c delay now ≤ now + delay.toNanos := by
  unfold pauseEnd
  split
  · exact Nat.le_add_right _ _
  · exact Nat.le_trans (Nat.min_le_left _ _) (Nat.add_le_add_left delay.toNanos_pause_le _)

@[simp] theorem Context.deadline_afterCall (c : Context) (cancelsRoot : Bool) (t : Instant) :
    (c.afterCall cancelsRoot t).deadline = c.deadline := by
  cases cancelsRoot <;> rfl

variable {policy : RetryPolicy} {transport : Transport α} {left number : Nat}
  {c : Context} {now : Instant} {last : Option DeliveryError} {t : Trace (Except DeliveryError α)}

/-- What is left of the time after a call and a pause is enough for one attempt less. -/
theorem latestStart_retry {after : Nat} {cancelsRoot : Bool} {outcome : Except DeliveryError α}
    (hcall : transport number = .returns after cancelsRoot outcome) (c : Context) (now n : Nat) :
    latestStart policy transport (number + 1) (pauseEnd c policy.delay (now + after)) n ≤
      latestStart policy transport number now (n + 1) := by
  have hpause : pauseEnd c policy.delay (now + after) ≤ now + after + policy.delay.toNanos :=
    pauseEnd_le c policy.delay (now + after)
  have htook : transport.took number (n + 1) = after + transport.took (number + 1) n := by
    rw [Transport.took, hcall, Attempt.took]
  calc pauseEnd c policy.delay (now + after) + transport.took (number + 1) n +
          n * policy.delay.toNanos
      ≤ now + after + policy.delay.toNanos + transport.took (number + 1) n +
          n * policy.delay.toNanos :=
        Nat.add_le_add_right (Nat.add_le_add_right hpause _) _
    _ = now + transport.took number (n + 1) + (n + 1) * policy.delay.toNanos := by
        rw [htook, Nat.add_mul, Nat.one_mul]
        omega

/-- Attempts that are given up for their deadline have made all calls in front of the attempt at
which they were given up, and the time up to the deadline has gone into these calls and the pauses
behind them. -/
theorem Attempting.of_expired (h : Attempting policy transport left c number now last t)
    {u : Instant} {k allowed : Nat} {e : Option DeliveryError}
    (hend : t.ending = .returns u (.error (.aborted k allowed .deadlineExceeded e))) :
    ∃ n ≤ left, k = number + n ∧ t.calls.map Prod.snd = List.range' number n ∧
      c.deadline ≤ latestStart policy transport number now n := by
  induction h with
  | abort hdone =>
    cases hend
    refine ⟨0, Nat.zero_le _, rfl, rfl, ?_⟩
    rw [latestStart_zero]
    exact Context.le_of_deadlineExceeded hdone
  | hang hlive hcall => cases hend
  | succeed hlive hcall => cases hend
  | exhaust hlive hcall => cases hend
  | @retry left number after c now _ _ _ _ hlive hcall hrest ih =>
    obtain ⟨n, hn, hk, hnumbers, hdeadline⟩ := ih hend
    rw [Context.deadline_afterCall] at hdeadline
    refine ⟨n + 1, Nat.succ_le_succ hn, ?_, ?_, ?_⟩
    · omega
    · rw [Trace.calls_addCall, List.map_cons, hnumbers, List.range'_succ]
    · exact Nat.le_trans hdeadline (latestStart_retry hcall _ now n)

/-- Attempts that all fail are made as often as they are allowed, if the last one may begin before
the deadline. -/
theorem Attempting.of_failing (h : Attempting policy transport left c number now last t)
    (hun : c.cancelledAt = none) (hfails : transport.FailsFor number (left + 1))
    (htime : latestStart policy transport number now left < c.deadline) :
    t.calls.map Prod.snd = List.range' number (left + 1) ∧
      ∀ call ∈ t.calls, call.1 < c.deadline := by
  have hnow : now < c.deadline := Nat.lt_of_le_of_lt (le_latestStart _ _ _ _ _) htime
  induction h with
  | abort hdone =>
    rw [Context.doneReason?_of_uncancelled hun, if_neg (Nat.not_le_of_lt hnow)] at hdone
    cases hdone
  | hang hlive hcall =>
    obtain ⟨_, _, hfail⟩ := hfails.call
    rw [hcall] at hfail
    cases hfail
  | succeed hlive hcall =>
    obtain ⟨_, _, hfail⟩ := hfails.call
    rw [hcall] at hfail
    cases hfail
  | exhaust hlive hcall =>
    refine ⟨rfl, fun call hmem => ?_⟩
    obtain rfl := List.mem_singleton.1 hmem
    exact hnow
  | @retry left number after c now _ cancelsRoot _ _ hlive hcall hrest ih =>
    obtain ⟨_, _, hfail⟩ := hfails.call
    have hkeeps : cancelsRoot = false := by
      rw [hcall] at hfail
      cases hfail
      rfl
    subst hkeeps
    have hlater : latestStart policy transport (number + 1)
        (pauseEnd c policy.delay (now + after)) left < c.deadline :=
      Nat.lt_of_le_of_lt (latestStart_retry hcall c now left) htime
    have hnext : pauseEnd c policy.delay (now + after) < c.deadline :=
      Nat.lt_of_le_of_lt (le_latestStart _ _ _ _ _) hlater
    obtain ⟨hnumbers, hearly⟩ := ih hun hfails.rest hlater hnext
    refine ⟨?_, fun call hmem => ?_⟩
    · rw [Trace.calls_addCall, List.map_cons, hnumbers]
      exact (List.range'_succ).symm
    · rcases List.mem_cons.1 hmem with rfl | hmem
      · exact hnow
      · exact hearly call hmem

end AlertRelay
