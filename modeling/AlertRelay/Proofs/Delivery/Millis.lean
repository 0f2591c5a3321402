import AlertRelay.Proofs.Delivery.Retry

/-!
# Whole milliseconds

The timers of the program ring on whole milliseconds (`Timers.millis`). Lanes are looked at with
exact timers. This makes no difference as long as slots, deadlines, pauses and calls are whole
milliseconds: with both, a delivery makes the same calls at the same times and returns the same at
the same time, whenever it is cancelled (`Sender.send_millis`).

The attempts are followed one by one (`attemptsFrom_millis`). Each of them begins on a whole
millisecond or finds its context done; in the second case no timer is set any more, so that nothing
need be known of a pause that a cancellation has cut short.
-/

namespace AlertRelay

/-- Whole milliseconds are not rounded. -/
theorem Timers.millis_ring {t : Instant} (h : nanosPerMilli ∣ t) : millis.ring t = t := by
  obtain ⟨k, rfl⟩ := h
  have hround : (nanosPerMilli * k + (nanosPerMilli - 1)) / nanosPerMilli = k := by
    rw [Nat.mul_add_div (by decide), Nat.div_eq_of_lt (by decide), Nat.add_zero]
  exact congrArg (nanosPerMilli * ·) hround

/-- The longest pause is a whole number of milliseconds. -/
theorem Span.dvd_pause {d : Span} (h : nanosPerMilli ∣ d.toNanos) :
    nanosPerMilli ∣ d.pause.toNanos := by
  unfold pause
  split
  · exact ⟨946080000000, rfl⟩
  · exact h

section Waits

variable {c : Context} {now : Instant}

theorem Context.doneAt_millis (hdeadline : nanosPerMilli ∣ c.deadline) :
    c.doneAt now .millis = c.doneAt now := by
  unfold doneAt
  rw [Timers.millis_ring hdeadline]
  rfl

theorem Context.endReason_millis (hdeadline : nanosPerMilli ∣ c.deadline) (choice : Choice) :
    c.endReason choice now .millis = c.endReason choice now := by
  unfold endReason
  rw [Timers.millis_ring hdeadline]
  rfl

/-- A wait for a whole millisecond. -/
theorem waitForSlot_millis {slot : Instant} (hdeadline : nanosPerMilli ∣ c.deadline)
    (hslot : nanosPerMilli ∣ slot) (choice : Choice) (channel : Channel) :
    waitForSlot c choice channel slot now .millis = waitForSlot c choice channel slot now := by
  unfold waitForSlot
  simp only [Timers.millis_ring hslot, Context.doneAt_millis hdeadline,
    Context.endReason_millis hdeadline]
  rfl

/-- A pause that begins on a whole millisecond, if there is one at all. -/
theorem pauseEnd_millis {delay : Span} (hdeadline : nanosPerMilli ∣ c.deadline)
    (hdelay : nanosPerMilli ∣ delay.toNanos) (hnow : nanosPerMilli ∣ now) :
    pauseEnd c delay now .millis = pauseEnd c delay now := by
  unfold pauseEnd
  rw [Timers.millis_ring (Nat.dvd_add hnow (Span.dvd_pause hdelay)),
    Context.doneAt_millis hdeadline]
  rfl

/-- A pause after which there is another attempt ends on a whole millisecond as well. -/
theorem dvd_pauseEnd {delay : Span} (hdelay : nanosPerMilli ∣ delay.toNanos)
    (hnow : nanosPerMilli ∣ now) (hlive : c.doneReason? (pauseEnd c delay now) = none) :
    nanosPerMilli ∣ pauseEnd c delay now := by
  rw [pauseEnd_of_live hlive]
  exact Nat.dvd_add hnow (Span.dvd_pause hdelay)

end Waits

/-- The calls of a transport take whole milliseconds. -/
def Transport.TakesMillis {α : Type} (transport : Transport α) : Prop :=
  ∀ n after cancelsRoot outcome, transport n = .returns after cancelsRoot outcome →
    nanosPerMilli ∣ after

section Attempts

variable {α : Type} {policy : RetryPolicy} {transport : Transport α} {c : Context}
  {now : Instant}

/-- Attempts that begin on a whole millisecond or not at all. -/
theorem attemptsFrom_millis (htransport : transport.TakesMillis)
    (hdelay : nanosPerMilli ∣ policy.delay.toNanos) (hdeadline : nanosPerMilli ∣ c.deadline)
    (hnow : c.doneReason? now = none → nanosPerMilli ∣ now) (left number : Nat)
    (last : Option DeliveryError) :
    attemptsFrom policy transport .millis left c number now last =
      attemptsFrom policy transport .exact left c number now last := by
  induction left generalizing c number now last with
  | zero =>
    rw [attemptsFrom, attemptsFrom]
    cases c.doneReason? now with
    | some reason => rfl
    | none =>
      cases transport number with
      | hangs => rfl
      | returns after cancelsRoot outcome => cases outcome <;> rfl
  | succ left ih =>
    rw [attemptsFrom, attemptsFrom]
    cases hlive : c.doneReason? now with
    | some reason => rfl
    | none =>
      cases hcall : transport number with
      | hangs => rfl
      | returns after cancelsRoot outcome =>
        cases outcome with
        | ok value => rfl
        | error e =>
          have hend : nanosPerMilli ∣ now + after :=
            Nat.dvd_add (hnow hlive) (htransport number after cancelsRoot _ hcall)
          have hdeadline' : nanosPerMilli ∣ (c.afterCall cancelsRoot (now + after)).deadline := by
            rwa [c.deadline_afterCall]
          refine congrArg (Trace.addCall (now, number) (cancellation cancelsRoot (now + after))) ?_
          refine Eq.trans ?_ (ih hdeadline' (dvd_pauseEnd hdelay hend) (number + 1) (some e))
          exact congrArg (attemptsFrom policy transport .millis left _ (number + 1) · (some e))
            (pauseEnd_millis hdeadline' hdelay hend)

end Attempts

/-- Timers that ring on whole milliseconds are exact for a delivery that is set to whole
milliseconds only. -/
theorem Sender.send_millis {s : Sender} {transport : Transport Unit} {c : Context}
    {slot now : Instant} (hdelay : nanosPerMilli ∣ s.settings.retryDelay.toNanos)
    (htransport : transport.TakesMillis) (hdeadline : nanosPerMilli ∣ c.deadline)
    (hslot : nanosPerMilli ∣ slot) (hnow : nanosPerMilli ∣ now) (clock : String) (choice : Choice) :
    s.send clock choice transport c slot now .millis =
      s.send clock choice transport c slot now := by
  have hready : nanosPerMilli ∣ max now slot := by
    rcases Nat.le_total now slot with hle | hle
    · rwa [Nat.max_eq_right hle]
    · rwa [Nat.max_eq_left hle]
  rw [send_eq, send_eq, waitForSlot_millis hdeadline hslot]
  split
  · rfl
  · dsimp only
    split
    · rfl
    · rename_i hkept
      rw [(live_of_waitForSlot hkept).1]
      exact congrArg _
        (attemptsFrom_millis htransport hdelay hdeadline (fun _ => hready) _ 1 none)

end AlertRelay
