import AlertRelay.Proofs.Delivery.Schedule

/-!
# The time of a delivery, exactly

The time that a delivery gets is computed on seconds and nanoseconds by three operations each of
which stops at the longest span. `exactTimeout` is the same sum in integers, without any limit. The
two agree up to one cut at the longest span, so no partial result that is too long and no carried
second shows in the outcome (`deliveryTimeout_eq`). Hence the outcome grows with the base time, the
slot, the number of retries and the pause between them, and shrinks with the present time; more
retries or longer pauses give strictly more time exactly as long as the longest span is not reached.
-/

namespace AlertRelay

/-! ### Seconds and nanoseconds -/

namespace Span

/-- The seconds of a span are the whole seconds of its length. -/
theorem seconds_eq_div (d : Span) : d.seconds = d.toNanos / nanosPerSecond := by
  rw [toNanos, Nat.mul_add_div (by decide), Nat.div_eq_of_lt d.nanos_lt, Nat.add_zero]

/-- The nanoseconds of a span are what is left of its length. -/
theorem nanos_eq_mod (d : Span) : d.nanos = d.toNanos % nanosPerSecond := by
  rw [toNanos, Nat.mul_add_mod, Nat.mod_eq_of_lt d.nanos_lt]

end Span

/-! ### The exact sum -/

/-- The nanoseconds that a delivery needs which is scheduled for `slot` at the time `now`: the base
time, the wait until the slot unless it is over, and all pauses. -/
def exactTimeout (now : Instant) (base : Span) (slot : Instant) (retries : Nat)
    (retryDelay : Span) : Int :=
  base.toNanos + max 0 ((slot : Int) - now) + retries * retryDelay.toNanos

section

variable {now now' slot slot' : Instant} {base base' retryDelay retryDelay' : Span}
  {retries retries' : Nat}

/-- The three operations together cut the exact sum off once. -/
theorem toNanos_deliveryTimeout_eq_min (now : Instant) (base : Span) (slot : Instant)
    (retries : Nat) (retryDelay : Span) :
    ((deliveryTimeout now base slot retries retryDelay).toNanos : Int) =
      min (exactTimeout now base slot retries retryDelay) Span.longest.toNanos := by
  have hwait : ((slot - now : Nat) : Int) = max 0 ((slot : Int) - now) := by
    unfold Instant at *
    omega
  rw [toNanos_deliveryTimeout, exactTimeout, ← hwait, Nat.mul_comm retryDelay.toNanos]
  omega

/-- The exact sum grows with each of its parts and shrinks with the present time. -/
theorem exactTimeout_mono (hnow : now' ≤ now) (hbase : base.toNanos ≤ base'.toNanos)
    (hslot : slot ≤ slot') (hretries : retries ≤ retries')
    (hdelay : retryDelay.toNanos ≤ retryDelay'.toNanos) :
    exactTimeout now base slot retries retryDelay ≤
      exactTimeout now' base' slot' retries' retryDelay' := by
  have hpauses : (retries * retryDelay.toNanos : Int) ≤ retries' * retryDelay'.toNanos := by
    exact_mod_cast Nat.mul_le_mul hretries hdelay
  unfold exactTimeout
  unfold Instant at *
  omega

/-- More pauses that take time make the exact sum greater. -/
theorem exactTimeout_lt_of_retries (hretries : retries < retries')
    (hdelay : 0 < retryDelay.toNanos) :
    exactTimeout now base slot retries retryDelay <
      exactTimeout now base slot retries' retryDelay := by
  have hpauses : (retries * retryDelay.toNanos : Int) < retries' * retryDelay.toNanos := by
    exact_mod_cast Nat.mul_lt_mul_of_pos_right hretries hdelay
  unfold exactTimeout
  omega

/-- Longer pauses make the exact sum greater if there are any. -/
theorem exactTimeout_lt_of_retryDelay (hretries : 0 < retries)
    (hdelay : retryDelay.toNanos < retryDelay'.toNanos) :
    exactTimeout now base slot retries retryDelay <
      exactTimeout now base slot retries retryDelay' := by
  have hpauses : (retries * retryDelay.toNanos : Int) < retries * retryDelay'.toNanos := by
    exact_mod_cast Nat.mul_lt_mul_of_pos_left hdelay hretries
  unfold exactTimeout
  omega

/-- A greater exact sum gives more time exactly as long as the smaller one is not cut off. -/
theorem deliveryTimeout_lt_iff
    (h : exactTimeout now base slot retries retryDelay <
      exactTimeout now' base' slot' retries' retryDelay') :
    (deliveryTimeout now base slot retries retryDelay).toNanos <
        (deliveryTimeout now' base' slot' retries' retryDelay').toNanos ↔
      exactTimeout now base slot retries retryDelay < Span.longest.toNanos := by
  have hless := toNanos_deliveryTimeout_eq_min now base slot retries retryDelay
  have hmore := toNanos_deliveryTimeout_eq_min now' base' slot' retries' retryDelay'
  omega

end

/-- The time that a delivery gets is the exact sum of the base time, the wait until its slot and all
pauses, cut off once at the longest span, with the seconds and nanoseconds of this number. So it is
monotone in the base time, the slot, the number of retries and the pause between them, and antitone
in the present time. One more retry gives more time if there is a pause between them, and a longer
pause does if there are retries, exactly as long as the smaller sum is below the limit. -/
theorem deliveryTimeout_eq (now : Instant) (base : Span) (slot : Instant) (retries : Nat)
    (retryDelay : Span) :
    let exact := exactTimeout now base slot retries retryDelay
    let limit : Int := Span.longest.toNanos
    let timeout := deliveryTimeout now base slot retries retryDelay
    ((timeout.toNanos : Int) = min exact limit ∧
      (timeout.seconds : Int) = min exact limit / nanosPerSecond ∧
      (timeout.nanos : Int) = min exact limit % nanosPerSecond) ∧
    (∀ now' base' slot' retries' retryDelay', now' ≤ now → base.toNanos ≤ base'.toNanos →
      slot ≤ slot' → retries ≤ retries' → retryDelay.toNanos ≤ retryDelay'.toNanos →
      timeout.toNanos ≤ (deliveryTimeout now' base' slot' retries' retryDelay').toNanos) ∧
    (∀ retries', retries < retries' → 0 < retryDelay.toNanos →
      (timeout.toNanos < (deliveryTimeout now base slot retries' retryDelay).toNanos ↔
        exact < limit)) ∧
    ∀ retryDelay', retryDelay.toNanos < retryDelay'.toNanos → 0 < retries →
      (timeout.toNanos < (deliveryTimeout now base slot retries retryDelay').toNanos ↔
        exact < limit) := by
  intro exact limit timeout
  have hvalue : (timeout.toNanos : Int) = min exact limit :=
    toNanos_deliveryTimeout_eq_min now base slot retries retryDelay
  refine ⟨⟨hvalue, ?seconds, ?nanos⟩, ?mono, ?retries, ?delay⟩
  case seconds =>
    rw [timeout.seconds_eq_div, ← hvalue]
    push_cast
    rfl
  case nanos =>
    rw [timeout.nanos_eq_mod, ← hvalue]
    push_cast
    rfl
  case mono =>
    intro now' base' slot' retries' retryDelay' hnow hbase hslot hretries hdelay
    have hvalue' := toNanos_deliveryTimeout_eq_min now' base' slot' retries' retryDelay'
    have hexact := exactTimeout_mono hnow hbase hslot hretries hdelay
    omega
  case retries =>
    intro retries' hretries hdelay
    exact deliveryTimeout_lt_iff (exactTimeout_lt_of_retries hretries hdelay)
  case delay =>
    intro retryDelay' hdelay hretries
    exact deliveryTimeout_lt_iff (exactTimeout_lt_of_retryDelay hretries hdelay)

/-- Just below the longest span: the wait of a nanosecond is carried over into the seconds, the
first retry gives a second more, and the second one as much as there is left. A third one gives
nothing. -/
theorem deliveryTimeout_near_limit :
    let base : Span := ⟨secondsLimit - 3, nanosPerSecond - 1, by decide, by decide⟩
    let timeout retries := deliveryTimeout 0 base 1 retries (.ofSeconds 1)
    ((timeout 1).seconds = secondsLimit - 1 ∧ (timeout 1).nanos = 0) ∧
      (timeout 1).toNanos < (timeout 2).toNanos ∧ ¬(timeout 2).toNanos < (timeout 3).toNanos := by
  intro base timeout
  have hpause : 0 < (Span.ofSeconds 1).toNanos := by decide
  obtain ⟨⟨-, hseconds, hnanos⟩, -, hfirst, -⟩ := deliveryTimeout_eq 0 base 1 1 (.ofSeconds 1)
  obtain ⟨-, -, hsecond, -⟩ := deliveryTimeout_eq 0 base 1 2 (.ofSeconds 1)
  have hbelow : exactTimeout 0 base 1 1 (.ofSeconds 1) < Span.longest.toNanos := by decide +kernel
  have habove : ¬exactTimeout 0 base 1 2 (.ofSeconds 1) < Span.longest.toNanos := by
    decide +kernel
  refine ⟨⟨?_, ?_⟩, (hfirst 2 (by decide) hpause).2 hbelow, fun hless => ?_⟩
  · exact Int.ofNat.inj (hseconds.trans (by decide +kernel))
  · exact Int.ofNat.inj (hnanos.trans (by decide +kernel))
  · exact habove ((hsecond 3 (by decide) hpause).1 hless)

end AlertRelay
