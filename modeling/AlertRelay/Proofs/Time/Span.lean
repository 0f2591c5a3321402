import AlertRelay.Time.Span
import Mathlib.Tactic.Common

/-!
# Arithmetic of spans

Spans are kept as seconds and nanoseconds and never exceed the longest one. Counted in nanoseconds
every operation is exact up to there: a sum or a multiple is the sum or multiple of the numbers, cut
off once at the longest span (`Span.toNanos_add`, `Span.toNanos_mul`). No instant lies that far
ahead (`Instant.limit_le_longest`).
-/

namespace AlertRelay

namespace Span

theorem toNanos_longest : longest.toNanos + 1 = nanosPerSecond * secondsLimit := by
  decide +kernel

/-- No span is longer than the longest one. -/
theorem toNanos_le_longest (d : Span) : d.toNanos ≤ longest.toNanos := by
  have hmost := toNanos_longest
  have hseconds : nanosPerSecond * (d.seconds + 1) ≤ nanosPerSecond * secondsLimit :=
    Nat.mul_le_mul_left _ d.seconds_lt
  have hnanos := d.nanos_lt
  rw [Nat.mul_add] at hseconds
  unfold toNanos at hmost ⊢
  omega

/-- Seconds and nanoseconds make a span as far as there is one. -/
theorem toNanos_clamp {nanos : Nat} (h : nanos < nanosPerSecond) (seconds : Nat) :
    (clamp seconds nanos).toNanos = min (nanosPerSecond * seconds + nanos) longest.toNanos := by
  unfold clamp
  by_cases hs : seconds < secondsLimit
  · rw [dif_pos ⟨hs, h⟩]
    exact (Nat.min_eq_left (toNanos_le_longest ⟨seconds, nanos, hs, h⟩)).symm
  · rw [dif_neg fun hboth => hs hboth.1]
    have hmost := toNanos_longest
    have hmany : nanosPerSecond * secondsLimit ≤ nanosPerSecond * seconds :=
      Nat.mul_le_mul_left _ (Nat.le_of_not_lt hs)
    omega

theorem toNanos_ofNanos (n : Nat) : (ofNanos n).toNanos = min n longest.toNanos := by
  rw [ofNanos, toNanos_clamp (Nat.mod_lt _ (by decide)), Nat.div_add_mod]

/-- A sum is exact unless it is longer than any span. -/
theorem toNanos_add (a b : Span) :
    (a.add b).toNanos = min (a.toNanos + b.toNanos) longest.toNanos := by
  have ha := a.nanos_lt
  have hb := b.nanos_lt
  unfold add
  dsimp only
  by_cases hcarry : a.nanos + b.nanos < nanosPerSecond
  · have hsum : nanosPerSecond * (a.seconds + b.seconds) + (a.nanos + b.nanos) =
        a.toNanos + b.toNanos := by
      rw [toNanos, toNanos, Nat.mul_add]
      omega
    rw [if_pos hcarry, toNanos_clamp hcarry, hsum]
  · have hless : a.nanos + b.nanos - nanosPerSecond < nanosPerSecond := by omega
    have hsum : nanosPerSecond * (a.seconds + b.seconds + 1) +
        (a.nanos + b.nanos - nanosPerSecond) = a.toNanos + b.toNanos := by
      rw [toNanos, toNanos, Nat.mul_add, Nat.mul_add]
      omega
    rw [if_neg hcarry, toNanos_clamp hless, hsum]

/-- A multiple is exact unless it is longer than any span. -/
theorem toNanos_mul (a : Span) (k : Nat) :
    (a.mul k).toNanos = min (a.toNanos * k) longest.toNanos := by
  have hnanos : a.nanos * k % nanosPerSecond < nanosPerSecond := Nat.mod_lt _ (by decide)
  have hproduct : nanosPerSecond * (a.seconds * k + a.nanos * k / nanosPerSecond) +
      a.nanos * k % nanosPerSecond = a.toNanos * k := by
    have hsplit := Nat.div_add_mod (a.nanos * k) nanosPerSecond
    rw [toNanos, Nat.mul_add, Nat.add_mul, Nat.mul_assoc]
    omega
  unfold mul
  dsimp only
  rw [toNanos_clamp hnanos, hproduct]

/-- A pause lasts as long as it is meant to, up to the longest one. -/
theorem toNanos_pause (d : Span) :
    d.pause.toNanos = min d.toNanos longestPause.toNanos := by
  unfold pause
  split
  · rename_i hlong
    exact (Nat.min_eq_right (Nat.le_of_lt hlong)).symm
  · rename_i hshort
    exact (Nat.min_eq_left (Nat.le_of_not_lt hshort)).symm

/-- A pause lasts no longer than it is meant to. -/
theorem toNanos_pause_le (d : Span) : d.pause.toNanos ≤ d.toNanos :=
  d.toNanos_pause ▸ Nat.min_le_left _ _

end Span

namespace Instant

/-- No instant lies as far ahead as the longest span. -/
theorem limit_le_longest : limit ≤ Span.longest.toNanos := by
  decide +kernel

theorem after?_eq_some {t u : Instant} {d : Span} :
    t.after? d = some u ↔ t + d.toNanos < limit ∧ t + d.toNanos = u := by
  unfold after?
  split
  · rename_i hlt
    simp [hlt]
  · rename_i hlt
    simp [hlt]

end Instant

end AlertRelay
