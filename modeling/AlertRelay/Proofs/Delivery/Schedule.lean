import AlertRelay.Delivery.Schedule
import AlertRelay.Proofs.Time.Span

/-!
# Slots and deadlines

The slots of a channel are decided by the times at which they are asked for: `slotsFrom` lists them,
each one the rate limit after the slot before it or after its own request. So they are at least the
rate limit apart, and one that comes `n` slots later comes at least `n` times the rate limit later
(`add_le_of_slotsFrom`).

The time that a delivery gets is the sum of its parts, cut off once at the longest span
(`toNanos_deliveryTimeout`).
-/

namespace AlertRelay

/-- The next slot is the rate limit after the last one, or after the request if that is later. -/
theorem Schedule.next?_eq_map (s : Schedule) (now : Instant) :
    s.next? now = (Instant.after? (max s.last now) s.delay).map fun slot =>
      { s with last := slot } := by
  have hlater : (if s.last ≤ now then now else s.last) = max s.last now := by
    by_cases hpast : s.last ≤ now
    · rw [if_pos hpast, Nat.max_eq_right hpast]
    · rw [if_neg hpast, Nat.max_eq_left (Nat.le_of_not_le hpast)]
  rw [next?, hlater]

theorem Schedule.eq_of_next? {s s' : Schedule} {now : Instant} (h : s.next? now = some s') :
    s'.delay = s.delay ∧ s'.last = max s.last now + s.delay.toNanos := by
  rw [next?_eq_map] at h
  obtain ⟨slot, hslot, rfl⟩ := Option.map_eq_some_iff.1 h
  exact ⟨rfl, (Instant.after?_eq_some.1 hslot).2.symm⟩

/-- There is a next slot if there is such an instant. -/
theorem Schedule.next?_eq {s : Schedule} {now : Instant}
    (h : max s.last now + s.delay.toNanos < Instant.limit) :
    s.next? now = some { s with last := max s.last now + s.delay.toNanos } := by
  rw [next?_eq_map, Instant.after?_eq_some.2 ⟨h, rfl⟩]
  rfl

/-- There is no next slot if there is no such instant. -/
theorem Schedule.next?_eq_none {s : Schedule} {now : Instant}
    (h : Instant.limit ≤ max s.last now + s.delay.toNanos) : s.next? now = none := by
  rw [next?_eq_map, Instant.after?, if_neg (Nat.not_lt_of_le h)]
  rfl

/-- The time that a delivery gets is exact unless it is longer than any span. -/
theorem toNanos_deliveryTimeout (now : Instant) (base : Span) (slot : Instant) (retries : Nat)
    (retryDelay : Span) :
    (deliveryTimeout now base slot retries retryDelay).toNanos =
      min (base.toNanos + (slot - now) + retryDelay.toNanos * retries) Span.longest.toNanos := by
  rw [deliveryTimeout, Span.toNanos_add, Span.toNanos_add, Span.toNanos_mul, Instant.spanTo,
    Span.toNanos_ofNanos]
  omega

/-- The slots for requests at the given times, when the slot before them was `last`. -/
def slotsFrom (rate last : Nat) : List Instant → List Instant
  | [] => []
  | now :: rest => (max last now + rate) :: slotsFrom rate (max last now + rate) rest

/-- One more request is given the slot after the last one. -/
theorem slotsFrom_concat (rate last : Nat) (times : List Instant) (now : Instant) :
    slotsFrom rate last (times ++ [now]) = slotsFrom rate last times ++
      [max ((slotsFrom rate last times).getLastD last) now + rate] := by
  induction times generalizing last with
  | nil => rfl
  | cons t times ih =>
    have hlast : ∀ slots : List Instant, (((max last t + rate) :: slots).getLastD last) =
        slots.getLastD (max last t + rate) := fun slots => List.getLastD_cons
    rw [List.cons_append, slotsFrom, slotsFrom, ih, hlast]
    rfl

/-- The slots after `last` are at least the rate limit apart from it and from each other. -/
theorem last_add_le_of_slotsFrom {rate last : Nat} {times : List Instant} {i slot : Nat}
    (h : (slotsFrom rate last times)[i]? = some slot) :
    last + (i + 1) * rate ≤ slot := by
  induction times generalizing last i with
  | nil => cases h
  | cons now times ih =>
    have hlater : last ≤ max last now := Nat.le_max_left _ _
    cases i with
    | zero =>
      obtain rfl : max last now + rate = slot := Option.some.inj h
      omega
    | succ i =>
      have hrest : max last now + rate + (i + 1) * rate ≤ slot := ih h
      rw [Nat.add_mul (i + 1) 1, Nat.one_mul]
      omega

/-- A slot that comes some slots after another one comes that many times the rate limit later. -/
theorem add_le_of_slotsFrom {rate last : Nat} {times : List Instant} {i j slot later : Nat}
    (hij : i < j) (hi : (slotsFrom rate last times)[i]? = some slot)
    (hj : (slotsFrom rate last times)[j]? = some later) : slot + (j - i) * rate ≤ later := by
  induction times generalizing last i j with
  | nil => cases hi
  | cons now times ih =>
    cases j with
    | zero => exact absurd hij (Nat.not_lt_zero i)
    | succ j =>
      cases i with
      | zero =>
        obtain rfl : max last now + rate = slot := Option.some.inj hi
        exact last_add_le_of_slotsFrom hj
      | succ i =>
        rw [Nat.add_sub_add_right]
        exact ih (Nat.lt_of_succ_lt_succ hij) hi hj

/-- A slot comes at least the rate limit after its request. -/
theorem request_add_le_of_slotsFrom {rate last : Nat} {times : List Instant} {i now slot : Nat}
    (hi : times[i]? = some now)
    (h : (slotsFrom rate last times)[i]? = some slot) : now + rate ≤ slot := by
  induction times generalizing last i with
  | nil => cases h
  | cons t times ih =>
    cases i with
    | zero =>
      obtain rfl : t = now := Option.some.inj hi
      obtain rfl : max last t + rate = slot := Option.some.inj h
      exact Nat.add_le_add_right (Nat.le_max_right _ _) _
    | succ i => exact ih hi h

/-- Slots for requests that come no earlier than some time are at least the rate limit apart from it
and from each other. -/
theorem time_add_le_of_slotsFrom {rate last t : Nat} {times : List Instant} {i slot : Nat}
    (ht : ∀ now ∈ times, t ≤ now) (h : (slotsFrom rate last times)[i]? = some slot) :
    t + (i + 1) * rate ≤ slot := by
  cases times with
  | nil => cases h
  | cons now times =>
    have hsame : slotsFrom rate last (now :: times) =
        slotsFrom rate (max last now) (now :: times) := by
      rw [slotsFrom, slotsFrom, Nat.max_eq_left (Nat.le_max_right last now)]
    rw [hsame] at h
    have hnow : t ≤ max last now := Nat.le_trans (ht now List.mem_cons_self) (Nat.le_max_right _ _)
    exact Nat.le_trans (Nat.add_le_add_right hnow _) (last_add_le_of_slotsFrom h)

end AlertRelay
