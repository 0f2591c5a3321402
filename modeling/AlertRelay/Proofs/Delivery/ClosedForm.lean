import AlertRelay.Proofs.Delivery.Schedule

/-!
# Slots in closed form

Slots are given out one after the other, each from the one before. `nthSlot` says at once when slot
number `k` is: the latest of `k` times the rate limit after the start, and of each request so far
with the rate limit once for every slot from its own one on. It does not matter in which order the
times of the requests are.

A sequence that has the slots at least the rate limit apart and each one at least the rate limit
behind its request keeps the pace (`KeepsPace`). The slots in closed form are the least sequence
that does (`keepsPace_nthSlot`, `KeepsPace.nthSlot_le`), so there is no needless backlog. They are
given out as far as there are such instants (`Schedule.slots_closed_form`).
-/

namespace AlertRelay

/-- Slot number `k`, when slot number 0 is at `start` and the requests come at these times. -/
def nthSlot (rate start : Nat) (times : List Instant) (k : Nat) : Instant :=
  ((times.take k).mapIdx fun i now => now + (k - i) * rate).foldl max (start + k * rate)

/-- Slots that keep a rate limit, for requests at these times. Slot number 0 is before all requests,
and request number `k` is for slot number `k + 1`. -/
structure KeepsPace (rate start : Nat) (times : List Instant) (slot : Nat → Instant) : Prop where
  /-- No slot is in front of the start. -/
  started : start ≤ slot 0
  /-- Slots are at least the rate limit apart. -/
  spaced : ∀ i j, i < j → j ≤ times.length → slot i + (j - i) * rate ≤ slot j
  /-- Slots are at least the rate limit behind their requests. -/
  behind : ∀ k now, times[k]? = some now → now + rate ≤ slot (k + 1)

variable {rate start now k : Nat} {times : List Instant}

/-! ### The closed form and the recursion -/

@[simp] theorem nthSlot_zero (rate start : Nat) (times : List Instant) :
    nthSlot rate start times 0 = start := by
  simp [nthSlot]

/-- The slots behind the first one are those of a schedule that starts with it. -/
theorem nthSlot_cons (rate start now : Nat) (times : List Instant) (k : Nat) :
    nthSlot rate start (now :: times) (k + 1) = nthSlot rate (max start now + rate) times k := by
  have hfirst : max (start + (k + 1) * rate) (now + (k + 1 - 0) * rate) =
      max start now + rate + k * rate := by
    rw [Nat.sub_zero, Nat.add_max_add_right, Nat.add_mul, Nat.one_mul]
    omega
  rw [nthSlot, nthSlot, List.take_succ_cons, List.mapIdx_cons, List.foldl_cons, hfirst]
  simp only [Nat.add_sub_add_right]

/-- The next slot is the rate limit after the slot before it, or after its request if that is
later. -/
theorem nthSlot_succ (h : times[k]? = some now) :
    nthSlot rate start times (k + 1) = max (nthSlot rate start times k) now + rate := by
  induction times generalizing start k with
  | nil => cases h
  | cons first times ih =>
    rw [nthSlot_cons]
    cases k with
    | zero =>
      obtain rfl : first = now := Option.some.inj h
      rw [nthSlot_zero, nthSlot_zero]
    | succ k => rw [nthSlot_cons, ih h]

/-- The closed form is that of the slots that are given out one after the other. -/
theorem getElem?_slotsFrom (h : k < times.length) :
    (slotsFrom rate start times)[k]? = some (nthSlot rate start times (k + 1)) := by
  induction times generalizing start k with
  | nil => exact absurd h (Nat.not_lt_zero k)
  | cons first times ih =>
    rw [nthSlot_cons, slotsFrom]
    cases k with
    | zero => rw [nthSlot_zero, List.getElem?_cons_zero]
    | succ k => rw [List.getElem?_cons_succ, ih (Nat.lt_of_succ_lt_succ h)]

/-! ### The least slots that keep the pace -/

/-- The slots in closed form keep the pace. -/
theorem keepsPace_nthSlot (rate start : Nat) (times : List Instant) :
    KeepsPace rate start times (nthSlot rate start times) where
  started := Nat.le_of_eq (nthSlot_zero rate start times).symm
  spaced := by
    intro i j hij hj
    obtain ⟨j, rfl⟩ := Nat.exists_eq_add_one_of_ne_zero (Nat.ne_zero_of_lt hij)
    have hlater : (slotsFrom rate start times)[j]? = some (nthSlot rate start times (j + 1)) :=
      getElem?_slotsFrom hj
    by_cases hi : i = 0
    · subst hi
      rw [nthSlot_zero]
      exact last_add_le_of_slotsFrom hlater
    · obtain ⟨i, rfl⟩ := Nat.exists_eq_add_one_of_ne_zero hi
      have hearlier : i < j := Nat.lt_of_succ_lt_succ hij
      rw [Nat.add_sub_add_right]
      exact add_le_of_slotsFrom hearlier (getElem?_slotsFrom (Nat.lt_trans hearlier hj)) hlater
  behind := by
    intro k now hnow
    rw [nthSlot_succ hnow]
    exact Nat.add_le_add_right (Nat.le_max_right _ _) rate

/-- No slots that keep the pace come earlier than those in closed form. -/
theorem KeepsPace.nthSlot_le {slot : Nat → Instant} (h : KeepsPace rate start times slot)
    (hk : k ≤ times.length) : nthSlot rate start times k ≤ slot k := by
  induction k with
  | zero =>
    rw [nthSlot_zero]
    exact h.started
  | succ k ih =>
    have hnow : times[k]? = some times[k] := List.getElem?_eq_getElem hk
    have hspaced : slot k + rate ≤ slot (k + 1) := by
      have hnext := h.spaced k (k + 1) (Nat.lt_succ_self k) hk
      rwa [Nat.add_sub_cancel_left, Nat.one_mul] at hnext
    have hbehind : times[k] + rate ≤ slot (k + 1) := h.behind k _ hnow
    have hbefore : nthSlot rate start times k + rate ≤ slot k + rate :=
      Nat.add_le_add_right (ih (Nat.le_of_succ_le hk)) rate
    rw [nthSlot_succ hnow, ← Nat.add_max_add_right]
    exact Nat.max_le.2 ⟨Nat.le_trans hbefore hspaced, hbehind⟩

/-- No slot comes before the start. -/
theorem le_nthSlot (rate start : Nat) (times : List Instant) {k : Nat} (hk : k ≤ times.length) :
    start ≤ nthSlot rate start times k := by
  rcases Nat.eq_zero_or_pos k with rfl | hpos
  · exact Nat.le_of_eq (nthSlot_zero rate start times).symm
  · have hspaced := (keepsPace_nthSlot rate start times).spaced 0 k hpos hk
    rw [nthSlot_zero] at hspaced
    exact Nat.le_trans (Nat.le_add_right _ _) hspaced

/-! ### Slots that are given out -/

namespace Schedule

variable {s : Schedule} {t : Instant}

/-- A slot that is an instant is given out, and the next ones follow it. -/
theorem slots_cons_of_lt (h : max s.last now + s.delay.toNanos < Instant.limit) :
    s.slots (now :: times) = some (max s.last now + s.delay.toNanos) ::
      { s with last := max s.last now + s.delay.toNanos }.slots times := by
  rw [slots, next?_eq h]

/-- Behind a slot that there is no instant for there are no more slots. -/
theorem slots_cons_of_le (h : Instant.limit ≤ max s.last now + s.delay.toNanos) :
    s.slots (now :: times) = [none] := by
  rw [slots, next?_eq_none h]

/-- A slot is given out if there is an instant for it: the one in closed form. -/
theorem getElem?_slots_eq_some_iff :
    (s.slots times)[k]? = some (some t) ↔
      k < times.length ∧ t = nthSlot s.delay.toNanos s.last times (k + 1) ∧ t < Instant.limit := by
  induction times generalizing s k with
  | nil => simp [slots]
  | cons now times ih =>
    rw [nthSlot_cons, List.length_cons]
    rcases Nat.lt_or_ge (max s.last now + s.delay.toNanos) Instant.limit with hlt | hge
    · rw [slots_cons_of_lt hlt]
      cases k with
      | zero =>
        rw [nthSlot_zero, List.getElem?_cons_zero]
        constructor
        · intro h
          obtain rfl := Option.some.inj (Option.some.inj h)
          exact ⟨Nat.succ_pos _, rfl, hlt⟩
        · rintro ⟨-, rfl, -⟩
          rfl
      | succ k => rw [List.getElem?_cons_succ, ih, Nat.succ_lt_succ_iff]
    · rw [slots_cons_of_le hge]
      constructor
      · intro h
        cases k <;> cases h
      · rintro ⟨hk, rfl, hlimit⟩
        have hfirst := le_nthSlot s.delay.toNanos (max s.last now + s.delay.toNanos) times
          (Nat.le_of_lt_succ hk)
        exact absurd (Nat.lt_of_le_of_lt hfirst hlimit) (Nat.not_lt_of_le hge)

/-- A request fails if it is the first one whose slot is at no instant. -/
theorem getElem?_slots_eq_none_iff :
    (s.slots times)[k]? = some none ↔
      k < times.length ∧ Instant.limit ≤ nthSlot s.delay.toNanos s.last times (k + 1) ∧
        ∀ j < k, nthSlot s.delay.toNanos s.last times (j + 1) < Instant.limit := by
  induction times generalizing s k with
  | nil => simp [slots]
  | cons now times ih =>
    simp only [nthSlot_cons, List.length_cons]
    rcases Nat.lt_or_ge (max s.last now + s.delay.toNanos) Instant.limit with hlt | hge
    · rw [slots_cons_of_lt hlt]
      cases k with
      | zero =>
        rw [nthSlot_zero, List.getElem?_cons_zero]
        constructor
        · intro h
          cases Option.some.inj h
        · rintro ⟨-, hlimit, -⟩
          exact absurd hlt (Nat.not_lt_of_le hlimit)
      | succ k =>
        rw [List.getElem?_cons_succ, ih, Nat.succ_lt_succ_iff, Nat.forall_lt_succ_left]
        simp only [nthSlot_zero, hlt, true_and]
    · rw [slots_cons_of_le hge]
      cases k with
      | zero => simpa using hge
      | succ k =>
        constructor
        · intro h
          cases h
        · rintro ⟨-, -, hearlier⟩
          have hfirst := hearlier 0 (Nat.succ_pos k)
          rw [nthSlot_zero] at hfirst
          exact absurd hfirst (Nat.not_lt_of_le hge)

/-- The slots for requests in any order of their times are those in closed form, up to the first one
that there is no instant for. They are the least ones that keep the pace, and a slot is just the
rate limit behind its request if the slot before it is over then. -/
theorem slots_closed_form (s : Schedule) (times : List Instant) :
    let slot := nthSlot s.delay.toNanos s.last times
    (∀ k t, (s.slots times)[k]? = some (some t) ↔
      k < times.length ∧ t = slot (k + 1) ∧ t < Instant.limit) ∧
    (∀ k, (s.slots times)[k]? = some none ↔
      k < times.length ∧ Instant.limit ≤ slot (k + 1) ∧ ∀ j < k, slot (j + 1) < Instant.limit) ∧
    slot 0 = s.last ∧
    KeepsPace s.delay.toNanos s.last times slot ∧
    (∀ slot', KeepsPace s.delay.toNanos s.last times slot' →
      ∀ k ≤ times.length, slot k ≤ slot' k) ∧
    ∀ k now, times[k]? = some now → slot k ≤ now → slot (k + 1) = now + s.delay.toNanos := by
  intro slot
  refine ⟨fun k t => getElem?_slots_eq_some_iff, fun k => getElem?_slots_eq_none_iff,
    nthSlot_zero _ _ _, keepsPace_nthSlot _ _ _, ?least, ?resumed⟩
  case least =>
    intro slot' hslot' k hk
    exact hslot'.nthSlot_le hk
  case resumed =>
    intro k now hnow hover
    have hnext : slot (k + 1) = max (slot k) now + s.delay.toNanos := nthSlot_succ hnow
    rw [hnext, Nat.max_eq_right hover]

/-- Of four requests the second one is out of order and gets the slot behind the first, and the
third one has its slot at no instant. -/
theorem unsorted_slots :
    let s : Schedule := ⟨⟨1, 0, by decide, by decide⟩, 0⟩
    let times : List Instant := [50 * nanosPerSecond, 0, Instant.limit - 1, 0]
    (s.slots times)[1]? = some (some (52 * nanosPerSecond)) ∧ (s.slots times)[2]? = some none ∧
      nthSlot s.delay.toNanos s.last times 1 = 50 * nanosPerSecond + s.delay.toNanos := by
  intro s times
  obtain ⟨hgiven, hfailed, -, -, -, hresumed⟩ := slots_closed_form s times
  refine ⟨(hgiven 1 _).2 ?_, (hfailed 2).2 ?_, hresumed 0 _ rfl ?_⟩
  · decide +kernel
  · decide +kernel
  · decide +kernel

end Schedule

end AlertRelay
