import AlertRelay.Proofs.Ledger
import Mathlib.Data.List.Induction
import Mathlib.Logic.Relation

/-!
# The order in which increments are counted

An increment that finds room in the queue is counted behind all that are in the queue. One that
waits outside may be overtaken by any other: the waiting increments enter in whatever order room is
found, and a new increment may take the room that one of them waits for.

`Ledger.Ahead u v` says that at every point of the queue at least as many `v` as `u` will have been
counted. It is kept as long as no `v` waits outside and at least as many `v` as `u` were submitted
(`Ahead.of_append`). But once an increment waits outside, all others may be counted before it
(`Ledger.exists_settled_but`).
-/

namespace AlertRelay

namespace Ledger

/-- How many increments were submitted in all. -/
def total (l : Ledger) : Nat :=
  l.published.length + l.queue.length + l.overflow.length

/-- At every point of the queue, no more `u` than `v` will have been counted. -/
def Ahead (l : Ledger) (u v : Update) : Prop :=
  ∀ us, us <+: l.queue → l.counters.count u + us.count u ≤ l.counters.count v + us.count v

variable {l l' : Ledger} {e : LedgerEvent}

/-- Recording adds one increment. -/
theorem total_record (l : Ledger) (u : Update) : (l.record u).total = l.total + 1 := by
  unfold record total
  split
  · simp only [List.length_append, List.length_singleton]
    omega
  · simp only [List.length_append, List.length_singleton]
    omega

theorem total_tally (l : Ledger) (r : DeliveryResult) :
    (l.tally r).total = l.total + r.update?.toList.length := by
  unfold tally
  cases r.update? with
  | some u => exact total_record l u
  | none => rfl

/-- The bookkeeper adds no increment and loses none. -/
theorem total_step (he : e.isOwn = true) (h : l.step? e = some l') : l'.total = l.total := by
  cases e with
  | record u => cases he
  | enter i =>
    obtain ⟨u, hu, -, rfl⟩ := eq_of_enter? h
    obtain ⟨hi, -⟩ := List.getElem?_eq_some_iff.1 hu
    simp only [total, List.length_append, List.length_singleton, List.length_eraseIdx, if_pos hi]
    omega
  | apply =>
    obtain ⟨u, rest, hq, -, rfl⟩ := eq_of_take? h
    simp only [total, hq, List.length_append, List.length_cons, List.length_nil]
    omega
  | summarise => rw [eq_of_summarise h]
  | close => cases he
  | finish =>
    obtain ⟨-, -, -, -, rfl⟩ := eq_of_finish? h
    rfl

/-! ### What waits outside -/

/-- As long as nothing is counted, the first increments are in the queue and the others wait. -/
theorem foldl_record (capacity : Nat) (us : List Update) :
    us.foldl record { capacity } =
      { capacity, queue := us.take capacity, overflow := us.drop capacity } := by
  induction us using List.reverseRecOn with
  | nil => rw [List.take_nil, List.drop_nil]; rfl
  | append_singleton us u ih =>
    rw [List.foldl_append, ih]
    by_cases hroom : us.length < capacity
    · have hlength : (us ++ [u]).length ≤ capacity := by
        rw [List.length_append]
        exact hroom
      rw [List.take_of_length_le hlength, List.drop_of_length_le hlength,
        List.take_of_length_le (Nat.le_of_lt hroom), List.drop_of_length_le (Nat.le_of_lt hroom)]
      exact if_pos hroom
    · have hlength : capacity ≤ us.length := Nat.le_of_not_lt hroom
      rw [List.take_append_of_le_length hlength, List.drop_append_of_le_length hlength]
      refine if_neg ?_
      rw [List.length_take_of_le hlength]
      exact Nat.lt_irrefl _


/-- An increment that finds room does not wait. -/
theorem overflow_record_of_room (hroom : l.queue.length < l.capacity) (u : Update) :
    (l.record u).overflow = l.overflow := by
  rw [record, if_pos hroom]

/-- An increment waits for room if it waited before or was just recorded. -/
theorem mem_overflow_record {u v : Update} (h : v ∈ (l.record u).overflow) :
    v ∈ l.overflow ∨ v = u := by
  unfold record at h
  split at h
  · exact .inl h
  · exact (List.mem_append.1 h).imp_right List.mem_singleton.1

theorem mem_overflow_tally {r : DeliveryResult} {v : Update} (h : v ∈ (l.tally r).overflow) :
    v ∈ l.overflow ∨ r.update? = some v := by
  unfold tally at h
  split at h
  · rename_i u hu
    rcases mem_overflow_record h with hmem | rfl
    · exact .inl hmem
    · exact .inr hu
  · exact .inl h

/-- Only increments that are submitted come to wait. -/
theorem mem_overflow_step (he : e.isOwn = true) (h : l.step? e = some l') {v : Update}
    (hv : v ∈ l'.overflow) : v ∈ l.overflow := by
  cases e with
  | record u => cases he
  | enter i =>
    obtain ⟨u, -, -, rfl⟩ := eq_of_enter? h
    exact List.mem_of_mem_eraseIdx hv
  | apply =>
    obtain ⟨u, rest, -, -, rfl⟩ := eq_of_take? h
    exact hv
  | summarise => rwa [eq_of_summarise h] at hv
  | close => cases he
  | finish =>
    obtain ⟨-, -, -, -, rfl⟩ := eq_of_finish? h
    exact hv

/-! ### As long as nothing waits outside -/

/-- The order is kept when an increment comes to the end of the queue, if as many `v` as `u` were
submitted then and no `v` waits. -/
theorem Ahead.of_append {u v w : Update} (hl : l.Ahead u v) (hqueue : l'.queue = l.queue ++ [w])
    (hcounters : l'.counters = l.counters) (hsubmitted : l'.submitted u ≤ l'.submitted v)
    (hwaits : v ∉ l'.overflow) : l'.Ahead u v := by
  intro us hus
  rw [hqueue] at hus
  rcases List.prefix_concat_iff.1 hus with rfl | hus
  · have hnone : l'.overflow.count v = 0 := List.count_eq_zero.2 hwaits
    simp only [submitted, hqueue] at hsubmitted
    omega
  · rw [hcounters]
    exact hl us hus

/-- An increment stays ahead of another one when more are recorded. -/
theorem Ahead.record {u v : Update} (hl : l.Ahead u v) (w : Update)
    (hsubmitted : (l.record w).submitted u ≤ (l.record w).submitted v)
    (hwaits : v ∉ (l.record w).overflow) : (l.record w).Ahead u v := by
  by_cases hroom : l.queue.length < l.capacity
  · have hqueue : (l.record w).queue = l.queue ++ [w] := by rw [Ledger.record, if_pos hroom]
    exact hl.of_append hqueue (l.counters_record w) hsubmitted hwaits
  · have hqueue : (l.record w).queue = l.queue := by rw [Ledger.record, if_neg hroom]
    intro us hus
    rw [hqueue] at hus
    rw [counters_record]
    exact hl us hus

theorem Ahead.tally {u v : Update} (hl : l.Ahead u v) (r : DeliveryResult)
    (hsubmitted : (l.tally r).submitted u ≤ (l.tally r).submitted v)
    (hwaits : v ∉ (l.tally r).overflow) : (l.tally r).Ahead u v := by
  cases hr : r.update? with
  | none =>
    rw [Ledger.tally, hr]
    exact hl
  | some w =>
    rw [Ledger.tally, hr] at hsubmitted hwaits ⊢
    exact hl.record w hsubmitted hwaits

/-- An increment stays ahead of another one that does not wait for room. -/
theorem Ahead.step {u v : Update} (hl : l.Ahead u v) (he : e.isOwn = true)
    (h : l.step? e = some l') (hsubmitted : l.submitted u ≤ l.submitted v)
    (hwaits : v ∉ l.overflow) : l'.Ahead u v := by
  have hsubmitted' : l'.submitted u ≤ l'.submitted v := by
    rw [submitted_step he h, submitted_step he h]
    exact hsubmitted
  cases e with
  | record w => cases he
  | enter i =>
    obtain ⟨w, hw, -, rfl⟩ := eq_of_enter? h
    exact hl.of_append rfl rfl hsubmitted' fun hmem => hwaits (List.mem_of_mem_eraseIdx hmem)
  | apply =>
    obtain ⟨w, rest, hq, -, rfl⟩ := eq_of_take? h
    intro us hus
    have hfirst := hl (w :: us) (by rw [hq]; exact (List.prefix_cons_inj w).2 hus)
    simp only [Counters.count_apply, List.count_cons, beq_iff_eq] at hfirst ⊢
    omega
  | summarise => rwa [eq_of_summarise h]
  | close => cases he
  | finish =>
    obtain ⟨-, -, -, -, rfl⟩ := eq_of_finish? h
    exact hl

/-! ### Once an increment waits outside -/

/-- What the bookkeeper and the waiting increments can make of a ledger by themselves. -/
def Settles : Ledger → Ledger → Prop :=
  Relation.ReflTransGen fun l l' => ∃ e, e.isOwn = true ∧ l.step? e = some l'

/-- What the bookkeeper does by itself does not change what was submitted. -/
theorem Settles.submitted_eq (h : l.Settles l') (u : Update) : l'.submitted u = l.submitted u := by
  induction h with
  | refl => rfl
  | tail _ hstep ih =>
    obtain ⟨e, he, hstep⟩ := hstep
    rw [submitted_step he hstep, ih]

theorem Settles.coherent (h : l.Settles l') (hl : l.Coherent) : l'.Coherent := by
  induction h with
  | refl => exact hl
  | tail _ hstep ih =>
    obtain ⟨e, he, hstep⟩ := hstep
    exact ih.step he hstep

/-- All increments but one that waits outside may be counted before that one. -/
theorem exists_settled_but (hcap : 0 < l.capacity) (hf : l.final = none) {u : Update}
    {us ws : List Update} (ho : l.overflow = us ++ u :: ws) :
    ∃ l', l.Settles l' ∧ l'.queue = [] ∧ l'.overflow = [u] := by
  -- Every increment in the queue takes one step, and every other one outside two.
  induction hn : l.queue.length + 2 * (us.length + ws.length) using Nat.strongRecOn
    generalizing l us ws with
  | ind n ih =>
    cases hq : l.queue with
    | cons w rest =>
      have hstep : l.step? .apply = some
          { l with
            queue := rest, counters := l.counters.apply w,
            published := l.published ++ [l.counters.apply w] } := by
        simp [step?, take?, hq, hf]
      rw [hq, List.length_cons] at hn
      obtain ⟨l', hsettles, hdone⟩ := ih (rest.length + 2 * (us.length + ws.length)) (by omega)
        (l := { l with
          queue := rest, counters := l.counters.apply w,
          published := l.published ++ [l.counters.apply w] }) hcap hf ho rfl
      exact ⟨l', .head ⟨.apply, rfl, hstep⟩ hsettles, hdone⟩
    | nil =>
      rw [hq, List.length_nil] at hn
      have hroom : l.queue.length < l.capacity := by rw [hq]; exact hcap
      cases us with
      | cons w us =>
        have hstep : l.step? (.enter 0) = some
            { l with queue := [w], overflow := us ++ u :: ws } := by
          simp [step?, enter?, hq, ho, hcap]
        rw [List.length_cons] at hn
        obtain ⟨l', hsettles, hdone⟩ := ih (1 + 2 * (us.length + ws.length)) (by omega)
          (l := { l with queue := [w], overflow := us ++ u :: ws }) hcap hf rfl rfl
        exact ⟨l', .head ⟨.enter 0, rfl, hstep⟩ hsettles, hdone⟩
      | nil =>
        cases ws with
        | nil => exact ⟨l, .refl, hq, ho⟩
        | cons w ws =>
          have hstep : l.step? (.enter 1) = some { l with queue := [w], overflow := u :: ws } := by
            simp [step?, enter?, hq, ho, hcap]
          rw [List.length_cons] at hn
          have hless : 1 + 2 * (([] : List Update).length + ws.length) < n := by
            rw [List.length_nil] at hn ⊢
            omega
          obtain ⟨l', hsettles, hdone⟩ := ih _ hless
            (l := { l with queue := [w], overflow := u :: ws }) hcap hf
            (show u :: ws = [] ++ u :: ws from rfl) rfl
          exact ⟨l', .head ⟨.enter 1, rfl, hstep⟩ hsettles, hdone⟩

end Ledger

end AlertRelay
