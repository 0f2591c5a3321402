import AlertRelay.Pipeline.Basic
import Mathlib.Data.List.Perm.Basic

/-!
# Conservation in the ledger

An increment that was submitted is in the counters, in the queue or outside it. `Counters.count`
reads a counter by the increment that it counts, and `Ledger.submitted` adds up all three places.
Submitting an increment adds one to its own total and to no other, and nothing that the bookkeeper
and the waiting increments do by themselves changes any total (`submitted_record`,
`submitted_step`). When the bookkeeper can do nothing any more, nothing is left on the way
(`Coherent.eq_nil_of_rest`), so that the counters are the totals.
-/

namespace AlertRelay

namespace Counters

/-- The counter that an increment belongs to. -/
def count (c : Counters) : Update → Nat
  | .received => c.received
  | .sent ch => (c.channel ch).sent
  | .succeeded ch => (c.channel ch).success
  | .failed ch => (c.channel ch).failure
  | .cancelled ch => (c.channel ch).cancelled

/-- Counting an increment raises its own counter by one and no other. -/
theorem count_apply (c : Counters) (u v : Update) :
    (c.apply u).count v = c.count v + if u = v then 1 else 0 := by
  cases u <;> cases v <;> (try rename_i a; cases a) <;> (try rename_i b; cases b) <;>
    simp [count, apply, modify, channel]

/-- Counters without any increment are all zero. -/
@[simp] theorem count_empty (u : Update) : ({} : Counters).count u = 0 := by
  cases u <;> (try rename_i a; cases a) <;> rfl

/-- What became of the records of a channel, counter by counter. -/
theorem resolved_channel (c : Counters) (ch : Channel) :
    (c.channel ch).resolved =
      c.count (.succeeded ch) + c.count (.failed ch) + c.count (.cancelled ch) := rfl

/-- The counters of a channel for which nothing was counted. -/
theorem channel_eq_empty {c : Counters} {ch : Channel} (hsent : c.count (.sent ch) = 0)
    (hsucceeded : c.count (.succeeded ch) = 0) (hfailed : c.count (.failed ch) = 0)
    (hcancelled : c.count (.cancelled ch) = 0) : c.channel ch = {} := by
  simp only [count] at hsent hsucceeded hfailed hcancelled
  cases hk : c.channel ch
  simp_all

end Counters

namespace Ledger

/-- How many times an increment was submitted: it is counted, or in the queue, or waits outside. -/
def submitted (l : Ledger) (u : Update) : Nat :=
  l.counters.count u + l.queue.count u + l.overflow.count u

/-- A ledger that nothing was submitted to. -/
@[simp] theorem submitted_empty (capacity : Nat) (u : Update) :
    ({ capacity } : Ledger).submitted u = 0 := by
  simp [submitted]

/-- Whether an increment finds room or not, it is submitted once. -/
theorem submitted_record (l : Ledger) (u v : Update) :
    (l.record u).submitted v = l.submitted v + if u = v then 1 else 0 := by
  unfold record submitted
  split
  · rw [List.count_append, List.count_singleton]
    simp only [beq_iff_eq]
    omega
  · rw [List.count_append, List.count_singleton]
    simp only [beq_iff_eq]
    omega

@[simp] theorem capacity_record (l : Ledger) (u : Update) : (l.record u).capacity = l.capacity := by
  unfold record
  split <;> rfl

@[simp] theorem isOpen_record (l : Ledger) (u : Update) : (l.record u).isOpen = l.isOpen := by
  unfold record
  split <;> rfl

@[simp] theorem final_record (l : Ledger) (u : Update) : (l.record u).final = l.final := by
  unfold record
  split <;> rfl

@[simp] theorem counters_record (l : Ledger) (u : Update) :
    (l.record u).counters = l.counters := by
  unfold record
  split <;> rfl

@[simp] theorem published_record (l : Ledger) (u : Update) :
    (l.record u).published = l.published := by
  unfold record
  split <;> rfl

/-- What happens when an increment is submitted. -/
theorem eq_of_record {l l' : Ledger} {u : Update} (h : l.step? (.record u) = some l') :
    l.isOpen = true ∧ l' = l.record u := by
  rw [step?] at h
  split at h
  · exact ⟨‹_›, (Option.some.inj h).symm⟩
  · cases h

/-- What happens when the last recorder is gone. -/
theorem eq_of_close {l l' : Ledger} (h : l.step? .close = some l') :
    l.isOpen = true ∧ l' = { l with isOpen := false } := by
  rw [step?] at h
  split at h
  · exact ⟨‹_›, (Option.some.inj h).symm⟩
  · cases h

/-- What happens when a waiting increment enters the queue. -/
theorem eq_of_enter? {l l' : Ledger} {i : Nat} (h : l.enter? i = some l') :
    ∃ u, l.overflow[i]? = some u ∧ l.queue.length < l.capacity ∧
      l' = { l with queue := l.queue ++ [u], overflow := l.overflow.eraseIdx i } := by
  unfold enter? at h
  split at h
  · obtain ⟨u, hu, rfl⟩ := Option.map_eq_some_iff.1 h
    exact ⟨u, hu, ‹_›, rfl⟩
  · cases h

/-- What happens when the bookkeeper takes an increment. -/
theorem eq_of_take? {l l' : Ledger} (h : l.take? = some l') :
    ∃ u rest, l.queue = u :: rest ∧ l.final = none ∧
      l' = { l with
        queue := rest, counters := l.counters.apply u,
        published := l.published ++ [l.counters.apply u] } := by
  unfold take? at h
  split at h
  · cases h
  · rename_i u rest hq
    split at h
    · cases h
    · rename_i hf
      have hnone : l.final = none := by
        cases hfinal : l.final with
        | none => rfl
        | some c => rw [hfinal] at hf; exact absurd rfl hf
      cases h
      exact ⟨u, rest, hq, hnone, rfl⟩

/-- What happens when the bookkeeper returns. -/
theorem eq_of_finish? {l l' : Ledger} (h : l.finish? = some l') :
    l.final = none ∧ l.isOpen = false ∧ l.queue = [] ∧ l.overflow = [] ∧
      l' = { l with final := some l.counters } := by
  unfold finish? at h
  split at h
  · rename_i hg
    simp only [Bool.and_eq_true, Bool.not_eq_true', Option.isNone_iff_eq_none,
      List.isEmpty_iff] at hg
    cases h
    exact ⟨hg.1.1.1, hg.1.1.2, hg.1.2, hg.2, rfl⟩
  · cases h

/-- A summary changes nothing. -/
theorem eq_of_summarise {l l' : Ledger} (h : l.step? .summarise = some l') : l' = l := by
  simp only [step?] at h
  split at h
  · exact (Option.some.inj h).symm
  · cases h

/-- An increment that enters the queue is the one that left the place where it waited. -/
theorem count_eraseIdx {us : List Update} {i : Nat} {u : Update} (h : us[i]? = some u)
    (v : Update) : us.count v = (us.eraseIdx i).count v + if u = v then 1 else 0 := by
  obtain ⟨hi, rfl⟩ := List.getElem?_eq_some_iff.1 h
  have hperm := (List.getElem_cons_eraseIdx_perm hi).count_eq v
  rw [← hperm, List.count_cons]
  simp only [beq_iff_eq]

/-- What the bookkeeper and the waiting increments do by themselves submits nothing and loses
nothing. -/
theorem submitted_step {l l' : Ledger} {e : LedgerEvent} (he : e.isOwn = true)
    (h : l.step? e = some l') (v : Update) : l'.submitted v = l.submitted v := by
  cases e with
  | record u => cases he
  | enter i =>
    obtain ⟨u, hu, -, rfl⟩ := eq_of_enter? h
    have hcount := count_eraseIdx hu v
    simp only [submitted, List.count_append, List.count_singleton, beq_iff_eq]
    omega
  | apply =>
    obtain ⟨u, rest, hq, -, rfl⟩ := eq_of_take? h
    simp only [submitted, hq, List.count_cons, Counters.count_apply, beq_iff_eq]
    omega
  | summarise =>
    rw [eq_of_summarise h]
  | close => cases he
  | finish =>
    obtain ⟨-, -, -, -, rfl⟩ := eq_of_finish? h
    rfl

/-- Neither the capacity nor the recorders change by what happens inside. -/
theorem frame_step {l l' : Ledger} {e : LedgerEvent} (he : e.isOwn = true)
    (h : l.step? e = some l') : l'.capacity = l.capacity ∧ l'.isOpen = l.isOpen := by
  cases e with
  | record u => cases he
  | enter i =>
    obtain ⟨u, -, -, rfl⟩ := eq_of_enter? h
    exact ⟨rfl, rfl⟩
  | apply =>
    obtain ⟨u, rest, -, -, rfl⟩ := eq_of_take? h
    exact ⟨rfl, rfl⟩
  | summarise => exact eq_of_summarise h ▸ ⟨rfl, rfl⟩
  | close => cases he
  | finish =>
    obtain ⟨-, -, -, -, rfl⟩ := eq_of_finish? h
    exact ⟨rfl, rfl⟩

/-- Counters that were returned stay so. -/
theorem final_step {l l' : Ledger} {e : LedgerEvent} (he : e.isOwn = true)
    (h : l.step? e = some l') {c : Counters} (hc : l.final = some c) : l'.final = some c := by
  cases e with
  | record u => cases he
  | enter i =>
    obtain ⟨u, -, -, rfl⟩ := eq_of_enter? h
    exact hc
  | apply =>
    obtain ⟨u, rest, -, hf, rfl⟩ := eq_of_take? h
    exact hc
  | summarise => exact eq_of_summarise h ▸ hc
  | close => cases he
  | finish =>
    obtain ⟨hf, -, -, -, rfl⟩ := eq_of_finish? h
    rw [hf] at hc
    cases hc

/-! ### What is published and what is returned -/

/-- The counters published last are the present ones, and counters are returned only when no
recorder is left and nothing is on the way. -/
structure Coherent (l : Ledger) : Prop where
  snapshot_eq : l.snapshot = l.counters
  final_eq : ∀ c, l.final = some c →
    c = l.counters ∧ l.isOpen = false ∧ l.queue = [] ∧ l.overflow = []

namespace Coherent

variable {l l' : Ledger}

/-- A ledger that nothing was submitted to. -/
theorem empty (capacity : Nat) : ({ capacity } : Ledger).Coherent :=
  ⟨rfl, fun _ h => nomatch h⟩

/-- As long as a recorder is left, nothing is returned. -/
theorem final_eq_none (hl : l.Coherent) (hopen : l.isOpen = true) : l.final = none := by
  cases hf : l.final with
  | none => rfl
  | some c =>
    have hclosed := (hl.final_eq c hf).2.1
    rw [hopen] at hclosed
    cases hclosed

/-- Recording an increment keeps a ledger coherent. -/
theorem record (hl : l.Coherent) (hopen : l.isOpen = true) (u : Update) :
    (l.record u).Coherent := by
  refine ⟨?_, fun c hc => ?_⟩
  · rw [counters_record, ← hl.snapshot_eq, snapshot, snapshot, published_record]
  · rw [final_record, hl.final_eq_none hopen] at hc
    cases hc

/-- Closing a ledger keeps it coherent. -/
theorem close (hl : l.Coherent) (hopen : l.isOpen = true) :
    ({ l with isOpen := false } : Ledger).Coherent := by
  refine ⟨hl.snapshot_eq, ?_⟩
  intro c hc
  have hnone : l.final = some c := hc
  rw [hl.final_eq_none hopen] at hnone
  cases hnone

/-- What the bookkeeper does keeps a ledger coherent. -/
theorem step (hl : l.Coherent) {e : LedgerEvent} (he : e.isOwn = true)
    (h : l.step? e = some l') : l'.Coherent := by
  cases e with
  | record u => cases he
  | enter i =>
    obtain ⟨u, hu, hroom, rfl⟩ := eq_of_enter? h
    refine ⟨hl.snapshot_eq, ?_⟩
    intro c hc
    -- Once the counters are returned nothing waits, so nothing could have entered.
    have hover := (hl.final_eq c hc).2.2.2
    rw [hover] at hu
    cases hu
  | apply =>
    obtain ⟨u, rest, hq, hf, rfl⟩ := eq_of_take? h
    refine ⟨?_, fun c hc => ?_⟩
    · simp [snapshot]
    · have hnone : l.final = some c := hc
      rw [hf] at hnone
      cases hnone
  | summarise => rwa [eq_of_summarise h]
  | close => cases he
  | finish =>
    obtain ⟨hf, hopen, hq, ho, rfl⟩ := eq_of_finish? h
    refine ⟨hl.snapshot_eq, ?_⟩
    intro c hc
    have hc' : some l.counters = some c := hc
    exact ⟨(Option.some.inj hc').symm, hopen, hq, ho⟩

/-- When the bookkeeper can take nothing and nothing can enter, nothing is on the way. -/
theorem eq_nil_of_rest (hl : l.Coherent) (hcap : 0 < l.capacity)
    (happly : l.step? .apply = none) (henter : l.step? (.enter 0) = none) :
    l.queue = [] ∧ l.overflow = [] := by
  cases hf : l.final with
  | some c => exact (hl.final_eq c hf).2.2
  | none =>
    have hq : l.queue = [] := by
      cases hq : l.queue with
      | nil => rfl
      | cons u rest => simp [step?, take?, hq, hf] at happly
    refine ⟨hq, ?_⟩
    cases ho : l.overflow with
    | nil => rfl
    | cons u rest => simp [step?, enter?, hq, ho, hcap] at henter

/-- When nothing is on the way, the counters are what was submitted. -/
theorem count_eq_submitted (hq : l.queue = []) (ho : l.overflow = []) (u : Update) :
    l.counters.count u = l.submitted u := by
  simp [submitted, hq, ho]

end Coherent

/-! ### Results -/

section Results

variable (l : Ledger) (r : DeliveryResult)

/-- Counts a result that was taken, unless it is a notice. -/
def tally : Ledger :=
  match r.update? with
  | some u => l.record u
  | none => l

@[simp] theorem capacity_tally : (l.tally r).capacity = l.capacity := by
  unfold tally
  split
  · exact l.capacity_record _
  · rfl

@[simp] theorem isOpen_tally : (l.tally r).isOpen = l.isOpen := by
  unfold tally
  split
  · exact l.isOpen_record _
  · rfl

/-- A result is submitted as the increment that it counts as, and a notice not at all. -/
theorem submitted_tally (v : Update) :
    (l.tally r).submitted v = l.submitted v + if r.update? = some v then 1 else 0 := by
  unfold tally
  cases r.update? with
  | some u => simp [submitted_record]
  | none => simp

theorem Coherent.tally {l : Ledger} (hl : l.Coherent) (hopen : l.isOpen = true)
    (r : DeliveryResult) : (l.tally r).Coherent := by
  unfold Ledger.tally
  split
  · exact hl.record hopen _
  · exact hl

end Results

end Ledger

end AlertRelay
