import AlertRelay.Proofs.Delivery.Verdict
import AlertRelay.Proofs.Lane.Run

/-!
# No calls after the end

Once the program is cancelled, no call of a transport begins in any lane (`Lane.Silent.allCalls`). A
delivery that is cancelled from outside looks at its context before every call; a delivery that has
cancelled the program itself is not cut short by that, but it has made its last call by then. This
is kept by whatever may happen to a lane (`Lane.Silent.turn`).
-/

namespace AlertRelay

namespace Lane

/-- No call is made later than now or than the cancellation of the program. -/
def NoneAfter (m : Moment) (calls : List Call) : Prop :=
  ∀ c ∈ calls, c.time ≤ m.now ∧ ∀ t, m.cancelledAt = some t → c.time ≤ t

/-- The deliveries that are over have made no call after the cancellation. Those that have cancelled
the program have made the call that did so before. -/
structure Silent (l : Lane) (m : Moment) : Prop where
  calls : NoneAfter m l.calls
  tripped : ∀ d ∈ l.running, d.tripped = true →
    ∃ t u, m.cancelledAt = some t ∧ (l.trace m d).cancelsAt = some u ∧ u ≤ t

variable {l l' : Lane} {m m' : Moment}

theorem NoneAfter.append {calls more : List Call} (h : NoneAfter m calls)
    (hmore : NoneAfter m more) : NoneAfter m (calls ++ more) := by
  intro c hc
  rcases List.mem_append.1 hc with hc | hc
  · exact h c hc
  · exact hmore c hc

/-- Calls that were made by now were made before a cancellation that comes now. -/
theorem NoneAfter.cancel {calls : List Call} (h : NoneAfter m calls) : NoneAfter m.cancel calls := by
  intro c hc
  obtain ⟨hnow, hcancelled⟩ := h c hc
  refine ⟨hnow, fun t ht => ?_⟩
  obtain rfl : m.cancelledAt.getD m.now = t := Option.some.inj ht
  cases hm : m.cancelledAt with
  | none => exact hnow
  | some u => exact hcancelled u hm

/-- A delivery that runs has made no call after the cancellation. -/
theorem Silent.callsOf (hl : l.Silent m) {d : Delivery} (hd : d ∈ l.running) :
    NoneAfter m (l.callsOf m d) := by
  intro c hc
  obtain ⟨call, hcall, rfl⟩ := List.mem_map.1 hc
  obtain ⟨hcall, hnow⟩ := List.mem_filter.1 hcall
  refine ⟨of_decide_eq_true hnow, fun t ht => ?_⟩
  obtain ⟨-, hlive, hcancels⟩ := Sender.live_of_mem_calls hcall
  by_cases htripped : d.tripped = true
  · -- It cancelled the program itself, and made no call after that.
    obtain ⟨t', u, ht', hu, hle⟩ := hl.tripped d hd htripped
    obtain rfl : t' = t := Option.some.inj (ht'.symm.trans ht)
    exact Nat.le_trans (hcancels u hu) hle
  · rw [if_neg htripped] at hlive
    exact Nat.le_of_lt ((Context.doneReason?_eq_none_iff.1 hlive).1 t ht)

/-- No call of a lane is made after the cancellation. -/
theorem Silent.allCalls (hl : l.Silent m) : NoneAfter m (l.allCalls m) := by
  refine hl.calls.append fun c hc => ?_
  obtain ⟨d, hd, hc⟩ := List.mem_flatMap.1 hc
  exact hl.callsOf hd c hc

/-- When a delivery cancels the program does not depend on when this is asked. -/
theorem cancelsAt_trace (l : Lane) (now now' : Instant) (cancelledAt : Option Instant)
    (d : Delivery) :
    (l.trace ⟨now, cancelledAt⟩ d).cancelsAt = (l.trace ⟨now', cancelledAt⟩ d).cancelsAt :=
  Sender.cancelsAt_send_clock _ _ _ _ _ _ _ _

/-- What does not touch the deliveries makes no difference. -/
theorem Silent.congr (hl : l.Silent m) (hkit : l'.kit = l.kit) (hrunning : l'.running = l.running)
    (hcalls : l'.calls = l.calls) : l'.Silent m where
  calls := by
    rw [hcalls]
    exact hl.calls
  tripped d hd htripped := by
    rw [hrunning] at hd
    rw [trace_of_kit hkit]
    exact hl.tripped d hd htripped

theorem Silent.move {e : LaneEvent} (h : l.Move m e l') (hl : l.Silent m) : l'.Silent m := by
  have hkit : l'.kit = l.kit := h.kit_eq
  have hsame := h.sameDeliveries
  cases h with
  | crash | lapse => exact hl.congr hkit rfl rfl
  | launch =>
    -- The new delivery has not cancelled anything yet.
    refine ⟨hl.calls, fun d hd htripped => ?_⟩
    rcases List.mem_append.1 hd with hd | hd
    · rw [trace_of_kit hkit]
      exact hl.tripped d hd htripped
    · rw [List.mem_singleton.1 hd] at htripped
      cases htripped
  | complete hd =>
    refine ⟨hl.calls.append (hl.callsOf (List.mem_of_getElem? hd)), fun d hd htripped => ?_⟩
    rw [trace_of_kit hkit]
    exact hl.tripped d (List.mem_of_mem_eraseIdx hd) htripped
  | _ =>
    have h := hsame (fun he => nomatch he) fun _ he => nomatch he
    exact hl.congr hkit h.running h.calls

/-- A delivery that cancels the program had made the call that does so by now. -/
theorem Silent.trip {j : Nat} (h : l.trip? m j = some l') (hm : m.Timely) (hl : l.Silent m) :
    l'.Silent m.cancel := by
  obtain ⟨d, hd, h⟩ := Option.bind_eq_some_iff.1 h
  split at h
  swap
  · cases h
  rename_i hmust
  cases h
  obtain ⟨huncancelled, htrips⟩ := Bool.and_eq_true_iff.1 hmust
  have hun : m.cancelledAt = none := hm.cancelledAt_eq_none (by simpa using huncancelled)
  have hcancel : m.cancel = ⟨m.now, some m.now⟩ := by rw [Moment.cancel, hun]; rfl
  refine ⟨hl.calls.cancel, fun d' hd' htripped => ?_⟩
  obtain ⟨i, hi⟩ := List.mem_iff_getElem?.1 hd'
  rw [List.getElem?_modify] at hi
  obtain ⟨d₀, hd₀, hd'⟩ := Option.map_eq_some_iff.1 hi
  by_cases hij : j = i
  · -- This is the delivery that does so.
    obtain rfl : d = d₀ := by
      rw [← hij, hd] at hd₀
      exact Option.some.inj hd₀
    unfold trips at htrips
    split at htrips
    · rename_i u hu
      rw [hcancel]
      refine ⟨m.now, u, rfl, ?_, of_decide_eq_true htrips⟩
      rw [← hd', if_pos hij, ← hu]
      simp only [trace, if_true, hun, ite_self]
    · cases htrips
  · rw [if_neg hij] at hd'
    obtain rfl : d₀ = d' := hd'
    obtain ⟨t, u, ht, -⟩ := hl.tripped d₀ (List.mem_of_getElem? hd₀) htripped
    rw [hun] at ht
    cases ht

/-- A cancellation from outside comes after all calls that were made. -/
theorem Silent.cancel (hl : l.Silent m) : l.Silent m.cancel := by
  refine ⟨hl.calls.cancel, fun d hd htripped => ?_⟩
  obtain ⟨t, u, ht, hu, hle⟩ := hl.tripped d hd htripped
  have hsame : m.cancel = m := by
    obtain ⟨now, cancelledAt⟩ := m
    subst ht
    rfl
  rw [hsame]
  exact ⟨t, u, ht, hu, hle⟩

theorem Silent.pass {t : Instant} (hl : l.Silent m) (ht : m.now ≤ t) :
    l.Silent { m with now := t } where
  calls c hc := by
    obtain ⟨hnow, hcancelled⟩ := hl.calls c hc
    exact ⟨Nat.le_trans hnow ht, hcancelled⟩
  tripped d hd htripped := by
    obtain ⟨v, u, hv, hu, hle⟩ := hl.tripped d hd htripped
    refine ⟨v, u, hv, ?_, hle⟩
    rw [l.cancelsAt_trace t m.now]
    exact hu

/-- Whatever happens to a lane, no call is made after the cancellation. -/
theorem Silent.turn (h : Turn m l m' l') (hm : m.Timely) (hl : l.Silent m) : l'.Silent m' := by
  cases h with
  | step h => exact hl.move (move_of_step? h)
  | trip h => exact hl.trip h hm
  | cancel => exact hl.cancel
  | offer => exact hl.congr rfl rfl rfl
  | take h =>
    obtain ⟨rest, -, rfl⟩ := eq_of_takeResult? h
    exact hl.congr rfl rfl rfl
  | abandon => exact hl.congr rfl rfl rfl
  | pass h => exact hl.pass h

/-- A lane that was just started has made no call. -/
theorem Kit.silent_start (k : Kit) (now : Instant) (m : Moment) : (k.start now).Silent m where
  calls _ hc := nomatch hc
  tripped _ hd := nomatch hd

end Lane

end AlertRelay
