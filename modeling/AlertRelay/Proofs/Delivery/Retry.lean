import AlertRelay.Proofs.Delivery.Verdict
import Mathlib.Data.List.Chain

/-!
# What a retry policy makes of a transport

A policy, a transport and a context decide which attempts are made, when each of them begins, and
what is returned and when. `RetryPolicy.Governs` says all of it in terms of the calls alone: every
end is told by the calls that were made (`Governs.delivered`, `Governs.exhausted`,
`Governs.aborted`), and there is no other end. `attempts_governed` says that the attempts of a
delivery are governed by its policy, whatever the transport does and whenever it or somebody else
cancels the program.

Two things happen between attempts. A call may cancel the program, so that the context of the next
attempt is the one after all calls before (`Context.afterCalls`). And after a failed call the
context is looked at again when the pause is over, or at once if it is done already (`nextCheck`).
Only the first of these can be followed by another attempt, and then the pause has lasted its whole
time (`pauseEnd_of_live`).

The pause is as long as the policy says up to the longest pause that a timer can be set to. A policy
that asks for a longer one does not get it (`long_pause_cut_short`).
-/

namespace AlertRelay

section Calls

variable {α : Type} {transport : Transport α} {c : Context} {now u : Instant}
  {call : Instant × Nat} {calls : List (Instant × Nat)} {outcome : Except DeliveryError α}

/-- A call returns only once. -/
theorem Transport.Returns.unique {v : Instant} {outcome' : Except DeliveryError α}
    (h : transport.Returns call u outcome) (h' : transport.Returns call v outcome') :
    u = v ∧ outcome = outcome' := by
  obtain ⟨after, cancelsRoot, hcall, hu⟩ := h
  obtain ⟨after', cancelsRoot', hcall', hv⟩ := h'
  rw [hcall] at hcall'
  cases hcall'
  exact ⟨hu.trans hv.symm, rfl⟩

/-- A call that returns does not hang. -/
theorem Transport.Returns.ne_hangs (h : transport.Returns call u outcome) :
    transport call.2 ≠ .hangs := by
  obtain ⟨after, cancelsRoot, hcall, -⟩ := h
  rw [hcall]
  exact fun hhangs => nomatch hhangs

/-- A call that has failed returns an error. -/
theorem Transport.exists_returns_of_error? (h : (transport call.2).error?.isSome = true) :
    ∃ e, transport.Returns call (transport.endOf call) (.error e) := by
  unfold endOf
  cases hcall : transport call.2 with
  | hangs =>
    rw [hcall] at h
    cases h
  | returns after cancelsRoot outcome =>
    cases outcome with
    | ok value =>
      rw [hcall] at h
      cases h
    | error e => exact ⟨e, after, cancelsRoot, hcall, rfl⟩

/-- If all calls fail, none of them returns a value. -/
theorem Transport.FailsOn.not_returns_ok {value : α} (h : transport.FailsOn calls)
    (hmem : call ∈ calls) : ¬transport.Returns call u (.ok value) := by
  intro hreturns
  obtain ⟨e, herror⟩ := exists_returns_of_error? (h call hmem)
  cases (hreturns.unique herror).2

/-- A pause after which the context is not done has lasted its whole time. -/
theorem pauseEnd_of_live {delay : Span} {timers : Timers}
    (hlive : c.doneReason? (pauseEnd c delay now timers) = none) :
    pauseEnd c delay now timers = timers.ring (now + delay.pause.toNanos) := by
  unfold pauseEnd at hlive ⊢
  split at hlive
  · rename_i reason hdone
    rw [hdone] at hlive
    cases hlive
  · rcases Nat.le_total (timers.ring (now + delay.pause.toNanos)) (c.doneAt now timers)
      with hle | hle
    · exact Nat.min_eq_left hle
    · rw [Nat.min_eq_right hle] at hlive
      exact absurd hlive (c.done_at_doneAt now timers)

end Calls

/-! ### How attempts end -/

section Attempts

variable {α : Type} {policy : RetryPolicy} {transport : Transport α} {left number : Nat}
  {c : Context} {now u : Instant} {last : Option DeliveryError}
  {t : Trace (Except DeliveryError α)} {calls : List (Instant × Nat)} {r : Except DeliveryError α}

/-- The same attempts end in one way only. -/
theorem Ended.unique {v : Instant} {r' : Except DeliveryError α}
    (h : Ended policy transport left number c now last calls u r)
    (h' : Ended policy transport left number c now last calls v r') : u = v ∧ r = r' := by
  cases h with
  | @delivered earlier call u value hcalls hearlier hlast =>
    have hmem : call ∈ calls := by
      rw [hcalls]
      exact List.mem_append_right _ (List.mem_singleton_self call)
    cases h' with
    | delivered hcalls' hearlier' hlast' =>
      obtain ⟨-, rfl⟩ := List.append_singleton_inj.1 (hcalls.symm.trans hcalls')
      obtain ⟨rfl, hvalue⟩ := hlast.unique hlast'
      exact ⟨rfl, hvalue⟩
    | exhausted hcalls' hearlier' hlength' hlast' =>
      obtain ⟨-, rfl⟩ := List.append_singleton_inj.1 (hcalls.symm.trans hcalls')
      cases (hlast.unique hlast').2
    | aborted hfails' => exact absurd hlast (hfails'.not_returns_ok hmem)
  | exhausted hcalls hearlier hlength hlast =>
    cases h' with
    | delivered hcalls' hearlier' hlast' =>
      obtain ⟨-, rfl⟩ := List.append_singleton_inj.1 (hcalls.symm.trans hcalls')
      cases (hlast.unique hlast').2
    | exhausted hcalls' hearlier' hlength' hlast' =>
      obtain ⟨-, rfl⟩ := List.append_singleton_inj.1 (hcalls.symm.trans hcalls')
      obtain ⟨rfl, herror⟩ := hlast.unique hlast'
      cases herror
      exact ⟨rfl, rfl⟩
    | aborted hfails' hlength' =>
      rw [hlength] at hlength'
      exact absurd hlength' (Nat.not_succ_le_self _)
  | aborted hfails hlength hcheck hdone =>
    cases h' with
    | delivered hcalls' hearlier' hlast' =>
      refine absurd hlast' (hfails.not_returns_ok ?_)
      rw [hcalls']
      exact List.mem_append_right _ (List.mem_singleton_self _)
    | exhausted hcalls' hearlier' hlength' =>
      rw [hlength'] at hlength
      exact absurd hlength (Nat.not_succ_le_self _)
    | aborted hfails' hlength' hcheck' hdone' =>
      subst hcheck hcheck'
      rw [hdone] at hdone'
      cases hdone'
      exact ⟨rfl, rfl⟩

/-- Attempts that end have not hung. -/
theorem Ended.ne_hangs (h : Ended policy transport left number c now last calls u r)
    {call : Instant × Nat} (hmem : call ∈ calls) : transport call.2 ≠ .hangs := by
  have hfailed {failed : List (Instant × Nat)} (hfails : transport.FailsOn failed)
      (hcall : call ∈ failed) : transport call.2 ≠ .hangs := by
    obtain ⟨e, herror⟩ := Transport.exists_returns_of_error? (hfails call hcall)
    exact herror.ne_hangs
  cases h with
  | delivered hcalls hearlier hlast | exhausted hcalls hearlier hlength hlast =>
    rw [hcalls] at hmem
    rcases List.mem_append.1 hmem with hmem | hmem
    · exact hfailed hearlier hmem
    · obtain rfl := List.mem_singleton.1 hmem
      exact hlast.ne_hangs
  | aborted hfails => exact hfailed hfails hmem

/-- No more calls are made than are allowed. -/
theorem Attempting.length_calls_le (h : Attempting policy transport left c number now last t) :
    t.calls.length ≤ left + 1 := by
  induction h with
  | abort => exact Nat.zero_le _
  | hang | succeed | exhaust => exact Nat.le_add_left _ _
  | retry hlive hcall hrest ih => exact Nat.succ_le_succ ih

/-- If a call is made at all, the first one is made at once. -/
theorem Attempting.eq_of_head? (h : Attempting policy transport left c number now last t) :
    ∀ call ∈ t.calls.head?, call = (now, number) ∧ c.doneReason? now = none := by
  cases h with
  | abort => exact fun call hcall => nomatch hcall
  | hang hlive | succeed hlive | exhaust hlive | retry hlive =>
    intro call hcall
    exact ⟨(Option.some.inj hcall).symm, hlive⟩

/-- Every call begins when the context is not done, whatever the calls before have done to it. -/
theorem Attempting.live_after_calls (h : Attempting policy transport left c number now last t)
    {earlier later : List (Instant × Nat)} {call : Instant × Nat}
    (hcalls : t.calls = earlier ++ call :: later) :
    (c.afterCalls transport earlier).doneReason? call.1 = none := by
  induction h generalizing earlier with
  | abort => cases earlier <;> cases hcalls
  | hang hlive | succeed hlive | exhaust hlive =>
    cases earlier with
    | nil =>
      cases hcalls
      exact hlive
    | cons first earlier => cases earlier <;> cases hcalls
  | @retry left number after c now last cancelsRoot e rest hlive hcall hrest ih =>
    cases earlier with
    | nil =>
      cases hcalls
      exact hlive
    | cons first earlier =>
      obtain ⟨rfl, hrests⟩ := List.cons.inj hcalls
      have hafter : c.afterCalls transport ((now, number) :: earlier) =
          (c.afterCall cancelsRoot (now + after)).afterCalls transport earlier := by
        rw [Context.afterCalls, Transport.endOf, hcall]
        rfl
      rw [hafter]
      exact ih hrests

/-- Every call but the first begins when the pause behind the one before is over. -/
theorem Attempting.isChain_calls (h : Attempting policy transport left c number now last t) :
    t.calls.IsChain fun call next => (transport call.2).error?.isSome = true ∧
      next.1 = transport.endOf call + policy.delay.pause.toNanos := by
  induction h with
  | abort => exact .nil
  | hang | succeed | exhaust => exact .singleton _
  | @retry left number after c now last cancelsRoot e rest hlive hcall hrest ih =>
    refine List.isChain_cons.2 ⟨fun next hnext => ⟨?_, ?_⟩, ih⟩
    · rw [hcall]
      rfl
    · obtain ⟨rfl, hnextLive⟩ := hrest.eq_of_head? next hnext
      rw [Transport.endOf, hcall]
      exact pauseEnd_of_live hnextLive

/-- A call that has begun is never interrupted: attempts do not return before it. -/
theorem Attempting.exists_returns_of_mem (h : Attempting policy transport left c number now last t)
    (hend : t.ending = .returns u r) {call : Instant × Nat} (hmem : call ∈ t.calls) :
    ∃ v ≤ u, ∃ outcome, transport.Returns call v outcome := by
  induction h with
  | abort => cases hmem
  | hang => cases hend
  | succeed hlive hcall | exhaust hlive hcall =>
    cases hend
    obtain rfl := List.mem_singleton.1 hmem
    exact ⟨_, Nat.le_refl _, _, _, _, hcall, rfl⟩
  | @retry left number after c now last cancelsRoot e rest hlive hcall hrest ih =>
    rcases List.mem_cons.1 hmem with rfl | hmem
    · have hpause := le_pauseEnd (c.afterCall cancelsRoot (now + after)) policy.delay (now + after)
      have hreturned : rest.returnsAt? = some u := Trace.returnsAt?_eq_some.2 ⟨r, hend⟩
      exact ⟨_, Nat.le_trans hpause (hrest.runsFrom.le_end u hreturned), _, _, _, hcall, rfl⟩
    · exact ih hend hmem

/-- Attempts hang only in their last call. -/
theorem Attempting.exists_hangs (h : Attempting policy transport left c number now last t)
    (hend : t.ending = .hangs) :
    ∃ earlier call, t.calls = earlier ++ [call] ∧ transport call.2 = .hangs := by
  induction h with
  | abort | succeed | exhaust => cases hend
  | hang hlive hcall => exact ⟨[], _, rfl, hcall⟩
  | @retry left number after c now _ _ _ _ hlive hcall hrest ih =>
    obtain ⟨earlier, call, hcalls, hhangs⟩ := ih hend
    exact ⟨(now, number) :: earlier, call, congrArg _ hcalls, hhangs⟩

/-- What attempts return is what their calls say. -/
theorem Attempting.returns_iff (h : Attempting policy transport left c number now last t) :
    t.ending = .returns u r ↔ Ended policy transport left number c now last t.calls u r := by
  refine ⟨h.ended, fun hended => ?_⟩
  cases hend : t.ending with
  | returns v r' =>
    obtain ⟨rfl, rfl⟩ := (h.ended hend).unique hended
    rfl
  | hangs =>
    obtain ⟨earlier, call, hcalls, hhangs⟩ := h.exists_hangs hend
    refine absurd hhangs (hended.ne_hangs ?_)
    rw [hcalls]
    exact List.mem_append_right _ (List.mem_singleton_self call)

/-- Attempts hang if their last call does, and only then. -/
theorem Attempting.hangs_iff (h : Attempting policy transport left c number now last t) :
    t.ending = .hangs ↔
      ∃ earlier call, t.calls = earlier ++ [call] ∧ transport call.2 = .hangs := by
  refine ⟨h.exists_hangs, ?_⟩
  rintro ⟨earlier, call, hcalls, hhangs⟩
  cases hend : t.ending with
  | returns u r =>
    refine absurd hhangs ((h.ended hend).ne_hangs ?_)
    rw [hcalls]
    exact List.mem_append_right _ (List.mem_singleton_self call)
  | hangs => rfl

end Attempts

/-! ### The whole course -/

/-- What attempts from `now` on do under a policy. -/
structure RetryPolicy.Governs {α : Type} (policy : RetryPolicy) (transport : Transport α)
    (c : Context) (now : Instant) (t : Trace (Except DeliveryError α)) : Prop where
  /-- Attempts are numbered from 1 on without gaps. -/
  numbered : t.calls.map Prod.snd = List.range' 1 t.calls.length
  /-- There are no more of them than the policy allows, and their numbers are words of 32 bits. -/
  bounded : t.calls.length ≤ min (policy.retries + 1) attemptsLimit
  /-- The first one begins at once. -/
  prompt : ∀ call ∈ t.calls.head?, call.1 = now
  /-- Each one begins when the context is not done, whatever those before have done to it. -/
  live : ∀ earlier call later, t.calls = earlier ++ call :: later →
    (c.afterCalls transport earlier).doneReason? call.1 = none
  /-- Each one follows a failed one, and the pause between them has its whole length. -/
  spaced : t.calls.IsChain fun call next => (transport call.2).error?.isSome = true ∧
    next.1 = transport.endOf call + min policy.delay.toNanos Span.longestPause.toNanos
  /-- None is interrupted: all have returned by the time at which something is returned. -/
  awaited : ∀ u r, t.ending = .returns u r → ∀ call ∈ t.calls,
    ∃ v ≤ u, ∃ outcome, transport.Returns call v outcome
  /-- Nothing is returned if the last one hangs, and only then. -/
  hanging : t.ending = .hangs ↔ ∃ earlier call, t.calls = earlier ++ [call] ∧
    transport call.2 = .hangs
  /-- A value is returned when the last one returns it after all others have failed. -/
  delivered : ∀ u value, t.ending = .returns u (.ok value) ↔
    ∃ earlier call, t.calls = earlier ++ [call] ∧ transport.FailsOn earlier ∧
      transport.Returns call u (.ok value)
  /-- When all that are allowed have failed, the error of the last one is returned at once. -/
  exhausted : ∀ u k source, t.ending = .returns u (.error (.attemptsExhausted k source)) ↔
    k = policy.attempts ∧ t.calls.length = policy.attempts ∧
      ∃ earlier call, t.calls = earlier ++ [call] ∧ transport.FailsOn earlier ∧
        transport.Returns call u (.error source)
  /-- When those so far have failed, more are allowed, and the context is done by the time at which
  it is looked at next, the reason is returned then, with the error of the last one. -/
  aborted : ∀ u k allowed reason last,
    t.ending = .returns u (.error (.aborted k allowed reason last)) ↔
      k = t.calls.length + 1 ∧ allowed = policy.attempts ∧ t.calls.length < policy.attempts ∧
        transport.FailsOn t.calls ∧ last = transport.lastError? none t.calls ∧
        u = nextCheck policy transport c now t.calls ∧
        (c.afterCalls transport t.calls).doneReason? u = some reason ∧
        (reason = .cancelled ↔ (c.afterCalls transport t.calls).isCancelled u = true)
  /-- No other error is returned. -/
  complete : ∀ u e, t.ending = .returns u (.error e) →
    (∃ source, e = .attemptsExhausted policy.attempts source) ∨
      ∃ k reason last, e = .aborted k policy.attempts reason last

/-- A context that is done is so because it is cancelled or else because of its deadline. -/
theorem Context.cancelled_iff_of_done {c : Context} {now : Instant} {reason : DoneReason}
    (h : c.doneReason? now = some reason) :
    reason = .cancelled ↔ c.isCancelled now = true := by
  unfold doneReason? at h
  by_cases hcancelled : c.isCancelled now = true
  · rw [if_pos hcancelled] at h
    cases h
    exact ⟨fun _ => hcancelled, fun _ => rfl⟩
  · rw [if_neg hcancelled] at h
    split at h
    · cases h
      refine ⟨fun hreason => ?_, fun hc => absurd hc hcancelled⟩
      cases hreason
    · cases h

/-- The attempts of a delivery are governed by its policy, whatever its transport does and whenever
the program is cancelled. -/
theorem attempts_governed {α : Type} (policy : RetryPolicy) (transport : Transport α) (c : Context)
    (now : Instant) : policy.Governs transport c now (attempts policy transport c now) := by
  have h : Attempting policy transport (policy.attempts - 1) c 1 now none
      (attempts policy transport c now) := attempting_attempts policy transport c now
  have hpos : 0 < policy.attempts := policy.attempts_pos
  have hlast : policy.attempts - 1 + 1 = policy.attempts := Nat.sub_add_cancel hpos
  refine
    { numbered := h.map_snd_calls
      bounded := ?bounded
      prompt := fun call hcall => congrArg Prod.fst (h.eq_of_head? call hcall).1
      live := fun earlier call later hcalls => h.live_after_calls hcalls
      spaced := ?spaced
      awaited := fun u r hend call hmem => h.exists_returns_of_mem hend hmem
      hanging := h.hangs_iff
      delivered := fun u value => ⟨fun hend => ?of_delivered, ?delivered⟩
      exhausted := fun u k source => ⟨fun hend => ?of_exhausted, ?exhausted⟩
      aborted := fun u k allowed reason last => ⟨fun hend => ?of_aborted, ?aborted⟩
      complete := fun u e hend => ?complete }
  case bounded =>
    exact Nat.le_trans h.length_calls_le (Nat.le_of_eq hlast)
  case spaced =>
    rw [← Span.toNanos_pause]
    exact h.isChain_calls
  case of_delivered =>
    cases h.ended hend with
    | delivered hcalls hearlier hreturns => exact ⟨_, _, hcalls, hearlier, hreturns⟩
  case delivered =>
    rintro ⟨earlier, call, hcalls, hearlier, hreturns⟩
    exact h.returns_iff.2 (.delivered hcalls hearlier hreturns)
  case of_exhausted =>
    cases h.ended hend with
    | exhausted hcalls hearlier hlength hreturns =>
      exact ⟨rfl, hlength.trans hlast, _, _, hcalls, hearlier, hreturns⟩
  case exhausted =>
    rintro ⟨rfl, hlength, earlier, call, hcalls, hearlier, hreturns⟩
    exact h.returns_iff.2 (.exhausted hcalls hearlier (hlength.trans hlast.symm) hreturns)
  case of_aborted =>
    cases h.ended hend with
    | aborted hfails hlength hcheck hdone =>
      exact ⟨Nat.add_comm _ _, rfl, by omega, hfails, rfl, hcheck, hdone,
        Context.cancelled_iff_of_done hdone⟩
  case aborted =>
    rintro ⟨rfl, rfl, hlength, hfails, rfl, hcheck, hdone, -⟩
    rw [h.returns_iff, Nat.add_comm]
    exact .aborted hfails (by omega) hcheck hdone
  case complete =>
    cases h.ended hend with
    | exhausted => exact .inl ⟨_, rfl⟩
    | aborted => exact .inr ⟨_, _, _, rfl⟩

/-- Of a pause of thirty years and a millisecond the millisecond is missing. -/
theorem long_pause_cut_short :
    let policy : RetryPolicy := ⟨2, Span.ofMillis 946080000001⟩
    let transport : Transport Unit := fun _ => .returns 0 false (.error (.missingDestination .teams))
    let c : Context := ⟨nanosPerMilli * 100000000000000, none⟩
    let t := attempts policy transport c 0
    policy.delay.toNanos = nanosPerMilli * 946080000001 ∧
      t.calls = [(0, 1), (nanosPerMilli * 946080000000, 2), (nanosPerMilli * 1892160000000, 3)] ∧
      ¬t.calls.IsChain fun call next =>
        next.1 = transport.endOf call + policy.delay.toNanos := by
  decide +kernel

end AlertRelay
