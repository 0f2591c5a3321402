import AlertRelay.Proofs.Delivery.Budget
import AlertRelay.Proofs.Delivery.Course
import Mathlib.Data.List.Basic

/-!
# Verdicts on deliveries

A delivery that returns has come to one of four verdicts: it had nowhere to go, it was given up
before anything was tried, it was delivered by its last call, or all of its calls failed. Each
verdict says what was tried and what the result is (`Verdict.Fits`), and exactly one of them fits
(`Sender.existsUnique_verdict`). So a cancellation alone is never reported as a failure: a delivery
fails only when at least one call has failed, and the error of the last call is part of the result.

How attempts end is told by their calls (`Ended`). It is shown by induction on how they went
(`Attempting.ended`), and a verdict needs only what they come to of it (`Ended.upshot`). What is
known about the times of their calls is shown in the same way: no call is made at an instant at
which the context is done (`Attempting.live_of_mem_calls`), nor after a call that has cancelled the
program (`Attempting.call_le_cancelsAt`).
-/

namespace AlertRelay

section Calls

variable {α : Type}

/-- The error that a call returns, if it fails. -/
def Attempt.error? : Attempt α → Option DeliveryError
  | .returns _ _ (.error e) => some e
  | _ => none

/-- Whether a call succeeds. -/
def Attempt.succeeds : Attempt α → Bool
  | .returns _ _ (.ok _) => true
  | _ => false

/-- All of these calls fail. -/
def Transport.FailsOn (transport : Transport α) (calls : List (Instant × Nat)) : Prop :=
  ∀ call ∈ calls, (transport call.2).error?.isSome = true

/-- The error of the last one of these calls, or the one `before` them if there are none. -/
def Transport.lastError? (transport : Transport α) (before : Option DeliveryError) :
    List (Instant × Nat) → Option DeliveryError
  | [] => before
  | call :: rest => transport.lastError? (transport call.2).error? rest

theorem Transport.lastError?_concat (transport : Transport α) (before : Option DeliveryError)
    (calls : List (Instant × Nat)) (call : Instant × Nat) :
    transport.lastError? before (calls ++ [call]) = (transport call.2).error? := by
  induction calls generalizing before with
  | nil => rfl
  | cons first calls ih => exact ih _

/-- A call returns this at `u`. -/
def Transport.Returns (transport : Transport α) (call : Instant × Nat) (u : Instant)
    (outcome : Except DeliveryError α) : Prop :=
  ∃ after cancelsRoot, transport call.2 = .returns after cancelsRoot outcome ∧ u = call.1 + after

/-- When a call returns. -/
def Transport.endOf (transport : Transport α) (call : Instant × Nat) : Instant :=
  call.1 + (transport call.2).took

/-- Whether a call cancels the program when it returns. -/
def Attempt.cancels : Attempt α → Bool
  | .returns _ cancelsRoot _ => cancelsRoot
  | .hangs => false

/-- The context after some calls. -/
def Context.afterCalls (transport : Transport α) : Context → List (Instant × Nat) → Context
  | c, [] => c
  | c, call :: calls =>
    afterCalls transport (c.afterCall (transport call.2).cancels (transport.endOf call)) calls

/-- When the context is looked at after these calls, the first of which may be made at `now`. -/
def nextCheck (policy : RetryPolicy) (transport : Transport α) (c : Context) (now : Instant)
    (calls : List (Instant × Nat)) : Instant :=
  match calls.getLast? with
  | none => now
  | some call => pauseEnd (c.afterCalls transport calls) policy.delay (transport.endOf call)

/-- The next look at the context behind a call and others. -/
theorem nextCheck_cons (policy : RetryPolicy) (transport : Transport α) (c : Context)
    (now : Instant) (call : Instant × Nat) (calls : List (Instant × Nat)) :
    nextCheck policy transport c now (call :: calls) =
      nextCheck policy transport
        (c.afterCall (transport call.2).cancels (transport.endOf call))
        (pauseEnd (c.afterCall (transport call.2).cancels (transport.endOf call)) policy.delay
          (transport.endOf call)) calls := by
  cases calls with
  | nil => rfl
  | cons next calls =>
    rw [nextCheck, List.getLast?_cons_cons]
    rfl

end Calls

/-! ### What attempts come to -/

section Attempts

variable {α : Type} {policy : RetryPolicy} {transport : Transport α} {left number : Nat}
  {c : Context} {now u : Instant} {last : Option DeliveryError} {t : Trace (Except DeliveryError α)}
  {calls : List (Instant × Nat)} {r : Except DeliveryError α}

/-- What attempts that make these calls return, and when, if the first one has the given number and
may be made at `now`, and `left` more are allowed after it. The error before them is `last`. -/
inductive Ended (policy : RetryPolicy) (transport : Transport α) (left number : Nat) (c : Context)
    (now : Instant) (last : Option DeliveryError) (calls : List (Instant × Nat)) :
    Instant → Except DeliveryError α → Prop
  /-- The last call succeeds, and all others fail. -/
  | delivered {earlier : List (Instant × Nat)} {call : Instant × Nat} {u : Instant} {value : α}
      (hcalls : calls = earlier ++ [call]) (hearlier : transport.FailsOn earlier)
      (hlast : transport.Returns call u (.ok value)) :
      Ended policy transport left number c now last calls u (.ok value)
  /-- All attempts that are allowed fail, and there is no pause behind the last one. -/
  | exhausted {earlier : List (Instant × Nat)} {call : Instant × Nat} {u : Instant}
      {e : DeliveryError} (hcalls : calls = earlier ++ [call])
      (hearlier : transport.FailsOn earlier) (hlength : calls.length = left + 1)
      (hlast : transport.Returns call u (.error e)) :
      Ended policy transport left number c now last calls u
        (.error (.attemptsExhausted policy.attempts e))
  /-- All attempts up to the end of the context fail, and more were allowed. -/
  | aborted {u : Instant} {reason : DoneReason} (hfails : transport.FailsOn calls)
      (hlength : calls.length ≤ left) (hcheck : u = nextCheck policy transport c now calls)
      (hdone : (c.afterCalls transport calls).doneReason? u = some reason) :
      Ended policy transport left number c now last calls u
        (.error (.aborted (number + calls.length) policy.attempts reason
          (transport.lastError? last calls)))

/-- A failed attempt in front of others. -/
theorem Ended.cons {after : Nat} {cancelsRoot : Bool} {e : DeliveryError}
    (hcall : transport number = .returns after cancelsRoot (.error e))
    (h : Ended policy transport left (number + 1) (c.afterCall cancelsRoot (now + after))
      (pauseEnd (c.afterCall cancelsRoot (now + after)) policy.delay (now + after)) (some e)
      calls u r) :
    Ended policy transport (left + 1) number c now last ((now, number) :: calls) u r := by
  have herror : (transport number).error? = some e := by rw [hcall]; rfl
  have hfail : (transport number).error?.isSome = true := by rw [herror]; rfl
  have hcons {earlier : List (Instant × Nat)} (hearlier : transport.FailsOn earlier) :
      transport.FailsOn ((now, number) :: earlier) := List.forall_mem_cons.2 ⟨hfail, hearlier⟩
  have hlater : c.afterCall (transport number).cancels (transport.endOf (now, number)) =
      c.afterCall cancelsRoot (now + after) := by
    rw [Transport.endOf, hcall]
    rfl
  have hend : transport.endOf (now, number) = now + after := by
    rw [Transport.endOf, hcall]
    rfl
  cases h with
  | delivered hcalls hearlier hlast =>
    refine .delivered ?_ (hcons hearlier) hlast
    rw [hcalls, List.cons_append]
  | exhausted hcalls hearlier hlength hlast =>
    refine .exhausted ?_ (hcons hearlier) (congrArg Nat.succ hlength) hlast
    rw [hcalls, List.cons_append]
  | aborted hfails hlength hcheck hdone =>
    have hnumber : number + 1 + calls.length = number + ((now, number) :: calls).length := by
      rw [List.length_cons]
      omega
    have herrors : transport.lastError? (some e) calls =
        transport.lastError? last ((now, number) :: calls) :=
      (congrArg (transport.lastError? · calls) herror).symm
    rw [hnumber, herrors]
    refine .aborted (hcons hfails) (Nat.succ_le_succ hlength) ?_ ?_
    · rw [nextCheck_cons, hlater, hend]
      exact hcheck
    · rw [Context.afterCalls, hlater]
      exact hdone

/-- Attempts that return end in one of these ways. -/
theorem Attempting.ended (h : Attempting policy transport left c number now last t)
    (hend : t.ending = .returns u r) :
    Ended policy transport left number c now last t.calls u r := by
  induction h with
  | abort hdone =>
    cases hend
    exact .aborted (fun call hcall => nomatch hcall) (Nat.zero_le _) rfl hdone
  | hang hlive hcall => cases hend
  | succeed hlive hcall =>
    cases hend
    exact .delivered (List.nil_append _).symm (fun call hcall => nomatch hcall) ⟨_, _, hcall, rfl⟩
  | exhaust hlive hcall =>
    cases hend
    exact .exhausted (List.nil_append _).symm (fun call hcall => nomatch hcall) rfl
      ⟨_, _, hcall, rfl⟩
  | retry hlive hcall hrest ih => exact (ih hend).cons hcall

/-- What comes of attempts that make these calls, with `left` more allowed after the first one,
which has the given number. The error before them is `last`. -/
inductive Upshot (policy : RetryPolicy) (transport : Transport α) (left number : Nat)
    (last : Option DeliveryError) (calls : List (Instant × Nat)) : Except DeliveryError α → Prop
  /-- The last call succeeds, and all others fail. -/
  | delivered {earlier : List (Instant × Nat)} {call : Instant × Nat} {value : α}
      (hcalls : calls = earlier ++ [call]) (hearlier : transport.FailsOn earlier)
      (hlast : (transport call.2).succeeds = true) :
      Upshot policy transport left number last calls (.ok value)
  /-- All attempts that are allowed fail. -/
  | exhausted {e : DeliveryError} (hfails : transport.FailsOn calls)
      (hlength : calls.length = left + 1) (hlast : transport.lastError? last calls = some e) :
      Upshot policy transport left number last calls (.error (.attemptsExhausted policy.attempts e))
  /-- All attempts up to the end of the context fail. -/
  | aborted {reason : DoneReason} (hfails : transport.FailsOn calls) :
      Upshot policy transport left number last calls
        (.error (.aborted (number + calls.length) policy.attempts reason
          (transport.lastError? last calls)))

/-- An end says what the attempts come to. -/
theorem Ended.upshot (h : Ended policy transport left number c now last calls u r) :
    Upshot policy transport left number last calls r := by
  cases h with
  | delivered hcalls hearlier hlast =>
    obtain ⟨after, cancelsRoot, hcall, -⟩ := hlast
    exact .delivered hcalls hearlier (by rw [hcall]; rfl)
  | @exhausted earlier call u e hcalls hearlier hlength hlast =>
    obtain ⟨after, cancelsRoot, hcall, -⟩ := hlast
    have herror : (transport call.2).error? = some e := by rw [hcall]; rfl
    have hfails : transport.FailsOn calls := by
      rw [hcalls]
      refine List.forall_mem_append.2 ⟨hearlier, List.forall_mem_singleton.2 ?_⟩
      rw [herror]
      rfl
    refine .exhausted hfails hlength ?_
    rw [hcalls, transport.lastError?_concat]
    exact herror
  | aborted hfails => exact .aborted hfails

/-- A context that is cancelled in the course of a call is not live again. -/
theorem Context.live_of_afterCall {cancelsRoot : Bool} {u v : Instant}
    (h : (c.afterCall cancelsRoot u).doneReason? v = none) : c.doneReason? v = none := by
  cases cancelsRoot with
  | false => exact h
  | true =>
    obtain ⟨hcancelled, hdeadline⟩ := doneReason?_eq_none_iff.1 h
    refine doneReason?_eq_none_iff.2 ⟨fun w hw => ?_, hdeadline⟩
    have hmin : v < min w u := hcancelled _ (by rw [afterCall, if_pos rfl, cancel, hw])
    exact Nat.lt_of_lt_of_le hmin (Nat.min_le_left _ _)

/-- A call that cancels the program leaves the context done. -/
theorem Context.done_of_afterCall {u v : Instant} (huv : u ≤ v) :
    (c.afterCall true u).doneReason? v ≠ none := by
  intro h
  obtain ⟨hcancelled, -⟩ := doneReason?_eq_none_iff.1 h
  cases hc : c.cancelledAt with
  | none =>
    have hlt : v < u := hcancelled u (by rw [afterCall, if_pos rfl, cancel, hc])
    exact absurd huv (Nat.not_le_of_lt hlt)
  | some w =>
    have hlt : v < min w u := hcancelled _ (by rw [afterCall, if_pos rfl, cancel, hc])
    exact absurd huv (Nat.not_le_of_lt (Nat.lt_of_lt_of_le hlt (Nat.min_le_right _ _)))

/-- No call is made when the context is done. -/
theorem Attempting.live_of_mem_calls (h : Attempting policy transport left c number now last t) :
    ∀ call ∈ t.calls, c.doneReason? call.1 = none := by
  induction h with
  | abort hdone => exact fun call hcall => nomatch hcall
  | hang hlive | succeed hlive | exhaust hlive =>
    intro call hcall
    obtain rfl := List.mem_singleton.1 hcall
    exact hlive
  | retry hlive hcall hrest ih =>
    intro call hcall
    rcases List.mem_cons.1 hcall with rfl | hcall
    · exact hlive
    · exact Context.live_of_afterCall (ih call hcall)

/-- When no attempt is allowed any more, none is made. -/
theorem Attempting.eq_nil_of_done (h : Attempting policy transport left c number now last t)
    (hdone : c.doneReason? now ≠ none) : t.calls = [] := by
  cases h with
  | abort => rfl
  | hang hlive | succeed hlive | exhaust hlive | retry hlive => exact absurd hlive hdone

/-- The calls are numbered one after the other. -/
theorem Attempting.map_snd_calls (h : Attempting policy transport left c number now last t) :
    t.calls.map Prod.snd = List.range' number t.calls.length := by
  induction h with
  | abort | hang | succeed | exhaust => rfl
  | retry hlive hcall hrest ih =>
    rw [Trace.calls_addCall, List.map_cons, ih, List.length_cons, List.range'_succ]

/-- No call comes after one that has cancelled the program, which happens after the start. -/
theorem Attempting.call_le_cancelsAt (h : Attempting policy transport left c number now last t)
    {u : Instant} (hu : t.cancelsAt = some u) : now ≤ u ∧ ∀ call ∈ t.calls, call.1 ≤ u := by
  -- A single call comes before its own end.
  have hsingle : ∀ {now after v : Instant} {number : Nat}, v = now + after →
      now ≤ v ∧ ∀ call ∈ [(now, number)], call.1 ≤ v := by
    rintro now after v number rfl
    refine ⟨Nat.le_add_right _ _, fun call hcall => ?_⟩
    obtain rfl := List.mem_singleton.1 hcall
    exact Nat.le_add_right _ _
  induction h with
  | abort | hang => cases hu
  | @succeed _ _ _ _ _ _ cancelsRoot | @exhaust _ _ _ _ _ cancelsRoot =>
    cases cancelsRoot with
    | false => cases hu
    | true => exact hsingle (Option.some.inj hu).symm
  | @retry left number after c now last cancelsRoot e rest hlive hcall hrest ih =>
    cases cancelsRoot with
    | false =>
      obtain ⟨hlater, hcalls⟩ := ih hu
      have hpause := le_pauseEnd (c.afterCall false (now + after)) policy.delay (now + after)
      have hnow : now ≤ u :=
        Nat.le_trans (Nat.le_add_right _ _) (Nat.le_trans hpause hlater)
      exact ⟨hnow, List.forall_mem_cons.2 ⟨hnow, hcalls⟩⟩
    | true =>
      have hnone : rest.calls = [] :=
        hrest.eq_nil_of_done (Context.done_of_afterCall (le_pauseEnd _ _ _))
      rw [Trace.calls_addCall, hnone]
      exact hsingle (Option.some.inj hu).symm

end Attempts

/-! ### Verdicts -/

/-- How a delivery ends. -/
inductive Verdict where
  /-- There is nowhere to send to. -/
  | unaddressed
  /-- The time is over before anything is tried. -/
  | givenUp
  | delivered
  | failed
  deriving DecidableEq, Repr

/-- What a verdict says about a delivery from `now` on that made these calls and returned `r` at
`u`. -/
def Verdict.Fits (s : Sender) (clock : String) (choice : Choice) (transport : Transport Unit)
    (c : Context) (slot now : Instant) (calls : List (Instant × Nat)) (u : Instant)
    (r : DeliveryResult) : Verdict → Prop
  | .unaddressed =>
    s.lacksDestination = true ∧ u = now ∧ calls = [] ∧
      r = .failed s.channel (.missingDestination s.channel)
  | .givenUp =>
    u = (waitForSlot c choice s.channel slot now).time ∧ c.doneReason? u ≠ none ∧ calls = [] ∧
      ∃ message, r = .cancelled s.channel message
  | .delivered =>
    ∃ earlier call, calls = earlier ++ [call] ∧ transport.FailsOn earlier ∧
      (transport call.2).succeeds = true ∧ r = .succeeded s.channel (s.successMessage clock)
  | .failed =>
    ∃ earlier call e source, calls = earlier ++ [call] ∧ transport.FailsOn calls ∧
      (transport call.2).error? = some e ∧
      r = .failed s.channel (.delivery s.destination source) ∧
      ((source = .attemptsExhausted s.policy.attempts e ∧ calls.length = s.policy.attempts) ∨
        ∃ reason, source = .aborted (calls.length + 1) s.policy.attempts reason (some e))

/-- How a result counts under a verdict, and whether it says that there is nowhere to send to. -/
def Verdict.mark : Verdict → Outcome × Bool
  | .unaddressed => (.failed, true)
  | .givenUp => (.cancelled, false)
  | .delivered => (.succeeded, false)
  | .failed => (.failed, false)

/-- Whether a result says that there is nowhere to send to. -/
def DeliveryResult.isUnaddressed (r : DeliveryResult) : Bool :=
  match r.error with
  | some (.missingDestination _) => true
  | _ => false

variable {s : Sender} {clock : String} {choice : Choice} {transport : Transport Unit}
  {c : Context} {slot now u : Instant} {r : DeliveryResult} {calls : List (Instant × Nat)}

/-- The result of a delivery shows the verdict on it. -/
theorem Verdict.Fits.mark_eq {v : Verdict}
    (h : v.Fits s clock choice transport c slot now calls u r) :
    v.mark = (r.outcome, r.isUnaddressed) := by
  cases v with
  | unaddressed =>
    obtain ⟨-, -, -, rfl⟩ := h
    rfl
  | givenUp =>
    obtain ⟨-, -, -, message, rfl⟩ := h
    rfl
  | delivered =>
    obtain ⟨earlier, call, -, -, -, rfl⟩ := h
    rfl
  | failed =>
    obtain ⟨earlier, call, e, source, -, -, -, rfl, -⟩ := h
    rfl

/-- No two verdicts fit the same delivery. -/
theorem Verdict.Fits.unique {v w : Verdict}
    (hv : v.Fits s clock choice transport c slot now calls u r)
    (hw : w.Fits s clock choice transport c slot now calls u r) : v = w := by
  have hmark : v.mark = w.mark := hv.mark_eq.trans hw.mark_eq.symm
  cases v <;> cases w <;> first | rfl | exact absurd hmark (by decide)

/-- What all attempts come to is a verdict on the delivery. -/
theorem Upshot.exists_verdict {outcome : Except DeliveryError Unit}
    (h : Upshot s.policy transport (s.policy.attempts - 1) 1 none calls outcome)
    (hcalls : calls ≠ []) (hpos : 0 < s.policy.attempts) :
    ∃ v : Verdict, v.Fits s clock choice transport c slot now calls u (s.resultOf clock outcome) := by
  -- When all calls have failed, the error before them is the one of the last call.
  obtain ⟨earlier, call, rfl⟩ := (List.eq_nil_or_concat' calls).resolve_left hcalls
  have hlast : transport.lastError? none (earlier ++ [call]) = (transport call.2).error? :=
    transport.lastError?_concat none earlier call
  cases h with
  | delivered hcalls hearlier hsucceeds =>
    exact ⟨.delivered, _, _, hcalls, hearlier, hsucceeds, rfl⟩
  | @exhausted e hfails hlength herror =>
    refine ⟨.failed, earlier, call, e, _, rfl, hfails, hlast.symm.trans herror, rfl, .inl ⟨rfl, ?_⟩⟩
    omega
  | @aborted reason hfails =>
    obtain ⟨e, he⟩ := Option.isSome_iff_exists.1
      (hfails call (List.mem_append_right _ (List.mem_singleton_self call)))
    refine ⟨.failed, earlier, call, e, _, rfl, hfails, he, rfl, .inr ⟨reason, ?_⟩⟩
    rw [hlast, he, Nat.add_comm]

namespace Sender

/-- Calls are made neither before the slot nor when the context is done, and none of them after one
that has cancelled the program. -/
theorem live_of_mem_calls {call : Instant × Nat}
    (hcall : call ∈ (s.send clock choice transport c slot now).calls) :
    max now slot ≤ call.1 ∧ c.doneReason? call.1 = none ∧
      ∀ u, (s.send clock choice transport c slot now).cancelsAt = some u → call.1 ≤ u := by
  obtain ⟨-, hsend⟩ | ⟨-, message, -, hsend⟩ | ⟨-, hlive, hsend⟩ :=
    s.send_cases clock choice transport c slot now
  · rw [hsend] at hcall
    cases hcall
  · rw [hsend] at hcall
    cases hcall
  · rw [hsend] at hcall ⊢
    have hrun := attempting_attempts s.policy transport c (max now slot)
    exact ⟨hrun.runsFrom.le_call call hcall, hrun.live_of_mem_calls call hcall,
      fun u hu => (hrun.call_le_cancelsAt hu).2 call hcall⟩

/-- A delivery that returns has come to a verdict. -/
theorem exists_verdict (hend : (s.send clock choice transport c slot now).ending = .returns u r) :
    ∃ v : Verdict, v.Fits s clock choice transport c slot now
      (s.send clock choice transport c slot now).calls u r := by
  obtain ⟨hdest, hsend⟩ | ⟨-, message, hdone, hsend⟩ | ⟨-, hlive, hsend⟩ :=
    s.send_cases clock choice transport c slot now
  · rw [hsend] at hend ⊢
    cases hend
    exact ⟨.unaddressed, hdest, rfl, rfl, rfl⟩
  · rw [hsend] at hend ⊢
    cases hend
    exact ⟨.givenUp, rfl, hdone, rfl, message, rfl⟩
  · rw [hsend] at hend ⊢
    obtain ⟨outcome, houtcome, rfl⟩ := Trace.map_returns_iff.1 hend
    have hrun := attempting_attempts s.policy transport c (max now slot)
    obtain ⟨rest, hcalls⟩ := hrun.calls_of_live hlive
    have hsome : (attempts s.policy transport c (max now slot)).calls ≠ [] := by
      rw [hcalls]
      exact List.cons_ne_nil _ _
    have hpos : 0 < s.policy.attempts := Nat.lt_min.2 ⟨Nat.succ_pos _, by decide⟩
    exact (hrun.ended houtcome).upshot.exists_verdict hsome hpos

/-- The calls of a delivery are numbered from 1 on. -/
theorem map_snd_calls (s : Sender) (clock : String) (choice : Choice) (transport : Transport Unit)
    (c : Context) (slot now : Instant) :
    (s.send clock choice transport c slot now).calls.map Prod.snd =
      List.range' 1 (s.send clock choice transport c slot now).calls.length := by
  obtain ⟨-, hsend⟩ | ⟨-, message, -, hsend⟩ | ⟨-, -, hsend⟩ :=
    s.send_cases clock choice transport c slot now
  · rw [hsend]
    rfl
  · rw [hsend]
    rfl
  · rw [hsend]
    exact (attempting_attempts _ _ _ _).map_snd_calls

/-- When a delivery returns, exactly one verdict fits: there was nowhere to send to, and it returned
at once; or its time was over when the wait for the slot ended, and nothing was tried; or its last
call succeeded after all others had failed; or all of its calls failed, at least one, and the error
of the last one is reported. The calls are numbered from 1 on, and none of them is made before the
slot, at an instant at which the time is over, or after one that has cancelled the program. -/
theorem existsUnique_verdict
    (hend : (s.send clock choice transport c slot now).ending = .returns u r) :
    (∃! v : Verdict, v.Fits s clock choice transport c slot now
      (s.send clock choice transport c slot now).calls u r) ∧
    (s.send clock choice transport c slot now).calls.map Prod.snd =
      List.range' 1 (s.send clock choice transport c slot now).calls.length ∧
    ∀ call ∈ (s.send clock choice transport c slot now).calls,
      max now slot ≤ call.1 ∧ c.doneReason? call.1 = none ∧
        ∀ u, (s.send clock choice transport c slot now).cancelsAt = some u → call.1 ≤ u := by
  obtain ⟨v, hv⟩ := exists_verdict hend
  exact ⟨⟨v, hv, fun w hw => hw.unique hv⟩, map_snd_calls _ _ _ _ _ _ _,
    fun _ hcall => live_of_mem_calls hcall⟩

/-- A webhook that is cancelled between its attempts has failed, since one of them has. -/
theorem exists_verdict_aborted :
    let s := Sender.teams
      ⟨"https://hooks.example", ⟨Span.zero, Span.ofSeconds 30, 2, Span.ofSeconds 1⟩⟩
    let transport : Transport Unit := fun _ => .returns 500 false (.error (.missingDestination .teams))
    let c : Context := ⟨30000000000, some 700⟩
    let t := s.send "12:00" {} transport c 100 0
    let r := DeliveryResult.failed .teams
      (.delivery "Microsoft Teams" (.aborted 2 3 .cancelled (some (.missingDestination .teams))))
    t.calls = [(100, 1)] ∧ t.ending = .returns 700 r ∧
      (∃! v : Verdict, v.Fits s "12:00" {} transport c 100 0 t.calls 700 r) ∧
      t.calls.map Prod.snd = List.range' 1 t.calls.length ∧
      ∀ call ∈ t.calls, max 0 100 ≤ call.1 ∧ c.doneReason? call.1 = none ∧
        ∀ u, t.cancelsAt = some u → call.1 ≤ u := by
  intro s transport c t r
  have hrun : t = (attempts s.policy transport c 100).map (s.resultOf "12:00") :=
    send_of_live (by decide +kernel) _ _ _ (by decide) rfl
  have hcalls : t.calls = [(100, 1)] := congrArg Trace.calls hrun
  have hend : t.ending = .returns 700 r := congrArg Trace.ending hrun
  exact ⟨hcalls, hend, @existsUnique_verdict s "12:00" {} transport c 100 0 700 r hend⟩

end Sender

end AlertRelay
