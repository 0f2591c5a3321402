import AlertRelay.Delivery.Sender
import Mathlib.Tactic.Common

/-!
# The course of a delivery

What can be said of every delivery, whatever its transport does. Its result is about its own channel
and no notice (`Sender.send_isAbout`); it returns if no call of the transport hangs
(`Sender.exists_send_returns`); no call comes before it starts or after it returns
(`Sender.send_runsFrom`), the first one comes exactly at its slot (`Sender.calls_send`), and there
is none at all if its time is over from the beginning (`Sender.calls_send_of_done`); and the time of
day appears in the words of its result alone (`Sender.send_clock`).

A delivery is one of three: it has nowhere to go, its wait for the slot is given up, or it is
attempted (`Sender.send_cases`). `Attempting` lists the ways in which attempts may go on, with the
condition under which they do. All attempts go in these ways (`attempting_attemptsFrom`), so that
what is said of them is shown by induction on how they went.
-/

namespace AlertRelay

/-- A result is about a notification that was to be sent on the given channel. -/
def DeliveryResult.IsAbout (r : DeliveryResult) (ch : Channel) : Prop :=
  r.channel = ch ∧ r.isNotice = false

namespace DeliveryResult

theorem isAbout_succeeded (ch : Channel) (message : String) :
    (succeeded ch message).IsAbout ch := ⟨rfl, rfl⟩

theorem isAbout_failed (ch : Channel) (e : DeliveryError) : (failed ch e).IsAbout ch := ⟨rfl, rfl⟩

theorem isAbout_cancelled (ch : Channel) (message : String) :
    (cancelled ch message).IsAbout ch := ⟨rfl, rfl⟩

end DeliveryResult

namespace Trace

variable {β γ : Type}

/-- A changed value is returned exactly when the unchanged one is. -/
theorem map_returns_iff {f : β → γ} {t : Trace β} {u : Instant} {c : γ} :
    (t.map f).ending = .returns u c ↔ ∃ b, t.ending = .returns u b ∧ f b = c := by
  unfold map
  cases t.ending with
  | returns v b =>
    simp only [Ending.returns.injEq]
    constructor
    · rintro ⟨rfl, rfl⟩
      exact ⟨b, ⟨rfl, rfl⟩, rfl⟩
    · rintro ⟨b', ⟨rfl, rfl⟩, rfl⟩
      exact ⟨rfl, rfl⟩
  | hangs => simp

theorem calls_addCall (call : Instant × Nat) (at? : Option Instant) (t : Trace β) :
    (t.addCall call at?).calls = call :: t.calls := rfl

variable {δ : Type}

/-- Two changes of the value are one. -/
theorem map_map (f : β → γ) (g : γ → δ) (t : Trace β) : (t.map f).map g = t.map (g ∘ f) := by
  obtain ⟨calls, cancelsAt, ending⟩ := t
  cases ending <;> rfl

/-- Activities that differ in the words that they return return at the same time. -/
theorem returnsAt?_map (f : β → γ) (t : Trace β) : (t.map f).returnsAt? = t.returnsAt? := by
  obtain ⟨calls, cancelsAt, ending⟩ := t
  cases ending <;> rfl

/-- When an activity returns it returns something. -/
theorem returnsAt?_eq_some {t : Trace β} {u : Instant} :
    t.returnsAt? = some u ↔ ∃ b, t.ending = .returns u b := by
  unfold returnsAt?
  cases t.ending with
  | returns v b => simp
  | hangs => simp

/-- The calls of an activity come no earlier than `now`, and its end no earlier than its calls. -/
structure RunsFrom (t : Trace β) (now : Instant) : Prop where
  le_call : ∀ c ∈ t.calls, now ≤ c.1
  le_end : ∀ u, t.returnsAt? = some u → now ≤ u
  call_le_end : ∀ c ∈ t.calls, ∀ u, t.returnsAt? = some u → c.1 ≤ u

/-- An activity that returns without any call, now or later. -/
theorem runsFrom_done {t now : Instant} (h : now ≤ t) (value : β) :
    (Trace.done t value).RunsFrom now where
  le_call _ hc := nomatch hc
  le_end u hu := by
    obtain rfl : t = u := Option.some.inj hu
    exact h
  call_le_end _ hc := nomatch hc

/-- An activity that hangs in its first call. -/
theorem runsFrom_hangs (now : Instant) (number : Nat) :
    (⟨[(now, number)], none, .hangs⟩ : Trace β).RunsFrom now where
  le_call c hc := by
    obtain rfl := List.mem_singleton.1 hc
    exact Nat.le_refl _
  le_end _ hu := nomatch hu
  call_le_end _ _ _ hu := nomatch hu

/-- An activity that goes on after a call. -/
theorem RunsFrom.addCall {t : Trace β} {now later : Instant} (h : t.RunsFrom later)
    (hle : now ≤ later) (number : Nat) (at? : Option Instant) :
    (t.addCall (now, number) at?).RunsFrom now where
  le_call c hc := by
    rcases List.mem_cons.1 hc with rfl | hc
    · exact Nat.le_refl _
    · exact Nat.le_trans hle (h.le_call c hc)
  le_end u hu := Nat.le_trans hle (h.le_end u hu)
  call_le_end c hc u hu := by
    rcases List.mem_cons.1 hc with rfl | hc
    · exact Nat.le_trans hle (h.le_end u hu)
    · exact h.call_le_end c hc u hu

/-- The value makes no difference to the times. -/
theorem RunsFrom.map {t : Trace β} {now : Instant} (h : t.RunsFrom now) (f : β → γ) :
    (t.map f).RunsFrom now where
  le_call := h.le_call
  le_end u hu := h.le_end u (by rwa [returnsAt?_map] at hu)
  call_le_end c hc u hu := h.call_le_end c hc u (by rwa [returnsAt?_map] at hu)

/-- What comes no earlier than `now` comes no earlier than anything before it. -/
theorem RunsFrom.mono {t : Trace β} {now earlier : Instant} (h : t.RunsFrom now)
    (hle : earlier ≤ now) : t.RunsFrom earlier where
  le_call c hc := Nat.le_trans hle (h.le_call c hc)
  le_end u hu := Nat.le_trans hle (h.le_end u hu)
  call_le_end := h.call_le_end

end Trace

/-! ### Contexts and slots -/

namespace Context

variable {c : Context} {now : Instant} {timers : Timers}

/-- A wait for the end of a context is over now or later. -/
theorem le_doneAt (c : Context) (now : Instant) (timers : Timers) :
    now ≤ c.doneAt now timers := by
  unfold doneAt
  split
  · exact Nat.le_max_left _ _
  · exact Nat.le_max_left _ _

/-- A context is not done before its deadline and its cancellation. -/
theorem doneReason?_eq_none_iff :
    c.doneReason? now = none ↔ (∀ t, c.cancelledAt = some t → now < t) ∧ now < c.deadline := by
  unfold doneReason? isCancelled
  cases hcancelled : c.cancelledAt with
  | none =>
    by_cases hlate : c.deadline ≤ now
    · simp [hlate]
    · simpa [hlate] using Nat.lt_of_not_le hlate
  | some t =>
    by_cases ht : t ≤ now
    · simp [ht, Nat.not_lt_of_le ht]
    · by_cases hlate : c.deadline ≤ now
      · simp [ht, hlate]
      · simpa [ht, hlate] using ⟨Nat.lt_of_not_le ht, Nat.lt_of_not_le hlate⟩

/-- A context that is not cancelled is done when its deadline has passed, and only then. -/
theorem doneReason?_of_uncancelled (hun : c.cancelledAt = none) :
    c.doneReason? now = if c.deadline ≤ now then some .deadlineExceeded else none := by
  unfold doneReason? isCancelled
  rw [hun]
  rfl

theorem le_of_deadlineExceeded (h : c.doneReason? now = some .deadlineExceeded) :
    c.deadline ≤ now := by
  unfold doneReason? at h
  split at h
  · cases h
  · split at h
    · assumption
    · cases h

/-- A context that is not done was not done before. -/
theorem live_of_le {later : Instant} (hlive : c.doneReason? later = none) (hle : now ≤ later) :
    c.doneReason? now = none := by
  obtain ⟨hcancelled, hdeadline⟩ := doneReason?_eq_none_iff.1 hlive
  exact doneReason?_eq_none_iff.2
    ⟨fun t ht => Nat.lt_of_le_of_lt hle (hcancelled t ht), Nat.lt_of_le_of_lt hle hdeadline⟩

/-- A wait for the end of a context is not over as long as the context is not done. -/
theorem lt_doneAt_of_live {later : Instant} (hlive : c.doneReason? later = none) :
    later < c.doneAt now timers := by
  obtain ⟨hcancelled, hdeadline⟩ := doneReason?_eq_none_iff.1 hlive
  have hring : later < timers.ring c.deadline := Nat.lt_of_lt_of_le hdeadline (timers.le_ring _)
  unfold doneAt
  split
  · rename_i t ht
    exact Nat.lt_of_lt_of_le (Nat.lt_min.2 ⟨hcancelled t ht, hring⟩) (Nat.le_max_right _ _)
  · exact Nat.lt_of_lt_of_le hring (Nat.le_max_right _ _)

/-- A context is done when a wait for its end is over. -/
theorem done_at_doneAt (c : Context) (now : Instant) (timers : Timers) :
    c.doneReason? (c.doneAt now timers) ≠ none := by
  intro hlive
  exact Nat.lt_irrefl _ (lt_doneAt_of_live hlive)

end Context

section Wait

variable {c : Context} {choice : Choice} {ch : Channel} {slot now : Instant} {timers : Timers}

/-- A wait that is not given up is over when the timer of the slot rings, and the context is not
done then. -/
theorem live_of_waitForSlot (h : (waitForSlot c choice ch slot now timers).cancelled = none) :
    (waitForSlot c choice ch slot now timers).time = max now (timers.ring slot) ∧
      c.doneReason? (max now (timers.ring slot)) = none := by
  unfold waitForSlot at h ⊢
  dsimp only at h ⊢
  split at h
  · cases h
  · rename_i hready
    rw [if_neg hready]
    split at h
    · cases h
    · rename_i hlive
      exact ⟨rfl, hlive⟩

/-- A wait is not given up if the context is not done when the timer of the slot rings. -/
theorem waitForSlot_of_live (hlive : c.doneReason? (max now (timers.ring slot)) = none) :
    waitForSlot c choice ch slot now timers = ⟨max now (timers.ring slot), none⟩ := by
  have hahead : max now (timers.ring slot) < c.doneAt now timers := Context.lt_doneAt_of_live hlive
  have hfirst : ¬c.doneAt now timers < max now (timers.ring slot) := Nat.not_lt_of_lt hahead
  have htie : (c.doneAt now timers == max now (timers.ring slot)) = false :=
    beq_false_of_ne (Nat.ne_of_gt hahead)
  unfold waitForSlot
  simp [hfirst, htie, hlive]

/-- A wait for a slot is over now or later. -/
theorem le_time_waitForSlot (c : Context) (choice : Choice) (ch : Channel) (slot now : Instant)
    (timers : Timers) : now ≤ (waitForSlot c choice ch slot now timers).time := by
  unfold waitForSlot
  dsimp only
  split
  · exact c.le_doneAt now timers
  · split
    · exact Nat.le_max_left _ _
    · exact Nat.le_max_left _ _

/-- A wait that is given up is over at an instant at which the context is done. -/
theorem done_of_waitForSlot {r : DeliveryResult}
    (h : (waitForSlot c choice ch slot now timers).cancelled = some r) :
    c.doneReason? (waitForSlot c choice ch slot now timers).time ≠ none ∧
      ∃ message, r = .cancelled ch message := by
  unfold waitForSlot at h ⊢
  dsimp only at h ⊢
  split at h
  · rename_i hfirst
    rw [if_pos hfirst]
    cases h
    exact ⟨c.done_at_doneAt now timers, _, rfl⟩
  · rename_i hready
    rw [if_neg hready]
    split at h
    · rename_i reason hdone
      cases h
      refine ⟨?_, _, rfl⟩
      rw [hdone]
      exact fun h => nomatch h
    · cases h

end Wait

/-! ### Attempts -/

/-- A pause does not end before it begins. -/
theorem le_pauseEnd (c : Context) (delay : Span) (now : Instant) :
    now ≤ pauseEnd c delay now := by
  unfold pauseEnd
  split
  · exact Nat.le_refl _
  · exact Nat.le_min.2 ⟨Nat.le_add_right _ _, c.le_doneAt now .exact⟩

section Attempts

variable {α : Type} {policy : RetryPolicy} {transport : Transport α}

/-- The context after a call that returns at `t`. -/
def Context.afterCall (c : Context) (cancelsRoot : Bool) (t : Instant) : Context :=
  if cancelsRoot then c.cancel t else c

/-- When the program is cancelled by a call that returns at `t`. -/
def cancellation (cancelsRoot : Bool) (t : Instant) : Option Instant :=
  if cancelsRoot then some t else none

/-- How attempts go on from number `number` on, with `left` more allowed after it. -/
inductive Attempting (policy : RetryPolicy) (transport : Transport α) :
    Nat → Context → Nat → Instant → Option DeliveryError → Trace (Except DeliveryError α) → Prop
  /-- The context is done, and there are no more attempts. -/
  | abort {left number : Nat} {c : Context} {now : Instant} {last : Option DeliveryError}
      {reason : DoneReason} (hdone : c.doneReason? now = some reason) :
      Attempting policy transport left c number now last
        (.done now (.error (.aborted number policy.attempts reason last)))
  | hang {left number : Nat} {c : Context} {now : Instant} {last : Option DeliveryError}
      (hlive : c.doneReason? now = none) (hcall : transport number = .hangs) :
      Attempting policy transport left c number now last ⟨[(now, number)], none, .hangs⟩
  | succeed {left number after : Nat} {c : Context} {now : Instant} {last : Option DeliveryError}
      {cancelsRoot : Bool} {value : α} (hlive : c.doneReason? now = none)
      (hcall : transport number = .returns after cancelsRoot (.ok value)) :
      Attempting policy transport left c number now last
        ((Trace.done (now + after) (.ok value)).addCall (now, number)
          (cancellation cancelsRoot (now + after)))
  /-- The last attempt that is allowed fails. -/
  | exhaust {number after : Nat} {c : Context} {now : Instant} {last : Option DeliveryError}
      {cancelsRoot : Bool} {e : DeliveryError} (hlive : c.doneReason? now = none)
      (hcall : transport number = .returns after cancelsRoot (.error e)) :
      Attempting policy transport 0 c number now last
        ((Trace.done (now + after) (.error (.attemptsExhausted policy.attempts e))).addCall
          (now, number) (cancellation cancelsRoot (now + after)))
  /-- An attempt fails, and after a pause there is another one. -/
  | retry {left number after : Nat} {c : Context} {now : Instant} {last : Option DeliveryError}
      {cancelsRoot : Bool} {e : DeliveryError} {rest : Trace (Except DeliveryError α)}
      (hlive : c.doneReason? now = none)
      (hcall : transport number = .returns after cancelsRoot (.error e))
      (hrest : Attempting policy transport left (c.afterCall cancelsRoot (now + after)) (number + 1)
        (pauseEnd (c.afterCall cancelsRoot (now + after)) policy.delay (now + after)) (some e)
        rest) :
      Attempting policy transport (left + 1) c number now last
        (rest.addCall (now, number) (cancellation cancelsRoot (now + after)))

/-- There is no other way. -/
theorem attempting_attemptsFrom (left : Nat) (c : Context) (number : Nat) (now : Instant)
    (last : Option DeliveryError) :
    Attempting policy transport left c number now last
      (attemptsFrom policy transport .exact left c number now last) := by
  induction left generalizing c number now last with
  | zero =>
    rw [attemptsFrom]
    split
    · exact .abort ‹_›
    · rename_i hlive
      cases hcall : transport number with
      | hangs => exact .hang hlive hcall
      | returns after cancelsRoot outcome =>
        cases outcome with
        | ok value => exact .succeed hlive hcall
        | error e => exact .exhaust hlive hcall
  | succ left ih =>
    rw [attemptsFrom]
    split
    · exact .abort ‹_›
    · rename_i hlive
      cases hcall : transport number with
      | hangs => exact .hang hlive hcall
      | returns after cancelsRoot outcome =>
        cases outcome with
        | ok value => exact .succeed hlive hcall
        | error e => exact .retry hlive hcall (ih _ _ _ _)

/-- All attempts of a delivery go in these ways. -/
theorem attempting_attempts (policy : RetryPolicy) (transport : Transport α) (c : Context)
    (now : Instant) :
    Attempting policy transport (policy.attempts - 1) c 1 now none
      (attempts policy transport c now) :=
  attempting_attemptsFrom _ _ _ _ _

variable {left number : Nat} {c : Context} {now : Instant} {last : Option DeliveryError}
  {t : Trace (Except DeliveryError α)}

/-- Attempts end if no call of the transport hangs. -/
theorem Attempting.exists_returns (h : Attempting policy transport left c number now last t)
    (hreturns : ∀ n, transport n ≠ .hangs) : ∃ u r, t.ending = .returns u r := by
  induction h with
  | abort hdone => exact ⟨_, _, rfl⟩
  | hang hlive hcall => exact absurd hcall (hreturns _)
  | succeed hlive hcall => exact ⟨_, _, rfl⟩
  | exhaust hlive hcall => exact ⟨_, _, rfl⟩
  | retry hlive hcall hrest ih => exact ih

/-- Attempts take their time. -/
theorem Attempting.runsFrom (h : Attempting policy transport left c number now last t) :
    t.RunsFrom now := by
  induction h with
  | abort hdone => exact Trace.runsFrom_done (Nat.le_refl _) _
  | hang hlive hcall => exact Trace.runsFrom_hangs _ _
  | succeed hlive hcall =>
    exact (Trace.runsFrom_done (Nat.le_refl _) _).addCall (Nat.le_add_right _ _) _ _
  | exhaust hlive hcall =>
    exact (Trace.runsFrom_done (Nat.le_refl _) _).addCall (Nat.le_add_right _ _) _ _
  | @retry _ _ after c now _ cancelsRoot _ _ hlive hcall hrest ih =>
    have hpause := le_pauseEnd (c.afterCall cancelsRoot (now + after)) policy.delay (now + after)
    exact ih.addCall (Nat.le_trans (Nat.le_add_right _ _) hpause) _ _

/-- If the context is not done, an attempt is made at once. -/
theorem Attempting.calls_of_live (h : Attempting policy transport left c number now last t)
    (hlive : c.doneReason? now = none) : ∃ rest, t.calls = (now, number) :: rest := by
  cases h with
  | abort hdone =>
    rw [hlive] at hdone
    cases hdone
  | _ => exact ⟨_, rfl⟩

end Attempts

namespace Sender

/-- Whether there is no destination to send to. -/
def lacksDestination : Sender → Bool
  | .teams c => c.webhookUrl.isEmpty
  | .email c => c.server.isEmpty

/-- The destination in words. -/
def destination : Sender → String
  | .teams _ => "Microsoft Teams"
  | .email c => c.destination

/-- The words for a success at the given time of day. -/
def successMessage (s : Sender) (clock : String) : String :=
  match s with
  | .teams _ => s!"Message successfully sent to Microsoft Teams at {clock}"
  | .email c => s!"Message successfully sent via SMTP server {c.destination} at {clock}"

/-- How often and at which pace a sender attempts a delivery. -/
def policy (s : Sender) : RetryPolicy :=
  ⟨s.settings.retries, s.settings.retryDelay⟩

/-- The result for what came of all attempts. -/
def resultOf (s : Sender) (clock : String) : Except DeliveryError Unit → DeliveryResult
  | .ok () => .succeeded s.channel (s.successMessage clock)
  | .error e => .failed s.channel (.delivery s.destination e)

variable {s : Sender} {clock : String} {choice : Choice} {transport : Transport Unit}
  {c : Context} {slot now : Instant}

/-- The channels differ in their destinations and words only. -/
theorem send_eq (s : Sender) (clock : String) (choice : Choice) (transport : Transport Unit)
    (c : Context) (slot now : Instant) (timers : Timers) :
    s.send clock choice transport c slot now timers =
      if s.lacksDestination then .done now (.failed s.channel (.missingDestination s.channel))
      else
        let wait := waitForSlot c choice s.channel slot now timers
        match wait.cancelled with
        | some cancelled => .done wait.time cancelled
        | none => (attempts s.policy transport c wait.time timers).map (s.resultOf clock) := by
  cases s <;> rfl

/-- The result for what came of all attempts is about the channel of the sender. -/
theorem isAbout_resultOf (s : Sender) (clock : String) (outcome : Except DeliveryError Unit) :
    (s.resultOf clock outcome).IsAbout s.channel := by
  cases outcome with
  | ok value => exact DeliveryResult.isAbout_succeeded _ _
  | error e => exact DeliveryResult.isAbout_failed _ _

/-- A delivery has nowhere to go; or its wait for the slot is given up; or it is attempted from the
slot on, or at once if the slot is over. -/
theorem send_cases (s : Sender) (clock : String) (choice : Choice) (transport : Transport Unit)
    (c : Context) (slot now : Instant) :
    (s.lacksDestination = true ∧ s.send clock choice transport c slot now =
        .done now (.failed s.channel (.missingDestination s.channel))) ∨
      (s.lacksDestination = false ∧ ∃ message,
        c.doneReason? (waitForSlot c choice s.channel slot now).time ≠ none ∧
          s.send clock choice transport c slot now =
            .done (waitForSlot c choice s.channel slot now).time (.cancelled s.channel message)) ∨
      (s.lacksDestination = false ∧ c.doneReason? (max now slot) = none ∧
        s.send clock choice transport c slot now =
          (attempts s.policy transport c (max now slot)).map (s.resultOf clock)) := by
  rw [send_eq]
  cases hdest : s.lacksDestination with
  | true => exact .inl ⟨rfl, rfl⟩
  | false =>
    right
    dsimp only
    cases hwait : (waitForSlot c choice s.channel slot now).cancelled with
    | some r =>
      obtain ⟨hdone, message, rfl⟩ := done_of_waitForSlot hwait
      exact .inl ⟨rfl, message, hdone, rfl⟩
    | none =>
      obtain ⟨htime, hlive⟩ := live_of_waitForSlot hwait
      rw [htime]
      exact .inr ⟨rfl, hlive, rfl⟩

/-- The result of a delivery is about its own channel and no notice. -/
theorem send_isAbout {t : Instant} {r : DeliveryResult}
    (h : (s.send clock choice transport c slot now).ending = .returns t r) :
    r.IsAbout s.channel := by
  obtain ⟨-, hsend⟩ | ⟨-, message, -, hsend⟩ | ⟨-, -, hsend⟩ :=
    s.send_cases clock choice transport c slot now
  · rw [hsend] at h
    cases h
    exact DeliveryResult.isAbout_failed _ _
  · rw [hsend] at h
    cases h
    exact DeliveryResult.isAbout_cancelled _ _
  · rw [hsend] at h
    obtain ⟨outcome, -, rfl⟩ := Trace.map_returns_iff.1 h
    exact isAbout_resultOf s clock outcome

/-- A delivery returns if no call of its transport hangs. -/
theorem exists_send_returns (hreturns : ∀ n, transport n ≠ .hangs) :
    ∃ t r, (s.send clock choice transport c slot now).ending = .returns t r := by
  obtain ⟨-, hsend⟩ | ⟨-, message, -, hsend⟩ | ⟨-, -, hsend⟩ :=
    s.send_cases clock choice transport c slot now
  · rw [hsend]
    exact ⟨_, _, rfl⟩
  · rw [hsend]
    exact ⟨_, _, rfl⟩
  · rw [hsend]
    obtain ⟨t, r, hr⟩ : ∃ t r, (attempts s.policy transport c (max now slot)).ending =
        .returns t r := (attempting_attempts _ _ _ _).exists_returns hreturns
    exact ⟨t, s.resultOf clock r, Trace.map_returns_iff.2 ⟨r, hr, rfl⟩⟩

/-- No call comes before a delivery starts, and none after it returns. -/
theorem send_runsFrom (s : Sender) (clock : String) (choice : Choice) (transport : Transport Unit)
    (c : Context) (slot now : Instant) :
    (s.send clock choice transport c slot now).RunsFrom now := by
  obtain ⟨-, hsend⟩ | ⟨-, message, -, hsend⟩ | ⟨-, -, hsend⟩ :=
    s.send_cases clock choice transport c slot now
  · rw [hsend]
    exact Trace.runsFrom_done (Nat.le_refl _) _
  · rw [hsend]
    exact Trace.runsFrom_done (le_time_waitForSlot c choice s.channel slot now .exact) _
  · rw [hsend]
    exact ((attempting_attempts _ _ _ _).runsFrom.mono (Nat.le_max_left _ _)).map _

/-- A delivery whose time is over from the beginning makes no call. -/
theorem calls_send_of_done {reason : DoneReason} (hdone : c.doneReason? now = some reason) :
    (s.send clock choice transport c slot now).calls = [] := by
  obtain ⟨-, hsend⟩ | ⟨-, message, -, hsend⟩ | ⟨-, hlive, -⟩ :=
    s.send_cases clock choice transport c slot now
  · rw [hsend]
    rfl
  · rw [hsend]
    rfl
  · rw [Context.live_of_le hlive (Nat.le_max_left _ _)] at hdone
    cases hdone

/-- The time of day makes a difference to the words of a result and to nothing else. -/
theorem send_clock (s : Sender) (clock clock' : String) (choice : Choice)
    (transport : Transport Unit) (c : Context) (slot now : Instant) :
    (s.send clock choice transport c slot now).map DeliveryResult.outcome =
      (s.send clock' choice transport c slot now).map DeliveryResult.outcome := by
  have hwords : DeliveryResult.outcome ∘ s.resultOf clock =
      DeliveryResult.outcome ∘ s.resultOf clock' := by
    funext outcome
    cases outcome <;> rfl
  rw [send_eq, send_eq]
  split
  · rfl
  · dsimp only
    split
    · rfl
    · rw [Trace.map_map, Trace.map_map, hwords]

/-- The time of day makes no difference to when a delivery returns. -/
theorem returnsAt?_send_clock (s : Sender) (clock clock' : String) (choice : Choice)
    (transport : Transport Unit) (c : Context) (slot now : Instant) :
    (s.send clock choice transport c slot now).returnsAt? =
      (s.send clock' choice transport c slot now).returnsAt? := by
  rw [← Trace.returnsAt?_map DeliveryResult.outcome, send_clock s clock clock',
    Trace.returnsAt?_map]

/-- The time of day makes no difference to when a delivery cancels the program. -/
theorem cancelsAt_send_clock (s : Sender) (clock clock' : String) (choice : Choice)
    (transport : Transport Unit) (c : Context) (slot now : Instant) :
    (s.send clock choice transport c slot now).cancelsAt =
      (s.send clock' choice transport c slot now).cancelsAt :=
  congrArg (fun t : Trace Outcome => t.cancelsAt)
    (send_clock s clock clock' choice transport c slot now)

/-- The time of day makes no difference to the calls of a delivery. -/
theorem calls_send_clock (s : Sender) (clock clock' : String) (choice : Choice)
    (transport : Transport Unit) (c : Context) (slot now : Instant) :
    (s.send clock choice transport c slot now).calls =
      (s.send clock' choice transport c slot now).calls :=
  congrArg (fun t : Trace Outcome => t.calls)
    (send_clock s clock clock' choice transport c slot now)

/-- The first call of a delivery is made exactly at its slot, if any is made. -/
theorem calls_send (s : Sender) (clock : String) (choice : Choice) (transport : Transport Unit)
    (c : Context) (h : now ≤ slot) :
    (s.send clock choice transport c slot now).calls = [] ∨
      ∃ rest, (s.send clock choice transport c slot now).calls = (slot, 1) :: rest ∧
        ∀ call ∈ rest, slot ≤ call.1 := by
  obtain ⟨-, hsend⟩ | ⟨-, message, -, hsend⟩ | ⟨-, hlive, hsend⟩ :=
    s.send_cases clock choice transport c slot now
  · exact .inl (by rw [hsend]; rfl)
  · exact .inl (by rw [hsend]; rfl)
  · rw [Nat.max_eq_right h] at hlive hsend
    have hrun := attempting_attempts s.policy transport c slot
    obtain ⟨rest, hcalls⟩ := hrun.calls_of_live hlive
    rw [hsend]
    refine .inr ⟨rest, hcalls, fun call hcall => hrun.runsFrom.le_call call ?_⟩
    rw [hcalls]
    exact List.mem_cons_of_mem _ hcall

/-- A delivery whose context is not done at its slot is attempted from then on, or at once if the
slot is over. -/
theorem send_eq_attempts {s : Sender} (hdest : s.lacksDestination = false) (clock : String)
    (choice : Choice) (transport : Transport Unit)
    (hlive : c.doneReason? (max now slot) = none) :
    s.send clock choice transport c slot now =
      (attempts s.policy transport c (max now slot)).map (s.resultOf clock) := by
  rw [send_eq, hdest, waitForSlot_of_live hlive]
  rfl

/-- A delivery whose context is not done at a slot that lies ahead is attempted from then on. -/
theorem send_of_live {s : Sender} (hdest : s.lacksDestination = false) (clock : String)
    (choice : Choice) (transport : Transport Unit) (h : now ≤ slot)
    (hlive : c.doneReason? slot = none) :
    s.send clock choice transport c slot now =
      (attempts s.policy transport c slot).map (s.resultOf clock) := by
  have hready : max now slot = slot := Nat.max_eq_right h
  rw [send_eq_attempts hdest clock choice transport (by rwa [hready]), hready]

end Sender

end AlertRelay
