import AlertRelay.Proofs.Delivery.Signals
import AlertRelay.Proofs.Lane.Run
import AlertRelay.Render.Card
import AlertRelay.Render.Mail

/-!
# Senders that agree

A card is posted by `TeamsConfig.send` and a mail is submitted by `EmailConfig.send`, which are
written separately: they look at different destinations, wait on different channels, call different
transports from loops in different places, and report in different words. Nevertheless they go the
same course when they are set up in the same way and their transports behave alike. This is shown as
a simulation.

Two activities are in lockstep if they make the same calls at the same times, cancel the program at
the same time, and end at the same time with values that are related (`Trace.Lockstep`). Waits on
two channels are over at the same time and come to the same (`waitForSlot_lockstep`), whatever each
of them notices. One attempt keeps two loops in lockstep if the calls are alike (`lockstep_step`),
so that all attempts do, by induction on how many are left (`lockstep_attemptsFrom`). All that is
asked of the errors of the calls is that they are related, so the errors inside of what is reported
are (`TeamsConfig.lockstep_send`). If they are the same, so is what is inside
(`TeamsConfig.agrees_with_email`).
-/

namespace AlertRelay

/-! ### Activities in lockstep -/

/-- Two activities end in the same way, with related values. -/
inductive Ending.Lockstep {β γ : Type} (S : β → γ → Prop) : Ending β → Ending γ → Prop
  | hangs : Lockstep S .hangs .hangs
  | returns (t : Instant) {b : β} {b' : γ} (hvalue : S b b') :
      Lockstep S (.returns t b) (.returns t b')

/-- Two activities do the same at the same times, and end in the same way. -/
structure Trace.Lockstep {β γ : Type} (S : β → γ → Prop) (t : Trace β) (t' : Trace γ) : Prop where
  calls : t.calls = t'.calls
  cancelsAt : t.cancelsAt = t'.cancelsAt
  ending : t.ending.Lockstep S t'.ending

namespace Trace.Lockstep

variable {β β' γ γ' : Type} {S : β → β' → Prop}

theorem done {b : β} {b' : β'} (u : Instant) (hvalue : S b b') :
    Lockstep S (.done u b) (.done u b') :=
  ⟨rfl, rfl, .returns u hvalue⟩

/-- Activities that make the same call first. -/
theorem addCall {t : Trace β} {t' : Trace β'} (h : t.Lockstep S t') (call : Instant × Nat)
    (at? : Option Instant) : (t.addCall call at?).Lockstep S (t'.addCall call at?) where
  calls := congrArg (call :: ·) h.calls
  cancelsAt := by
    cases at? with
    | none => exact h.cancelsAt
    | some u => rfl
  ending := h.ending

theorem map {S' : γ → γ' → Prop} {f : β → γ} {g : β' → γ'} {t : Trace β} {t' : Trace β'}
    (h : t.Lockstep S t') (hvalue : ∀ b b', S b b' → S' (f b) (g b')) :
    (t.map f).Lockstep S' (t'.map g) := by
  obtain ⟨calls, cancelsAt, ending⟩ := t
  obtain ⟨calls', cancelsAt', ending'⟩ := t'
  refine ⟨h.calls, h.cancelsAt, ?_⟩
  cases h.ending with
  | hangs => exact .hangs
  | returns u hb => exact .returns u (hvalue _ _ hb)

theorem returnsAt? {t : Trace β} {t' : Trace β'} (h : t.Lockstep S t') :
    t.returnsAt? = t'.returnsAt? := by
  have hending := h.ending
  unfold Trace.returnsAt?
  revert hending
  generalize t.ending = ending
  generalize t'.ending = ending'
  rintro (_ | _)
  · rfl
  · rfl

/-- Activities in lockstep return related values. -/
theorem related {t : Trace β} {t' : Trace β'} {u u' : Instant} {b : β} {b' : β'}
    (h : t.Lockstep S t') (hb : t.ending = .returns u b) (hb' : t'.ending = .returns u' b') :
    S b b' := by
  have hending := h.ending
  rw [hb, hb'] at hending
  cases hending with
  | returns _ hvalue => exact hvalue

end Trace.Lockstep

/-! ### Attempts -/

section Attempts

variable {α : Type} {R : DeliveryError → DeliveryError → Prop}

/-- Two calls take equally long and come out alike: both give the same, or both fail. -/
inductive Attempt.Matches (R : DeliveryError → DeliveryError → Prop) :
    Attempt α → Attempt α → Prop
  | hangs : Matches R .hangs .hangs
  | succeeds (after : Nat) (cancelsRoot : Bool) (value : α) :
      Matches R (.returns after cancelsRoot (.ok value)) (.returns after cancelsRoot (.ok value))
  | fails (after : Nat) (cancelsRoot : Bool) {e e' : DeliveryError} (herror : R e e') :
      Matches R (.returns after cancelsRoot (.error e)) (.returns after cancelsRoot (.error e'))

/-- Every call matches itself. -/
theorem Attempt.matches_self (a : Attempt α) : a.Matches Eq a := by
  cases a with
  | hangs => exact .hangs
  | returns after cancelsRoot outcome =>
    cases outcome with
    | ok value => exact .succeeds after cancelsRoot value
    | error e => exact .fails after cancelsRoot rfl

/-- Two errors say the same of how a delivery failed that was allowed so many attempts, up to the
error of its last call. -/
inductive DeliveryError.SameSource (R : DeliveryError → DeliveryError → Prop) (allowed : Nat) :
    DeliveryError → DeliveryError → Prop
  | exhausted {e e' : DeliveryError} (hlast : R e e') :
      SameSource R allowed (.attemptsExhausted allowed e) (.attemptsExhausted allowed e')
  | aborted (number : Nat) (reason : DoneReason) {e e' : DeliveryError} (hlast : R e e') :
      SameSource R allowed (.aborted number allowed reason (some e))
        (.aborted number allowed reason (some e'))

/-- What comes of all attempts is the same, up to the errors of the calls. -/
inductive SameOutcome (R : DeliveryError → DeliveryError → Prop) (allowed : Nat) :
    Except DeliveryError α → Except DeliveryError α → Prop
  | ok (value : α) : SameOutcome R allowed (.ok value) (.ok value)
  | error {e e' : DeliveryError} (hsource : e.SameSource R allowed e') :
      SameOutcome R allowed (.error e) (.error e')

variable {policy : RetryPolicy} {transport transport' : Transport α} {timers : Timers}
  {left number : Nat} {c : Context} {now : Instant} {last last' : Option DeliveryError}

/-- One attempt keeps two loops in lockstep. The errors before it need only be there if it is not
made: then they are part of what is returned. -/
theorem lockstep_step (hcall : (transport number).Matches R (transport' number))
    (hlast : c.doneReason? now ≠ none → ∃ e e', last = some e ∧ last' = some e' ∧ R e e')
    (hrest : ∀ n, left = n + 1 → ∀ c now e e', R e e' →
      (attemptsFrom policy transport timers n c (number + 1) now (some e)).Lockstep
        (SameOutcome R policy.attempts)
        (attemptsFrom policy transport' timers n c (number + 1) now (some e'))) :
    (attemptsFrom policy transport timers left c number now last).Lockstep
      (SameOutcome R policy.attempts)
      (attemptsFrom policy transport' timers left c number now last') := by
  rw [attemptsFrom.eq_def policy transport, attemptsFrom.eq_def policy transport']
  dsimp only
  cases hdone : c.doneReason? now with
  | some reason =>
    obtain ⟨e, e', rfl, rfl, he⟩ := hlast (by rw [hdone]; exact Option.some_ne_none reason)
    exact .done now (.error (.aborted number reason he))
  | none =>
    dsimp only
    generalize transport number = call, transport' number = call' at hcall
    cases hcall with
    | hangs => exact ⟨rfl, rfl, .hangs⟩
    | succeeds after cancelsRoot value => exact .addCall (.done _ (.ok value)) _ _
    | fails after cancelsRoot he =>
      cases left with
      | zero => exact .addCall (.done _ (.error (.exhausted he))) _ _
      | succ n => exact .addCall (hrest n rfl _ _ _ _ he) _ _

/-- All attempts are in lockstep if the calls of each number match. -/
theorem lockstep_attemptsFrom (hcalls : ∀ n, (transport n).Matches R (transport' n))
    (hlast : c.doneReason? now ≠ none → ∃ e e', last = some e ∧ last' = some e' ∧ R e e') :
    (attemptsFrom policy transport timers left c number now last).Lockstep
      (SameOutcome R policy.attempts)
      (attemptsFrom policy transport' timers left c number now last') := by
  induction left generalizing c number now last last' with
  | zero =>
    exact lockstep_step (hcalls number) hlast fun n hn => absurd hn (Nat.succ_ne_zero n).symm
  | succ left ih =>
    refine lockstep_step (hcalls number) hlast fun n hn c now e e' he => ?_
    obtain rfl := Nat.succ.inj hn
    exact ih fun _ => ⟨e, e', rfl, rfl, he⟩

/-- Attempts that begin in a context that is not done are in lockstep. -/
theorem lockstep_attempts (hcalls : ∀ n, (transport n).Matches R (transport' n))
    (hlive : c.doneReason? now = none) :
    (attempts policy transport c now timers).Lockstep (SameOutcome R policy.attempts)
      (attempts policy transport' c now timers) :=
  lockstep_attemptsFrom hcalls fun hdone => absurd hlive hdone

end Attempts

/-! ### Waits -/

/-- Two waits for the same slot in the same context are over at the same time. Either both are kept,
or both are given up without an error, on whatever channels they are and whatever they notice. -/
theorem waitForSlot_lockstep (c : Context) (choice choice' : Choice) (channel channel' : Channel)
    (slot now : Instant) (timers : Timers) :
    (c.doneReason? (max now (timers.ring slot)) = none ∧
        waitForSlot c choice channel slot now timers = ⟨max now (timers.ring slot), none⟩ ∧
        waitForSlot c choice' channel' slot now timers = ⟨max now (timers.ring slot), none⟩) ∨
      ∃ u r r', waitForSlot c choice channel slot now timers = ⟨u, some r⟩ ∧
        waitForSlot c choice' channel' slot now timers = ⟨u, some r'⟩ ∧
        (r.outcome = .cancelled ∧ r.error = none) ∧ r'.outcome = .cancelled ∧ r'.error = none := by
  by_cases hlive : c.LiveAt (max now (timers.ring slot))
  · have hnone := Context.doneReason?_eq_none_iff.2 hlive
    exact .inl ⟨hnone, waitForSlot_of_live hnone, waitForSlot_of_live hnone⟩
  · obtain ⟨htime, r, hr, -, hcounted⟩ :=
      (c.awaits_waitForSlot timers choice channel slot now).settles.givenUp hlive
    obtain ⟨htime', r', hr', -, hcounted'⟩ :=
      (c.awaits_waitForSlot timers choice' channel' slot now).settles.givenUp hlive
    have hsame := htime'.trans htime.symm
    exact .inr ⟨(waitForSlot c choice channel slot now timers).time, r, r',
      congrArg (SlotWait.mk _) hr, congrArg₂ SlotWait.mk hsame hr', hcounted, hcounted'⟩

/-! ### Deliveries -/

/-- Two results count the same and have the same inside their destinations, if anything. -/
inductive DeliveryResult.SameReport (R : DeliveryError → DeliveryError → Prop) (allowed : Nat)
    (destination destination' : String) : DeliveryResult → DeliveryResult → Prop
  | cancelled {r r' : DeliveryResult} (hr : r.outcome = .cancelled ∧ r.error = none)
      (hr' : r'.outcome = .cancelled ∧ r'.error = none) :
      SameReport R allowed destination destination' r r'
  | succeeded (channel channel' : Channel) (message message' : String) :
      SameReport R allowed destination destination' (.succeeded channel message)
        (.succeeded channel' message')
  | failed (channel channel' : Channel) {e e' : DeliveryError}
      (hsource : e.SameSource R allowed e') :
      SameReport R allowed destination destination' (.failed channel (.delivery destination e))
        (.failed channel' (.delivery destination' e'))

/-- How many attempts a channel is allowed for a delivery. -/
def allowedAttempts (settings : ChannelSettings) : Nat :=
  min (settings.retries + 1) attemptsLimit

/-- A card and a mail are delivered in lockstep if each post matches the submission of the same
number. -/
theorem TeamsConfig.lockstep_send {κ μ : Type} {R : DeliveryError → DeliveryError → Prop}
    (t : TeamsConfig) (e : EmailConfig) (hsettings : t.settings = e.settings)
    (hurl : t.webhookUrl ≠ "") (hserver : e.server ≠ "") (post : WebhookTransport κ) (card : κ)
    (submit : MailTransport μ) (mail : μ)
    (hcalls : ∀ n, (post n t.webhookUrl card).Matches R (submit n e mail)) (clock clock' : String)
    (choice choice' : Choice) (c : Context) (slot now : Instant) (timers : Timers) :
    (t.send post card clock choice c slot now timers).Lockstep
      (DeliveryResult.SameReport R (allowedAttempts t.settings) "Microsoft Teams" e.destination)
      (e.send submit mail clock' choice' c slot now timers) := by
  have hteams : ¬t.webhookUrl.isEmpty = true := by simpa using hurl
  have hemail : ¬e.server.isEmpty = true := by simpa using hserver
  unfold TeamsConfig.send EmailConfig.send WebhookTransport.sendWithRetry
  rw [if_neg hteams, if_neg hemail, hsettings]
  obtain ⟨hlive, hwait, hwait'⟩ | ⟨u, r, r', hwait, hwait', hr, hr'⟩ :=
    waitForSlot_lockstep c choice choice' .teams .email slot now timers
  · rw [hwait, hwait']
    refine (lockstep_attempts hcalls hlive).map fun outcome outcome' h => ?_
    cases h with
    | ok value => exact .succeeded _ _ _ _
    | error hsource => exact .failed _ _ hsource
  · rw [hwait, hwait']
    exact .done u (.cancelled hr hr')

/-- A webhook and a mail server with the same settings and the same script of calls go the same
course for every record, at any time of day and whatever they notice while they wait: they are
called equally often and at the same times, cancel the program and return at the same time, and
their results count the same. If they fail, the same error of their attempts is wrapped in their
destinations. -/
theorem TeamsConfig.agrees_with_email (t : TeamsConfig) (e : EmailConfig)
    (hsettings : t.settings = e.settings) (hurl : t.webhookUrl ≠ "") (hserver : e.server ≠ "")
    (r : EventRecord) (branding branding' : Branding) (made made' : LocalTime)
    (post : WebhookTransport Card) (submit : MailTransport String) (script : Transport Unit)
    (hpost : ∀ n, post n t.webhookUrl (Card.ofRecord r branding made) = script n)
    (hsubmit : ∀ n,
      submit n e (Mail.message r e.sender e.recipients branding' made') = script n)
    (clock clock' : String) (choice choice' : Choice) (c : Context) (slot now : Instant)
    (timers : Timers) :
    let teams := t.send post (Card.ofRecord r branding made) clock choice c slot now timers
    let email := e.send submit (Mail.message r e.sender e.recipients branding' made') clock' choice'
      c slot now timers
    teams.calls = email.calls ∧ teams.cancelsAt = email.cancelsAt ∧
      teams.returnsAt? = email.returnsAt? ∧
      ∀ u u' result result', teams.ending = .returns u result → email.ending = .returns u' result' →
        result.outcome = result'.outcome ∧
        (result.outcome = .failed →
          ∃ source, result.error = some (.delivery "Microsoft Teams" source) ∧
            result'.error = some (.delivery e.destination source) ∧
            ((∃ last, source = .attemptsExhausted (allowedAttempts t.settings) last) ∨
              ∃ number reason last,
                source = .aborted number (allowedAttempts t.settings) reason (some last))) := by
  intro teams email
  have hcalls : ∀ n, (post n t.webhookUrl (Card.ofRecord r branding made)).Matches Eq
      (submit n e (Mail.message r e.sender e.recipients branding' made')) := by
    intro n
    rw [hpost, hsubmit]
    exact (script n).matches_self
  have h : teams.Lockstep (DeliveryResult.SameReport Eq (allowedAttempts t.settings)
      "Microsoft Teams" e.destination) email :=
    lockstep_send t e hsettings hurl hserver post _ submit _ hcalls clock clock' choice choice' c
      slot now timers
  refine ⟨h.calls, h.cancelsAt, h.returnsAt?, fun u u' result result' hresult hresult' => ?_⟩
  cases h.related hresult hresult' with
  | cancelled hr hr' =>
    refine ⟨hr.1.trans hr'.1.symm, fun hfailed => ?_⟩
    rw [hr.1] at hfailed
    cases hfailed
  | succeeded => exact ⟨rfl, fun hfailed => nomatch hfailed⟩
  | failed channel channel' hsource =>
    refine ⟨rfl, fun _ => ?_⟩
    cases hsource with
    | exhausted hlast =>
      subst hlast
      exact ⟨_, rfl, rfl, .inl ⟨_, rfl⟩⟩
    | aborted number reason hlast =>
      subst hlast
      exact ⟨_, rfl, rfl, .inr ⟨number, reason, _, rfl⟩⟩

namespace Sample

/-- A webhook and a mail server that are set up in the same way, and what both of them answer. -/
def hook : TeamsConfig := ⟨"https://hooks.example", settings⟩

def mailServer : EmailConfig :=
  ⟨"mail.example", 25, "relay", "relay@example", ["ops@example"], none, settings⟩

def refusing : Transport Unit :=
  fun _ => .returns 500 false (.error (.webhook "refused"))

end Sample

/-- A card and a mail that are both cancelled in the pause between their attempts fail alike,
whether or not the cancellation is noticed first. Their slot lies before the first whole
millisecond, at which both begin. -/
theorem TeamsConfig.agrees_with_email_aborted :
    let teams := Sample.hook.send (fun number _ _ => Sample.refusing number)
      (Card.ofRecord Sample.record ⟨"App", ""⟩ (.utc "")) "12:00" {} ⟨30000000000, some 1000700⟩
      100 0 .millis
    let email := Sample.mailServer.send (fun number _ _ => Sample.refusing number)
      (Mail.message Sample.record "relay@example" ["ops@example"] ⟨"App", ""⟩ (.utc "")) "13:00"
      ⟨true, true⟩ ⟨30000000000, some 1000700⟩ 100 0 .millis
    let source := DeliveryError.aborted 2 3 .cancelled (some (.webhook "refused"))
    teams.ending = .returns 1000700 (.failed .teams (.delivery "Microsoft Teams" source)) ∧
      teams.calls = [(1000000, 1)] ∧
      email.ending =
        .returns 1000700 (.failed .email (.delivery Sample.mailServer.destination source)) ∧
      teams.calls = email.calls ∧ teams.cancelsAt = email.cancelsAt ∧
      teams.returnsAt? = email.returnsAt? := by
  intro teams email source
  obtain ⟨hcalls, hcancels, hreturns, -⟩ := TeamsConfig.agrees_with_email Sample.hook
    Sample.mailServer rfl (by decide) (by decide) Sample.record ⟨"App", ""⟩ ⟨"App", ""⟩ (.utc "")
    (.utc "") (fun number _ _ => Sample.refusing number) (fun number _ _ => Sample.refusing number)
    Sample.refusing (fun _ => rfl) (fun _ => rfl) "12:00" "13:00" {} ⟨true, true⟩
    ⟨30000000000, some 1000700⟩ 100 0 .millis
  have hlive : Context.doneReason? ⟨30000000000, some 1000700⟩ (max 0 (Timers.millis.ring 100)) =
      none := rfl
  have hwait (choice : Choice) (channel : Channel) :
      waitForSlot ⟨30000000000, some 1000700⟩ choice channel 100 0 .millis = ⟨1000000, none⟩ :=
    waitForSlot_of_live hlive
  have hteams : teams.ending =
        .returns 1000700 (.failed .teams (.delivery "Microsoft Teams" source)) ∧
      teams.calls = [(1000000, 1)] := by
    dsimp only [teams]
    rw [TeamsConfig.send, hwait, if_neg (by decide)]
    exact ⟨rfl, rfl⟩
  have hemail : email.ending =
      .returns 1000700 (.failed .email (.delivery Sample.mailServer.destination source)) := by
    dsimp only [email]
    rw [EmailConfig.send, hwait, if_neg (by decide)]
    rfl
  exact ⟨hteams.1, hteams.2, hemail, hcalls, hcancels, hreturns⟩

end AlertRelay
