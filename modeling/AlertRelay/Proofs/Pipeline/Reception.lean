import AlertRelay.Proofs.Pipeline.Diligence

/-!
# Taking all records in

A program that nobody cancels takes every record that it is given: when it has settled its queue is
empty (`Pipeline.Attends.awaits`), so that the next record has room. The records that it has
accepted are those that it was given, in their order (`Pipeline.Attends.play`). If no delivery
hangs, nothing is on its way any more when the clock has run out (`Pipeline.Attends.idle_runOut`).
-/

namespace AlertRelay

/-! ### Transports that leave the program alone -/

/-- No call of the transport cancels the program. -/
def Transport.IsHarmless {α : Type} (transport : Transport α) : Prop :=
  ∀ n after cancelsRoot outcome, transport n = .returns after cancelsRoot outcome →
    cancelsRoot = false

theorem Attempting.cancelsAt_eq_none {α : Type} {policy : RetryPolicy} {transport : Transport α}
    {left number : Nat} {c : Context} {now : Instant} {last : Option DeliveryError}
    {t : Trace (Except DeliveryError α)}
    (h : Attempting policy transport left c number now last t)
    (hharmless : transport.IsHarmless) : t.cancelsAt = none := by
  induction h with
  | abort | hang => rfl
  | succeed hlive hcall | exhaust hlive hcall =>
    obtain rfl := hharmless _ _ _ _ hcall
    rfl
  | retry hlive hcall hrest ih =>
    obtain rfl := hharmless _ _ _ _ hcall
    exact ih

/-- A delivery over such a transport does not cancel the program. -/
theorem Sender.cancelsAt_send {transport : Transport Unit} (hharmless : transport.IsHarmless)
    (s : Sender) (clock : String) (choice : Choice) (c : Context) (slot now : Instant) :
    (s.send clock choice transport c slot now).cancelsAt = none := by
  obtain ⟨-, hsend⟩ | ⟨-, message, -, hsend⟩ | ⟨-, -, hsend⟩ :=
    s.send_cases clock choice transport c slot now
  · rw [hsend]
    rfl
  · rw [hsend]
    rfl
  · rw [hsend]
    exact (attempting_attempts _ _ _ _).cancelsAt_eq_none hharmless

namespace Lane

/-- No delivery of the lane cancels the program. -/
def IsHarmless (l : Lane) : Prop :=
  ∀ number record, (l.transport number record).IsHarmless

variable {l l' : Lane}

theorem IsHarmless.of_kit (h : l.IsHarmless) (hkit : l'.kit = l.kit) : l'.IsHarmless := by
  have htransport : l'.transport = l.transport := congrArg Kit.transport hkit
  intro number record
  rw [htransport]
  exact h number record

theorem IsHarmless.mustTrip (h : l.IsHarmless) (m : Moment) (d : Delivery) :
    l.mustTrip m d = false := by
  have hcancels : (l.trace m d).cancelsAt = none := Sender.cancelsAt_send (h _ _) _ _ _ _ _ _
  rw [Lane.mustTrip, trips, hcancels, Bool.and_false]

end Lane

namespace Pipeline

variable {p₀ p q : Pipeline} {records : List EventRecord} {e : PipelineEvent} {t : Instant}

/-! ### What happens inside -/

/-- Only somebody from outside brings records in. -/
theorem Move.accepted_eq (h : p.Move e q) (he : e.isInternal = true) : q.accepted = p.accepted := by
  cases h with
  | accept => cases he
  | _ => rfl

/-- Harmless lanes leave it to somebody from outside to cancel the program. -/
theorem Move.cancelledAt_keeps (h : p.Move e q) (he : e.isInternal = true)
    (hharmless : ∀ l ∈ p.lanes, l.IsHarmless) : q.moment.cancelledAt = p.moment.cancelledAt := by
  cases h with
  | cancel => cases he
  | @trip i j l d hl hd hmust =>
    rw [(hharmless l (List.mem_of_getElem? hl)).mustTrip] at hmust
    cases hmust
  | _ => rfl

theorem Reaches.harmless (h : p₀.Reaches p) (hharmless : ∀ l ∈ p₀.lanes, l.IsHarmless) :
    ∀ l ∈ p.lanes, l.IsHarmless := by
  intro l hl
  obtain ⟨l₀, hl₀, hkit⟩ := h.exists_kit hl
  exact (hharmless l₀ hl₀).of_kit hkit

/-! ### Taking records in -/

/-- The program is not cancelled and has accepted the given records. -/
structure Attends (p : Pipeline) (records : List EventRecord) : Prop where
  uncancelled : p.moment.cancelledAt = none
  accepted : p.accepted.map Prod.snd = records

theorem Fresh.attends (hp : p.Fresh) : p.Attends [] where
  uncancelled := by rw [hp.eq_start]
  accepted := by rw [hp.eq_start]; rfl

namespace Attends

/-- The clock has no part in this. -/
theorem wait (h : p.Attends records) : (p.wait t).Attends records :=
  ⟨h.uncancelled, h.accepted⟩

theorem isOpen (h : p.Attends records) (hs : p.Staged) : p.isOpen = true :=
  hs.isOpen_eq h.uncancelled

theorem isStopped (h : p.Attends records) (hs : p.Staged) : p.isStopped = false := by
  have hopen := h.isOpen hs
  unfold Pipeline.isOpen at hopen
  unfold Pipeline.isStopped
  split at hopen <;> simp_all

/-- A program that has nothing to do has handed all records to the lanes. -/
theorem awaits (h : p.Attends records) (hs : p.Staged) (hact : p.act? = none) :
    p.AtRest ∧ p.phase = .listening ∧ p.inbound = [] := by
  have hrest : p.AtRest := atRest_of_act? hact (h.isStopped hs)
  have hphase := hrest.phase_eq hs h.uncancelled
  exact ⟨hrest, hphase, hrest.inbound_eq hphase⟩

/-- Nothing but deliveries is on its way in a program that has nothing to do. -/
theorem calm (h : p.Attends records) (hp : p₀.Fresh) (hreach : p₀.Reaches p)
    (hact : p.act? = none) : p.Calm := by
  have hs := hreach.staged hp
  obtain ⟨hrest, hphase, hinbound⟩ := h.awaits hs hact
  obtain ⟨hqueue, hoverflow⟩ := hrest.ledger_eq hs.coherent (hp.ledger_capacity hreach)
  exact ⟨hphase, hinbound, hrest.drained hp hreach h.uncancelled, hqueue, hoverflow⟩

/-- If no delivery hangs, nothing is on its way when nothing is left to do and to wait for. -/
theorem idle (h : p.Attends records) (hp : p₀.Fresh) (hreach : p₀.Reaches p)
    (hanswers : ∀ l ∈ p₀.lanes, l.Answers) (hact : p.act? = none)
    (hdue : Clockwork.nextDue? p = none) : p.Idle := by
  have hs := hreach.staged hp
  have hcalm := h.calm hp hreach hact
  obtain ⟨hrest, -, -⟩ := h.awaits hs hact
  refine ⟨hcalm.phase, hcalm.inbound, hcalm.drained, ?_, hcalm.queue, hcalm.overflow⟩
  intro l hl
  by_contra hrunning
  -- A delivery that is running would be due at the time at which it returns.
  obtain ⟨d, hd⟩ := List.exists_mem_of_ne_nil _ hrunning
  obtain ⟨l₀, hl₀, hkit⟩ := hreach.exists_kit hl
  obtain ⟨t, result, hend⟩ := (hanswers l₀ hl₀).of_kit hkit p.moment d
  have hreturns := Trace.returnsAt?_eq_some.2 ⟨result, hend⟩
  have hlater : p.now < t := Lane.lt_of_rest (hrest.lane l hl) hd (hrest.mustTrip hl hd) hreturns
  have hmem : t ∈ p.due := by
    rw [due, h.isStopped hs, if_neg Bool.false_ne_true]
    refine List.mem_append_right _ (List.mem_flatMap.2 ⟨l, hl, List.mem_flatMap.2 ⟨d, hd, ?_⟩⟩)
    exact List.mem_append_left _ (Option.mem_toList.2 hreturns)
  exact Clockwork.not_lt_of_nextDue? hdue hmem hlater

section Runs

variable (hp : p₀.Fresh) (hharmless : ∀ l ∈ p₀.lanes, l.IsHarmless)

include hp hharmless

omit hp in
theorem of_act? (h : p.Attends records) (hreach : p₀.Reaches p) (hact : p.act? = some q) :
    q.Attends records := by
  obtain ⟨-, e, he, hstep⟩ := exists_of_act? hact
  have hmove := move_of_step? hstep
  have hinternal := isInternal_of_nextEvent? he
  refine ⟨?_, ?_⟩
  · rw [hmove.cancelledAt_keeps hinternal (hreach.harmless hharmless)]
    exact h.uncancelled
  · rw [hmove.accepted_eq hinternal]
    exact h.accepted

omit hp in
theorem settle (h : p.Attends records) (hreach : p₀.Reaches p) :
    (Clockwork.settle p).Attends records := by
  refine (Clockwork.settle_keeps (P := fun q => p₀.Reaches q ∧ q.Attends records) ?_
    ⟨hreach, h⟩).2
  intro q q' hact hq
  exact ⟨hq.1.trans (reaches_of_act? hact), hq.2.of_act? hharmless hq.1 hact⟩

/-- What a program does by itself leaves it as it is in this, with nothing to do at last. -/
theorem runFor (h : p.Attends records) (hproceeds : p₀.Proceeds p) (limit : Option Instant)
    {steps : Nat} (hsteps : p.effort < steps) :
    p₀.Proceeds (Clockwork.runFor limit steps p) ∧
      (Clockwork.runFor limit steps p).Attends records ∧
      (Clockwork.runFor limit steps p).act? = none ∧
      ∀ t, Clockwork.nextDue? (Clockwork.runFor limit steps p) = some t →
        ∃ u, limit = some u ∧ u ≤ t := by
  obtain ⟨⟨hrun, hattends⟩, hend⟩ := hproceeds.runFor (Q := fun q => q.Attends records) hp limit
    hsteps (fun hq hact h => h.of_act? hharmless hq.reaches hact) (fun _ _ _ _ h => h.wait) h
  exact ⟨hrun, hattends, hend⟩

/-- A record that finds the queue empty is accepted. -/
theorem follow (h : p.Attends records) (hreach : p₀.Reaches p) (hinbound : p.inbound = [])
    (r : EventRecord) : (p.follow (.submit r)).1.Attends (records ++ [r]) := by
  have hopen := h.isOpen (hreach.staged hp)
  have hroom : 0 < p.capacity := by
    rw [hreach.capacity_eq.1]
    exact hp.capacity_pos
  have haccept : p.accept? r = some
      { p with inbound := p.inbound ++ [r], accepted := p.accepted ++ [(p.now, r)] } := by
    rw [accept?, hopen, hinbound, List.length_nil, decide_eq_true hroom]
    rfl
  have hstep : p.step? (.accept r) = some _ := haccept
  rw [Pipeline.follow, haccept]
  refine Attends.settle hharmless ⟨h.uncancelled, ?_⟩ (hreach.step hstep)
  rw [List.map_append, h.accepted]
  rfl

/-- The queue is empty whenever the program has run to some time. -/
theorem submit (h : p.Attends records) (hproceeds : p₀.Proceeds p) (t : Instant)
    (r : EventRecord) :
    ((Clockwork.runTo t p).follow (.submit r)).1.Attends (records ++ [r]) := by
  obtain ⟨hrun, hattends, hact, -⟩ :=
    h.runFor hp hharmless hproceeds (some t) (Nat.lt_succ_self _)
  obtain ⟨-, -, hinbound⟩ := hattends.awaits (hrun.reaches.staged hp) hact
  exact Attends.follow hp hharmless hattends.wait (hproceeds.runTo hp t).reaches hinbound r

/-- A program accepts every record that it is given, at whatever times. -/
theorem play (h : p.Attends records) (hproceeds : p₀.Proceeds p)
    (items : List (Instant × EventRecord)) :
    (p.play (items.map fun item => (item.1, .submit item.2))).1.Attends
      (records ++ items.map Prod.snd) := by
  induction items generalizing p records with
  | nil =>
    rw [List.map_nil, List.map_nil, List.append_nil]
    exact h
  | cons item items ih =>
    have hnext := h.submit hp hharmless hproceeds item.1 item.2
    have hlast := ih hnext ((hproceeds.runTo hp item.1).follow (.submit item.2))
    rw [List.append_assoc] at hlast
    exact hlast

/-- If no delivery hangs, nothing is on its way when the clock has run out. -/
theorem idle_runOut (h : p.Attends records) (hproceeds : p₀.Proceeds p)
    (hanswers : ∀ l ∈ p₀.lanes, l.Answers) :
    p₀.Proceeds (Clockwork.runOut p) ∧ (Clockwork.runOut p).Attends records ∧
      (Clockwork.runOut p).Idle := by
  obtain ⟨hrun, hattends, hact, hdue⟩ :=
    h.runFor hp hharmless hproceeds none (Nat.lt_succ_self _)
  refine ⟨hrun, hattends, hattends.idle hp hrun.reaches hanswers hact ?_⟩
  rw [Option.eq_none_iff_forall_ne_some]
  intro t ht
  obtain ⟨u, hu, -⟩ := hdue t ht
  cases hu

end Runs

end Attends

/-! ### Records that come in at once -/

/-- The pipeline when some records have come in one after the other at this instant. -/
def takeIn (p : Pipeline) : List EventRecord → Pipeline
  | [] => Clockwork.settle p
  | r :: rest => ((Clockwork.settle p).follow (.submit r)).1.takeIn rest

/-- The clock does not move while a pipeline settles. -/
theorem now_settle (p : Pipeline) : (Clockwork.settle p).now = p.now := by
  refine Clockwork.settle_keeps (P := fun q : Pipeline => q.now = p.now) (fun q q' hact h => ?_) rfl
  obtain ⟨-, e, he, hstep⟩ := exists_of_act? hact
  exact ((move_of_step? hstep).now_eq (isInternal_of_nextEvent? he)).trans h

theorem now_follow (p : Pipeline) (r : EventRecord) : (p.follow (.submit r)).1.now = p.now := by
  rw [follow]
  cases haccept : p.accept? r with
  | none => rfl
  | some q =>
    have hmove : p.Move (.accept r) q := move_of_step? haccept
    cases hmove
    exact now_settle _

/-- All of them are accepted at this instant, and nothing is left to do. -/
theorem Attends.takeIn (hp : p₀.Fresh) (hharmless : ∀ l ∈ p₀.lanes, l.IsHarmless)
    (h : p.Attends records) (hreach : p₀.Reaches p) (more : List EventRecord) :
    p₀.Reaches (p.takeIn more) ∧ (p.takeIn more).Attends (records ++ more) ∧
      (p.takeIn more).act? = none ∧ (p.takeIn more).now = p.now := by
  have hsettled : p₀.Reaches (Clockwork.settle p) := hreach.trans (reaches_settleFor _ p)
  have hattends := h.settle hharmless hreach
  have hact := hreach.act?_settle hp
  induction more generalizing p records with
  | nil =>
    rw [List.append_nil]
    exact ⟨hsettled, hattends, hact, now_settle p⟩
  | cons r more ih =>
    obtain ⟨-, -, hinbound⟩ := hattends.awaits (hsettled.staged hp) hact
    have hnext := hattends.follow hp hharmless hsettled hinbound r
    have hreach' : p₀.Reaches ((Clockwork.settle p).follow (.submit r)).1 :=
      hsettled.trans (reaches_follow _ _)
    obtain ⟨hlast, hall, hdone, hnow⟩ := ih hnext hreach'
      (hreach'.trans (reaches_settleFor _ _)) (hnext.settle hharmless hreach')
      (hreach'.act?_settle hp)
    rw [List.append_assoc] at hall
    exact ⟨hlast, hall, hdone, hnow.trans ((now_follow _ r).trans (now_settle p))⟩

end Pipeline

end AlertRelay
