import AlertRelay.Proofs.Pipeline.Books
import AlertRelay.Proofs.Pipeline.Run

/-!
# The totals in the end

Whenever a pipeline is cancelled and whatever its deliveries do, the counters that it returns agree
with each other and with the results that were taken (`Pipeline.Consistent`). A worker that notices
the cancellation still forwards all the reports in its queue, in their order, and the dispatcher
takes them unless it gives the lane up (`Pipeline.consistent_of_stopped`).

What a worker on its way out is still going to forward is `Lane.pledged`. Together with the results
that wait and those that were taken it only ever grows at its end (`Lane.Pledges.move`), and nothing
is left of it when the lane is finished.
-/

namespace AlertRelay

namespace Lane

/-- What a worker on its way out is still going to forward, as far as that is known. -/
def pledged (l : Lane) : List DeliveryResult :=
  match l.phase with
  | .draining => l.reports
  | .holding r .drain => r :: l.reports
  | .holding r .stop => [r]
  | _ => []

/-- The worker is on its way out, and the results in `due` come first among those that were taken,
those that wait and those that it is going to forward. Of a lane that was given up nothing is
said. -/
def Pledges (l : Lane) (taken due : List DeliveryResult) : Prop :=
  l.resultsOpen = true →
    l.phase.isLeaving = true ∧ due <+: taken ++ l.results ++ l.pledged

variable {l l' : Lane} {m : Moment} {e : LaneEvent} {taken due : List DeliveryResult}

/-- What does not touch the worker and its queues keeps what it has pledged. -/
theorem Pledges.congr (hl : l.Pledges taken due) (hphase : l'.phase = l.phase)
    (hreports : l'.reports = l.reports) (hresults : l'.results = l.results)
    (hopen : l'.resultsOpen = l.resultsOpen) : l'.Pledges taken due := by
  unfold Pledges pledged at hl ⊢
  rwa [hphase, hreports, hresults, hopen]

/-- A report that comes in is put behind what was pledged, or comes too late. -/
theorem prefix_pledged_report (l : Lane) (r : DeliveryResult) :
    l.pledged <+: ({ l with reports := l.reports ++ [r] } : Lane).pledged := by
  unfold pledged
  cases l.phase with
  | draining => exact List.prefix_append _ _
  | holding s next =>
    cases next with
    | drain => exact ⟨[r], rfl⟩
    | _ => exact List.prefix_rfl
  | _ => exact List.prefix_rfl

/-- A result that is forwarded waits as the last one. -/
theorem results_pledged_forward {r : DeliveryResult} {next : AfterForward}
    (hphase : l.phase = .holding r next) (hleaving : l.phase.isLeaving = true) :
    (l.release next).phase.isLeaving = true ∧
      l.results ++ [r] ++ ({ l.release next with results := l.results ++ [r] } : Lane).pledged =
        l.results ++ l.pledged := by
  cases next with
  | listen =>
    rw [hphase] at hleaving
    cases hleaving
  | drain =>
    refine ⟨rfl, ?_⟩
    simp only [pledged, hphase, release, AfterForward.phase, List.append_assoc,
      List.singleton_append]
  | stop =>
    refine ⟨rfl, ?_⟩
    simp only [pledged, hphase, release, List.append_nil]

theorem Pledges.move (h : l.Move m e l') (hl : l.Pledges taken due) :
    l'.Pledges taken due := by
  -- A worker that listens is not on its way out.
  have hlistening : l.phase = .listening → l.resultsOpen = true → False := by
    intro hphase hopen
    have hleaving := (hl hopen).1
    rw [hphase] at hleaving
    cases hleaving
  intro hopen
  have hopen' : l.resultsOpen = true := by rwa [h.resultsOpen_eq] at hopen
  obtain ⟨hleaving, hdue⟩ := hl hopen'
  cases h with
  | crash hphase | lapse hphase | launch hphase | gather hphase | halt hphase =>
    exact (hlistening hphase hopen').elim
  | lose | enter | complete | drop => exact ⟨hleaving, hdue⟩
  | report hr hgone hroom =>
    exact ⟨hleaving, hdue.trans ((List.prefix_append_right_inj _).2 (l.prefix_pledged_report _))⟩
  | discard hphase hclosed =>
    rw [hopen'] at hclosed
    cases hclosed
  | forward hphase hopen hroom =>
    obtain ⟨hleaving', hsame⟩ := results_pledged_forward hphase hleaving
    refine ⟨hleaving', ?_⟩
    rw [List.append_assoc, hsame, ← List.append_assoc]
    exact hdue
  | drain hphase hr =>
    refine ⟨rfl, ?_⟩
    simp only [pledged, hphase, hr] at hdue ⊢
    exact hdue
  | announce hphase hr =>
    refine ⟨rfl, hdue.trans ?_⟩
    simp only [pledged, hphase, hr, List.append_nil]
    exact List.prefix_append _ _

/-- A result that was taken is behind those taken before. -/
theorem Pledges.take {r : DeliveryResult} {rest : List DeliveryResult}
    (hl : l.Pledges taken due) (hr : l.results = r :: rest) :
    ({ l with results := rest } : Lane).Pledges (taken ++ [r]) due := by
  intro hopen
  obtain ⟨hleaving, hdue⟩ := hl hopen
  refine ⟨hleaving, ?_⟩
  rw [hr] at hdue
  rw [List.append_assoc taken, List.singleton_append]
  exact hdue

/-- When the worker has stopped and its results are taken, so is all that was due. -/
theorem Pledges.of_finished (hl : l.Pledges taken due) (hopen : l.resultsOpen = true)
    (hfinished : l.isFinished = true) : due <+: taken := by
  obtain ⟨hleaving, hdue⟩ := hl hopen
  obtain ⟨hgone, hresults⟩ := isFinished_iff.1 hfinished
  have hphase : l.phase = .stopped := by
    cases hphase : l.phase with
    | stopped => rfl
    | crashed =>
      rw [hphase] at hleaving
      cases hleaving
    | listening | holding | draining =>
      rw [hphase] at hgone
      cases hgone
  simpa [pledged, hphase, hresults] using hdue

end Lane

namespace Pipeline

/-- The counters that are returned in the end agree with each other and with what was taken. -/
structure Consistent (p : Pipeline) : Prop where
  sent : ∀ l ∈ p.lanes, (p.totals.channel l.channel).sent = p.totals.received
  /-- What is pending is the exact difference. -/
  pending : ∀ l ∈ p.lanes, (p.totals.channel l.channel).resolved +
    (p.totals.channel l.channel).pending = (p.totals.channel l.channel).sent
  /-- Results are counted by their outcome and notices not at all. -/
  success : ∀ ch, (p.totals.channel ch).success =
    (p.taken ch).countP fun r => r.outcome == .succeeded
  failure : ∀ ch, (p.totals.channel ch).failure = (p.taken ch).countP fun r => r.outcome == .failed
  cancelled : ∀ ch, (p.totals.channel ch).cancelled =
    (p.taken ch).countP fun r => r.outcome == .cancelled
  /-- No result was taken twice: apart from notices, what was taken is what came of deliveries. -/
  once : ∀ l ∈ p.lanes, genuine (p.taken l.channel) ≤ l.outcomes
  unused : ∀ ch, ch ∉ p.channels → p.totals.channel ch = {}

variable {p q p₀ : Pipeline} {e : PipelineEvent}

/-! ### Counters -/

/-- What is returned is all that was submitted. -/
theorem Staged.totals_eq (hs : p.Staged) (hphase : p.phase = .stopped) (u : Update) :
    p.totals.count u = p.ledger.submitted u := by
  obtain ⟨c, hc⟩ := hs.final hphase
  obtain ⟨rfl, -, hq, ho⟩ := hs.coherent.final_eq c hc
  rw [totals, hc, Option.getD_some]
  exact Ledger.Coherent.count_eq_submitted hq ho u

/-- The counters of a pipeline that has stopped. -/
theorem Reaches.consistent (h : p₀.Reaches p) (hp : p₀.Fresh) (hphase : p.phase = .stopped) :
    p.Consistent := by
  obtain ⟨done, hb⟩ := h.books hp
  have hs := h.staged hp
  have ht := h.tallies hp
  have hcount := hs.totals_eq hphase
  have hsent : ∀ l ∈ p.lanes, (p.totals.channel l.channel).sent = done.length := by
    intro l hl
    obtain ⟨k, hk⟩ := List.mem_iff_getElem?.1 hl
    have hch : p.channels[k]? = some l.channel := getElem?_channels hk
    refine (hcount (.sent l.channel)).trans ?_
    rw [hb.sent k _ hch, hphase]
    rfl
  have hresolved : ∀ ch, (p.totals.channel ch).resolved = (genuine (p.taken ch)).card := by
    intro ch
    rw [Counters.resolved_channel, hcount, hcount, hcount, ht.submitted_resolved]
  exact
    { sent := fun l hl => (hsent l hl).trans (hb.received.symm.trans (hcount .received).symm)
      pending := by
        intro l hl
        obtain ⟨k, hk⟩ := List.mem_iff_getElem?.1 hl
        have hcarries := hb.carries k l hk
        have hnone : p.phase.handed k = [] := by rw [hphase]; rfl
        have hle := card_taken_le (ht.balances l hl) (h.tracks hp l hl) hcarries
        rw [hnone, List.append_nil] at hle
        rw [← hresolved, ← hsent l hl] at hle
        exact Nat.add_sub_of_le hle
      success := fun ch =>
        (hcount (.succeeded ch)).trans (ht.submitted_eq (show Outcome.succeeded.update? ch = _ from rfl))
      failure := fun ch =>
        (hcount (.failed ch)).trans (ht.submitted_eq (show Outcome.failed.update? ch = _ from rfl))
      cancelled := fun ch =>
        (hcount (.cancelled ch)).trans (ht.submitted_eq (show Outcome.cancelled.update? ch = _ from rfl))
      once := by
        intro l hl
        obtain ⟨lost, hsum, -⟩ := ht.balances l hl
        rw [hsum, add_assoc]
        exact Multiset.le_add_right _ _
      unused := by
        intro ch hch
        have hnone := ht.submitted_resolved ch
        rw [ht.taken_eq_nil hch, genuine_nil, Multiset.card_zero] at hnone
        have hunsent := hb.unsent ch hch
        refine Counters.channel_eq_empty ?_ ?_ ?_ ?_ <;> rw [hcount] <;> omega }

/-! ### Workers on their way out -/

/-- What the worker of lane number `k` has pledged to forward. -/
def Pledged (p : Pipeline) (k : Nat) (due : List DeliveryResult) : Prop :=
  ∀ l, p.lanes[k]? = some l → l.Pledges (p.taken l.channel) due

variable {k : Nat} {due : List DeliveryResult}

/-- A change of one lane that keeps what its worker has pledged. -/
theorem Pledged.setLane (hp : p.Pledged k due) {i : Nat} {l l' : Lane}
    (hl : p.lanes[i]? = some l) (hchannel : l'.channel = l.channel)
    (hkeeps : ∀ taken, l.Pledges taken due → l'.Pledges taken due) :
    (p.setLane i l').Pledged k due := by
  intro l₂ hk
  rcases getElem?_setLane hl hk with ⟨rfl, rfl⟩ | ⟨-, hk⟩
  · rw [hchannel]
    exact hkeeps _ (hp l hl)
  · exact hp l₂ hk

/-- A result that is taken off a lane is behind those that were taken off it before. -/
theorem Pledged.receive (hp : p.Pledged k due) (hn : p.channels.Nodup) {i : Nat} {l : Lane}
    {r : DeliveryResult} {rest : List DeliveryResult} (hl : p.lanes[i]? = some l)
    (hr : l.results = r :: rest) (hlabel : l.Labelled) :
    (p.receive i { l with results := rest } r).Pledged k due := by
  have hchannel : r.channel = l.channel :=
    hlabel.results r (by rw [hr]; exact List.mem_cons_self)
  intro l₂ hk
  rw [taken_receive]
  rcases getElem?_setLane hl hk with ⟨rfl, rfl⟩ | ⟨hne, hk⟩
  · have hsame : ({ l with results := rest } : Lane).channel = l.channel := rfl
    rw [hsame, if_pos hchannel]
    exact (hp l hl).take hr
  · have hother : r.channel ≠ l₂.channel := by
      rw [hchannel]
      exact channel_ne_of_ne hn hl hk hne
    rw [if_neg hother, List.append_nil]
    exact hp l₂ hk

/-- What a worker has pledged to forward stays pledged, whatever happens in the pipeline. -/
theorem Pledged.move (hp : p.Pledged k due) (hn : p.channels.Nodup)
    (hlabel : ∀ l ∈ p.lanes, l.Labelled) (h : p.Move e q) : q.Pledged k due := by
  cases h with
  | lane hl h =>
    have hmove := Lane.move_of_step? h
    exact hp.setLane hl (Lane.channel_of_kit hmove.kit_eq) fun _ hl => hl.move hmove
  | trip hl hd hmust => exact hp.setLane hl rfl fun _ hl => hl.congr rfl rfl rfl rfl
  | hand hphase hl => exact hp.setLane hl rfl fun _ hl => hl.congr rfl rfl rfl rfl
  | tally hphase hl hr => exact hp.receive hn hl hr (hlabel _ (List.mem_of_getElem? hl))
  | collect hphase hl hr => exact hp.receive hn hl hr (hlabel _ (List.mem_of_getElem? hl))
  | abandon hphase hl hlate => exact hp.setLane hl rfl fun _ _ h => nomatch h
  | _ => exact hp

/-- A worker that notices the cancellation pledges what is in its queues. -/
theorem pledged_of_halt {l : Lane} (hl : p.lanes[k]? = some l)
    (hhalt : p.step? (.lane k .halt) = some q) :
    q.Pledged k (p.taken l.channel ++ l.results ++ l.reports) := by
  cases move_of_step? hhalt with
  | lane hl₁ hstep =>
    rw [hl, Option.some.injEq] at hl₁
    subst hl₁
    intro l₂ hl₂
    rcases getElem?_setLane hl hl₂ with ⟨-, rfl⟩ | ⟨hne, -⟩
    · cases Lane.move_of_step? hstep with
      | halt hphase hcancel => exact fun _ => ⟨rfl, List.prefix_rfl⟩
    · exact absurd rfl hne

/-- The results that are on their way when a worker notices the cancellation belong to deliveries of
its channel. -/
theorem isAbout_of_halt {l : Lane} (hlabel : l.Labelled) (hphase : l.phase = .listening) :
    ∀ r ∈ l.results ++ l.reports, r.IsAbout l.channel := by
  intro r hr
  have hstopped : l.phase ≠ .stopped := by
    rw [hphase]
    intro h
    exact nomatch h
  rcases List.mem_append.1 hr with hr | hr
  · exact ⟨hlabel.results r hr, hlabel.notice hstopped r hr⟩
  · exact hlabel.reports r hr

/-- Whenever a pipeline was cancelled, the counters that it returns are consistent. And the results
that were in the two queues of a worker when it noticed the cancellation are all taken after those
that were taken before, so that each is counted once, unless the dispatcher gave the lane up. -/
theorem consistent_of_stopped (hp : p₀.Fresh) (h : p₀.Reaches p) (hstopped : p.isStopped = true) :
    p.Consistent ∧ ∀ p₁ p₂ k l₁ l, p₀.Reaches p₁ → p₁.lanes[k]? = some l₁ →
      p₁.step? (.lane k .halt) = some p₂ → p₂.Reaches p → p.lanes[k]? = some l →
      l.resultsOpen = true →
      (∀ r ∈ l₁.results ++ l₁.reports, r.IsAbout l.channel) ∧
        ∃ later, p.taken l.channel = p₁.taken l.channel ++ l₁.results ++ l₁.reports ++ later := by
  have hphase : p.phase = .stopped := by
    cases hphase : p.phase with
    | stopped => rfl
    | _ =>
      rw [isStopped, hphase] at hstopped
      cases hstopped
  refine ⟨h.consistent hp hphase, ?_⟩
  intro p₁ p₂ k l₁ l h₁ hl₁ hhalt h₂ hl hopen
  have h₁₂ : p₀.Reaches p₂ := h₁.step hhalt
  have hpledged : p.Pledged k (p₁.taken l₁.channel ++ l₁.results ++ l₁.reports) := by
    refine h₂.keeps (P := fun p => p.Pledged k _) (pledged_of_halt hl₁ hhalt)
      fun hreach hpledged hmove => ?_
    have hall : p₀.Reaches _ := h₁₂.trans hreach
    exact hpledged.move (hp.channels_nodup_of_reaches hall) (hall.labelled hp) hmove
  have hchannel : l.channel = l₁.channel := by
    have hrest : p₁.Reaches p := (reaches_of_step? hhalt).trans h₂
    have hsame : p.channels = p₁.channels := hrest.channels_eq
    have hk := getElem?_channels hl
    rw [hsame, getElem?_channels hl₁, Option.some.injEq] at hk
    exact hk.symm
  have hfinished : l.isFinished = true := by
    rcases (h.staged hp).past k l hl (by rw [hphase]; trivial) with hfinished | hclosed
    · exact hfinished
    · rw [hopen] at hclosed
      cases hclosed
  obtain ⟨later, hlater⟩ := (hpledged l hl).of_finished hopen hfinished
  rw [hchannel] at hlater ⊢
  refine ⟨isAbout_of_halt (h₁.labelled hp l₁ (List.mem_of_getElem? hl₁)) ?_, later, hlater.symm⟩
  cases move_of_step? hhalt with
  | lane hl₁' hstep =>
    rw [hl₁, Option.some.injEq] at hl₁'
    subst hl₁'
    cases Lane.move_of_step? hstep with
    | halt hphase hcancel => exact hphase

/-- A mail server that never answers, and a cancellation in the pause between two attempts to post
the second record. -/
theorem sample_consistent :
    let p₀ := Sample.pipeline fun s _ =>
      if s.channel = .teams then Sample.failingOnce else Sample.silent
    let p := (p₀.play [(0, .submit Sample.record), (5, .submit Sample.record),
      (2500000000, .look)]).1.conclude
    p.totals = { received := 2, teams := ⟨2, 1, 1, 0⟩, email := ⟨2, 0, 0, 0⟩ } ∧
      p.Consistent := by
  intro p₀ p
  have hp : p₀.Fresh := Sample.fresh_pipeline _
  have h : p₀.Reaches p := (reaches_play _ _).trans (reaches_conclude _)
  have hstopped : p.isStopped = true := by decide +kernel
  exact ⟨by decide +kernel, (consistent_of_stopped hp h hstopped).1⟩

end Pipeline

end AlertRelay
