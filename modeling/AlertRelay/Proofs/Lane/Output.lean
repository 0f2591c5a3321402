import AlertRelay.Proofs.Lane.Phase
import AlertRelay.Proofs.Lane.Run
import Mathlib.Data.List.Infix

/-!
# What a worker sends

A worker sends a result when it lets go of the one that it holds. `Lane.Sends` relates a lane to
whatever may become of it later and lists what its worker sends meanwhile, whether or not anybody
takes it.

* As long as the program is not cancelled there is no notice among it
  (`Lane.Kit.Reaches.not_isLeaving`, `Lane.Sends.announces`), and if the worker has stopped then
  there is one, and it is the last.
* What the worker holds and what is in its queue of reports is sent in this order, or the worker
  still has it, unless it dies (`Lane.Sends.owed_sublist`).
* A worker that is gone sends nothing more (`Lane.Sends.eq_nil_of_isGone`).

All of this goes by induction on the run, with one case for each thing that can happen to the worker
in a turn (`Lane.Handles`).
-/

namespace AlertRelay

namespace Lane

/-- What a worker sends when it goes from one phase to the next: the result that it held and holds
no longer. -/
def sent (l l' : Lane) : List DeliveryResult :=
  if l'.phase.held.isEmpty then l.phase.held else []

/-- What may become of a lane, and what its worker sends meanwhile. -/
inductive Sends (m₀ : Moment) (l₀ : Lane) : List DeliveryResult → Moment → Lane → Prop
  | start : Sends m₀ l₀ [] m₀ l₀
  | turn {out : List DeliveryResult} {m m' : Moment} {l l' : Lane} (h : Sends m₀ l₀ out m l)
      (hturn : Turn m l m' l') : Sends m₀ l₀ (out ++ l.sent l') m' l'

/-- What can happen to a worker and its queue of reports, and what the worker sends then. -/
inductive Handles (m : Moment) (l : Lane) : List DeliveryResult → Lane → Prop
  /-- Nothing happens to the worker, but a report may come in. -/
  | rest {l' : Lane} (more : List DeliveryResult) (hphase : l'.phase = l.phase)
      (hreports : l'.reports = l.reports ++ more)
      (hgone : l.phase.isGone = true → more = []) : Handles m l [] l'
  | pick {l' : Lane} {r : DeliveryResult} {next : AfterForward} (hphase : l.phase = next.phase)
      (hnext : next ≠ .stop) (hreports : l.reports = r :: l'.reports)
      (hphase' : l'.phase = .holding r next) : Handles m l [] l'
  /-- A record comes too late to be delivered. -/
  | lapse {l' : Lane} {reason : DoneReason} (hphase : l.phase = .listening)
      (hreports : l'.reports = l.reports)
      (hphase' : l'.phase = .holding (.cancelled l.channel (lateNotice reason l.channel)) .listen) :
      Handles m l [] l'
  | send {l' : Lane} {r : DeliveryResult} {next : AfterForward} (hphase : l.phase = .holding r next)
      (hreports : l'.reports = if next = .stop then [] else l.reports)
      (hphase' : l'.phase = next.phase) : Handles m l [r] l'
  | halt {l' : Lane} (hphase : l.phase = .listening) (hcancel : m.isCancelled = true)
      (hreports : l'.reports = l.reports) (hphase' : l'.phase = .draining) : Handles m l [] l'
  | announce {l' : Lane} (hphase : l.phase = .draining) (hreports : l.reports = [])
      (hreports' : l'.reports = [])
      (hphase' : l'.phase = .holding (.notice l.channel (stopNotice l.channel)) .stop) :
      Handles m l [] l'
  | crash {l' : Lane} (hphase : l.phase = .listening) (hreports : l'.reports = [])
      (hphase' : l'.phase = .crashed) : Handles m l [] l'

variable {k : Kit} {m m' m₀ m₁ start : Moment} {l l' l₀ l₁ : Lane} {e : LaneEvent}
  {out more : List DeliveryResult}

/-! ### One turn -/

/-- A worker that holds nothing has nothing to send. -/
theorem sent_of_held_eq_nil (h : l.phase.held = []) (l' : Lane) : l.sent l' = [] := by
  unfold sent
  split
  · exact h
  · rfl

/-- A worker that stays in its phase sends nothing. -/
theorem sent_of_phase_eq (h : l'.phase = l.phase) : l.sent l' = [] := by
  unfold sent
  rw [h]
  split
  · rwa [List.isEmpty_iff] at *
  · rfl

/-- A worker that goes on sends what it held. -/
theorem sent_release {r : DeliveryResult} {next : AfterForward} (hphase : l.phase = .holding r next)
    (hphase' : l'.phase = next.phase) : l.sent l' = [r] := by
  unfold sent
  rw [hphase, hphase']
  cases next <;> rfl

theorem phase_release (l : Lane) (next : AfterForward) : (l.release next).phase = next.phase := by
  cases next <;> rfl

theorem reports_release (l : Lane) (next : AfterForward) :
    (l.release next).reports = if next = .stop then [] else l.reports := by
  cases next <;> rfl

/-- Nothing happens to the worker. -/
theorem Handles.still (hphase : l'.phase = l.phase) (hreports : l'.reports = l.reports) :
    l.Handles m (l.sent l') l' := by
  rw [sent_of_phase_eq hphase]
  exact .rest [] hphase (hreports.trans (List.append_nil _).symm) fun _ => rfl

/-- What a lane does by itself is one of the things that can happen to its worker. -/
theorem Move.handles (h : l.Move m e l') : l.Handles m (l.sent l') l' := by
  have hidle : ∀ {phase : WorkerPhase}, l.phase = phase → phase.held = [] → l.sent l' = [] := by
    rintro phase rfl hheld
    exact sent_of_held_eq_nil hheld l'
  cases h with
  | lose | enter | complete | drop | launch => exact .still rfl rfl
  | @report i r hr hthere =>
    have hsent : l.sent { l with reporting := l.reporting.eraseIdx i, reports := l.reports ++ [r] } =
        [] := sent_of_phase_eq rfl
    rw [hsent]
    refine .rest [r] rfl rfl fun hgone => ?_
    rw [hgone] at hthere
    cases hthere
  | crash hphase =>
    rw [hidle hphase rfl]
    exact .crash hphase rfl rfl
  | lapse hphase =>
    rw [hidle hphase rfl]
    exact .lapse hphase rfl rfl
  | gather hphase hr =>
    rw [hidle hphase rfl]
    exact .pick (show l.phase = AfterForward.listen.phase from hphase) (by decide) hr rfl
  | drain hphase hr =>
    rw [hidle hphase rfl]
    exact .pick (show l.phase = AfterForward.drain.phase from hphase) (by decide) hr rfl
  | @discard r next hphase =>
    rw [sent_release hphase (l.phase_release next)]
    exact .send hphase (l.reports_release next) (l.phase_release next)
  | @forward r next hphase =>
    have hsent : l.sent { l.release next with results := l.results ++ [r] } = [r] :=
      sent_release hphase (l.phase_release next)
    rw [hsent]
    exact .send hphase (l.reports_release next) (l.phase_release next)
  | halt hphase hcancel =>
    rw [hidle hphase rfl]
    exact .halt hphase hcancel rfl rfl
  | announce hphase hr =>
    rw [hidle hphase rfl]
    exact .announce hphase hr hr rfl

/-- In a turn one of the listed things happens to the worker. -/
theorem Turn.handles (h : Turn m l m' l') : l.Handles m (l.sent l') l' := by
  cases h with
  | step h => exact (move_of_step? h).handles
  | trip h =>
    obtain rfl := eq_of_trip? h
    exact .still rfl rfl
  | take h =>
    obtain ⟨rest, -, rfl⟩ := eq_of_takeResult? h
    exact .still rfl rfl
  | _ => exact .still rfl rfl

/-- A program that is cancelled stays cancelled. -/
theorem Turn.isCancelled (h : Turn m l m' l') (hm : m.isCancelled = true) :
    m'.isCancelled = true := by
  unfold Moment.isCancelled at hm ⊢
  split at hm
  · rename_i t ht
    have hnow : t ≤ m.now := of_decide_eq_true hm
    cases h with
    | trip | cancel => simp [Moment.cancel, ht, hnow]
    | pass hpass => simp [ht, Nat.le_trans hnow hpass]
    | _ => simp [ht, hnow]
  · cases hm

/-- A worker that is gone stays as it is. -/
theorem Handles.phase_eq (h : l.Handles m out l') (hgone : l.phase.isGone = true) :
    out = [] ∧ l'.phase = l.phase := by
  cases h with
  | rest more hphase => exact ⟨rfl, hphase⟩
  | @pick _ r next hphase hnext =>
    rw [hphase] at hgone
    cases next with
    | stop => exact absurd rfl hnext
    | listen | drain => cases hgone
  | lapse hphase | send hphase | halt hphase | announce hphase | crash hphase =>
    rw [hphase] at hgone
    cases hgone

/-! ### Runs -/

namespace Sends

/-- One run after the other. -/
theorem append (h : Sends m₀ l₀ out m l) (h' : Sends m l more m' l') :
    Sends m₀ l₀ (out ++ more) m' l' := by
  induction h' with
  | start =>
    rw [List.append_nil]
    exact h
  | turn _ hturn ih =>
    rw [← List.append_assoc]
    exact ih.turn hturn

theorem reaches (h : Sends start (k.start start.now) out m l) : k.Reaches start m l := by
  induction h with
  | start => exact .start
  | turn _ hturn ih => exact ih.turn hturn

/-- A worker that is gone sends nothing more. -/
theorem eq_nil_of_isGone (h : Sends m l out m' l') (hgone : l.phase.isGone = true) :
    out = [] ∧ l'.phase = l.phase := by
  induction h with
  | start => exact ⟨rfl, rfl⟩
  | turn _ hturn ih =>
    obtain ⟨rfl, hphase⟩ := ih
    obtain ⟨hnone, hphase'⟩ := hturn.handles.phase_eq (by rw [hphase, hgone])
    rw [hnone]
    exact ⟨rfl, hphase'.trans hphase⟩

end Sends

theorem Kit.Reaches.exists_sends (h : k.Reaches start m l) :
    ∃ out, Sends start (k.start start.now) out m l := by
  induction h with
  | start => exact ⟨[], .start⟩
  | turn _ hturn ih =>
    obtain ⟨out, hout⟩ := ih
    exact ⟨_, hout.turn hturn⟩

/-- As long as the program is not cancelled, a worker is not on its way out. -/
theorem Kit.Reaches.not_isLeaving (h : k.Reaches start m l) (hm : m.isCancelled = false) :
    l.phase.isLeaving = false := by
  induction h with
  | start => rfl
  | @turn m m' l l' _ hturn ih =>
    have hbefore : m.isCancelled = false := by
      by_contra hcancelled
      rw [hturn.isCancelled (Bool.eq_true_of_not_eq_false hcancelled)] at hm
      cases hm
    have hstays := ih hbefore
    rcases hturn.change with rfl | hchange
    · exact hstays
    · by_contra hleaving
      rcases hchange.isLeaving (Bool.eq_true_of_not_eq_false hleaving) with hleft | hcancelled
      · rw [hstays] at hleft
        cases hleft
      · rw [hbefore] at hcancelled
        cases hcancelled

theorem Kit.Reaches.labelled (h : k.Reaches start m l) : l.Labelled := by
  induction h with
  | start =>
    exact
      { reporting := fun r hr => nomatch hr
        reports := fun r hr => nomatch hr
        held := fun r next h => nomatch h
        results := fun r hr => nomatch hr
        notice := fun _ r hr => nomatch hr }
  | turn _ hturn ih =>
    rcases hturn.change with rfl | hchange
    · exact ih
    · exact ih.change hchange

/-! ### Notices -/

/-- Nothing that was sent is a notice, but for the last thing that a worker that has stopped has
sent. The only notice that a worker holds is the one with which it stops. -/
structure Announces (l : Lane) (out : List DeliveryResult) : Prop where
  held : ∀ r, l.phase = .holding r .stop → r = .notice l.channel (stopNotice l.channel)
  before : l.phase ≠ .stopped → ∀ r ∈ out, r.isNotice = false
  last : l.phase = .stopped → ∃ others, out = others ++ [.notice l.channel (stopNotice l.channel)] ∧
    ∀ r ∈ others, r.isNotice = false

theorem phase_ne_stopped {next : AfterForward} (h : next ≠ .stop) : next.phase ≠ .stopped := by
  cases next with
  | stop => exact absurd rfl h
  | listen | drain =>
    intro hphase
    cases hphase

theorem phase_ne_holding (next next' : AfterForward) (r : DeliveryResult) :
    next.phase ≠ .holding r next' := by
  cases next <;> intro hphase <;> cases hphase

theorem Announces.handles (h : l.Handles m more l') (hlabels : l.Labelled)
    (hchannel : l'.channel = l.channel) (hl : l.Announces out) : l'.Announces (out ++ more) := by
  -- Whatever is not on its way out has sent no notice, and does not send one now.
  have hquiet : ∀ phase phase', l.phase = phase → l'.phase = phase' → phase ≠ .stopped →
      phase' ≠ .stopped → (∀ r, phase' ≠ .holding r .stop) → (∀ r ∈ more, r.isNotice = false) →
      l'.Announces (out ++ more) := by
    rintro _ _ rfl rfl hthere hthere' hheld hmore
    refine ⟨fun r hr => absurd hr (hheld r), fun _ r hr => ?_, fun h => absurd h hthere'⟩
    rcases List.mem_append.1 hr with hr | hr
    · exact hl.before hthere r hr
    · exact hmore r hr
  have hnone : ∀ r ∈ ([] : List DeliveryResult), r.isNotice = false := by simp
  cases h with
  | rest _ hphase =>
    rw [List.append_nil]
    exact ⟨by rw [hphase, hchannel]; exact hl.held, by rw [hphase]; exact hl.before,
      by rw [hphase, hchannel]; exact hl.last⟩
  | @pick _ r next hphase hnext _ hphase' =>
    refine hquiet _ _ hphase hphase' (phase_ne_stopped hnext) (by simp) (fun s hs => ?_) hnone
    cases hs
    exact hnext rfl
  | lapse hphase _ hphase' =>
    exact hquiet _ _ hphase hphase' (by simp) (by simp) (by simp) hnone
  | @send _ r next hphase _ hphase' =>
    have hthere : l.phase ≠ .stopped := by
      rw [hphase]
      simp
    by_cases hnext : next = .stop
    · subst hnext
      refine ⟨fun s hs => ?_, fun hstopped => absurd hphase' hstopped, fun _ => ?_⟩
      · rw [hphase'] at hs
        cases hs
      · rw [hl.held r hphase, hchannel]
        exact ⟨out, rfl, hl.before hthere⟩
    · refine hquiet _ _ hphase hphase' (by simp) (phase_ne_stopped hnext)
        (phase_ne_holding next .stop) ?_
      intro s hs
      rw [List.mem_singleton.1 hs]
      exact (hlabels.held r next hphase).2 hnext
  | halt hphase _ _ hphase' | crash hphase _ hphase' =>
    exact hquiet _ _ hphase hphase' (by simp) (by simp) (by simp) hnone
  | announce hphase _ _ hphase' =>
    have hthere : l.phase ≠ .stopped := by
      rw [hphase]
      simp
    refine ⟨fun r hr => ?_, fun _ => ?_, fun hstopped => ?_⟩
    · rw [hphase'] at hr
      cases hr
      rw [hchannel]
    · rw [List.append_nil]
      exact hl.before hthere
    · rw [hphase'] at hstopped
      cases hstopped

/-- A worker sends no notice but the one with which it stops. -/
theorem Sends.announces (h : Sends start (k.start start.now) out m l) : l.Announces out := by
  induction h with
  | start =>
    exact
      { held := fun r hr => nomatch hr
        before := fun _ r hr => nomatch hr
        last := fun hr => nomatch hr }
  | @turn out m m' l l' h hturn ih =>
    have hchannel : l'.channel = l.channel :=
      channel_of_kit ((h.turn hturn).reaches.kit_eq.trans h.reaches.kit_eq.symm)
    exact ih.handles hturn.handles h.reaches.labelled hchannel

/-! ### What a worker owes -/

/-- What a worker is going to send, as far as that is known. -/
def owed (l : Lane) : List DeliveryResult :=
  match l.phase with
  | .listening => l.reports
  | .draining => l.reports
  | .holding r .stop => [r]
  | .holding r _ => r :: l.reports
  | _ => []

/-- A worker that is there sends what it owes, or it still owes it. -/
theorem Handles.owed_sublist (h : l.Handles m out l') (hthere : l'.phase ≠ .crashed) :
    l.owed.Sublist (out ++ l'.owed) := by
  cases h with
  | rest more hphase hreports =>
    have hmore : l.reports.Sublist l'.reports := by
      rw [hreports]
      exact List.sublist_append_left _ _
    rw [List.nil_append]
    unfold owed
    rw [hphase]
    cases l.phase with
    | listening | draining => exact hmore
    | holding r next =>
      cases next with
      | stop => exact List.Sublist.refl _
      | listen | drain => exact hmore.cons_cons r
    | stopped | crashed => exact List.Sublist.refl _
  | @pick _ r next hphase hnext hreports hphase' =>
    rw [List.nil_append]
    unfold owed
    rw [hphase, hphase']
    cases next with
    | stop => exact absurd rfl hnext
    | listen | drain => exact hreports ▸ List.Sublist.refl _
  | lapse hphase hreports hphase' =>
    rw [List.nil_append]
    unfold owed
    rw [hphase, hphase']
    dsimp only
    rw [hreports]
    exact List.sublist_cons_self _ _
  | @send _ r next hphase hreports hphase' =>
    unfold owed
    rw [hphase, hphase', hreports]
    cases next <;> exact List.Sublist.refl _
  | halt hphase _ hreports hphase' =>
    rw [List.nil_append]
    unfold owed
    rw [hphase, hphase', hreports]
  | announce hphase hreports =>
    unfold owed
    rw [hphase]
    dsimp only
    rw [hreports]
    exact List.nil_sublist _
  | crash _ _ hphase' => exact absurd hphase' hthere

/-- Whatever else a worker sends, it sends what it owes, in this order, unless it dies. -/
theorem Sends.owed_sublist (h : Sends m₀ l₀ out m l) (hthere : l.phase ≠ .crashed) :
    l₀.owed.Sublist (out ++ l.owed) := by
  induction h with
  | start => exact List.Sublist.refl _
  | @turn out m m' l l' _ hturn ih =>
    have hthere' : l.phase ≠ .crashed := by
      intro hcrashed
      have hstays := (hturn.handles.phase_eq (by rw [hcrashed]; rfl)).2
      exact hthere (hstays.trans hcrashed)
    rw [List.append_assoc]
    exact (ih hthere').trans ((hturn.handles.owed_sublist hthere).append_left out)

/-- A worker that is not on its way out owes what it holds and what is in its queue of reports. -/
theorem owed_eq (hleaving : l.phase.isLeaving = false) (hthere : l.phase ≠ .crashed) :
    l.owed = l.phase.held ++ l.reports := by
  unfold owed
  cases hphase : l.phase with
  | listening => rfl
  | holding r next =>
    cases next with
    | listen => rfl
    | drain | stop =>
      rw [hphase] at hleaving
      cases hleaving
  | draining | stopped =>
    rw [hphase] at hleaving
    cases hleaving
  | crashed => exact absurd hphase hthere

end Lane

end AlertRelay
