import AlertRelay.Proofs.Lane.Overrun
import AlertRelay.Proofs.Pipeline.Diligence
import AlertRelay.Proofs.Pipeline.Instants

/-!
# How late deliveries are on the clock

On the clock a program does all that it can do before the time moves on, and the time moves on to
what is due next. So it leaves no delivery behind that returns (`Pipeline.mayPass_of_act?`), and
what is known of deliveries in such runs holds of all lanes as long as the program runs: a delivery
with short calls is concluded before its latest return, in whatever order and at whatever times
records come in and the program is cancelled (`Pipeline.conclude_in_time`).
-/

namespace AlertRelay

namespace Pipeline

open Clockwork

variable {p₀ p q : Pipeline} {t : Instant}

/-- As long as the program has been running, no delivery with short calls was late. -/
def NoneLate (p : Pipeline) : Prop :=
  ∃ now, (p.isStopped = false → now = p.now) ∧ ∀ l ∈ p.lanes, l.NoneLate now

/-- A program that does nothing before the next thing is due leaves no delivery behind. -/
theorem mayPass_of_act? (hact : p.act? = none) (hdue : ∀ u ∈ p.due, p.now < u → t ≤ u)
    (hstopped : p.isStopped = false) {l : Lane} (hl : l ∈ p.lanes) : l.MayPass p.moment t := by
  intro d hd u hu
  have hrest : p.AtRest := atRest_of_act? hact hstopped
  have hlater : p.now < u := Lane.lt_of_rest (hrest.lane l hl) hd (hrest.mustTrip hl hd) hu
  have hmem : u ∈ p.due := by
    rw [due, hstopped, if_neg Bool.false_ne_true]
    refine List.mem_append_right _ (List.mem_flatMap.2 ⟨l, hl, List.mem_flatMap.2 ⟨d, hd, ?_⟩⟩)
    exact List.mem_append_left _ (Option.mem_toList.2 hu)
  exact Nat.le_trans (hdue u hmem hlater) (Nat.le_max_right _ _)

section Runs

variable (hp : p₀.Fresh) (hbase : ∀ l ∈ p₀.lanes, 0 < l.sender.settings.baseTimeout.toNanos)

include hp hbase

/-- What happens to a lane while the program runs makes no delivery late. -/
theorem Reaches.noneLate_turn (h : p₀.Reaches p) {m : Moment} {l l' : Lane} (hl : l ∈ p.lanes)
    (hlate : l.NoneLate p.now) (hturn : Lane.Turn p.moment l m l')
    (hclock : l.MayPass p.moment m.now) : l'.NoneLate m.now := by
  obtain ⟨since, hschedule⟩ := h.onSchedule hp l hl
  obtain ⟨l₀, hl₀, hkit⟩ := h.exists_kit hl
  have hsender : l.sender = l₀.sender := congrArg Lane.Kit.sender hkit
  refine Lane.NoneLate.turn hlate hschedule (h.tracks hp l hl) ?_ hturn hclock
  rw [hsender]
  exact hbase l₀ hl₀

theorem NoneLate.of_act? (hlate : p.NoneLate) (h : p₀.Reaches p) (hact : p.act? = some q) :
    q.NoneLate := by
  obtain ⟨hstopped, e, he, hstep⟩ := exists_of_act? hact
  have hmove := move_of_step? hstep
  have hnow : q.now = p.now := hmove.now_eq (isInternal_of_nextEvent? he)
  obtain ⟨now, hrunning, hlanes⟩ := hlate
  obtain rfl := hrunning hstopped
  refine ⟨q.now, fun _ => rfl, fun l' hl' => ?_⟩
  obtain ⟨k, hk⟩ := List.mem_iff_getElem?.1 hl'
  obtain ⟨l, hl, ⟨-, rfl⟩ | hturn⟩ := hmove.turn hk
  · rw [hnow]
    exact hlanes l' (List.mem_of_getElem? hl)
  · have hl := List.mem_of_getElem? hl
    refine h.noneLate_turn hp hbase hl (hlanes l hl) hturn fun _ _ _ _ => ?_
    exact Nat.le_trans (Nat.le_of_eq hnow) (Nat.le_max_left _ _)

theorem NoneLate.settle (hlate : p.NoneLate) (h : p₀.Reaches p) : (settle p).NoneLate := by
  refine (settle_keeps (P := fun q => p₀.Reaches q ∧ q.NoneLate) ?_ ⟨h, hlate⟩).2
  intro q q' hact hq
  exact ⟨hq.1.trans (reaches_of_act? hact), hq.2.of_act? hp hbase hq.1 hact⟩

theorem NoneLate.wait (hlate : p.NoneLate) (h : p₀.Reaches p) (hact : p.act? = none)
    (hdue : ∀ u ∈ p.due, p.now < u → t ≤ u) (ht : p.now ≤ t) : (p.wait t).NoneLate := by
  obtain ⟨now, hrunning, hlanes⟩ := hlate
  cases hstopped : p.isStopped with
  | true =>
    refine ⟨now, fun hgoes => ?_, hlanes⟩
    rw [show (p.wait t).isStopped = true from hstopped] at hgoes
    cases hgoes
  | false =>
    obtain rfl := hrunning hstopped
    refine ⟨t, fun _ => rfl, fun l hl => ?_⟩
    exact h.noneLate_turn hp hbase hl (hlanes l hl) (.pass (m := p.moment) ht l)
      (mayPass_of_act? hact hdue hstopped hl)

/-- What the program does by itself makes no delivery late. -/
theorem NoneLate.runFor (hlate : p.NoneLate) (h : p₀.Proceeds p) (limit : Option Instant)
    {steps : Nat} (hsteps : p.effort < steps) : (Clockwork.runFor limit steps p).NoneLate :=
  (h.runFor (Q := NoneLate) hp limit hsteps
    (fun hq hact hlate => hlate.of_act? hp hbase hq.reaches hact)
    (fun hq hact hnext _ hlate => hlate.wait hp hbase hq.reaches hact
      (fun _ hu hlt => le_of_nextDue? hnext hu hlt) (Nat.le_of_lt (lt_of_nextDue? hnext)))
    hlate).1.2

theorem NoneLate.runTo (hlate : p.NoneLate) (h : p₀.Proceeds p) (t : Instant) :
    (Clockwork.runTo t p).NoneLate := by
  obtain ⟨⟨hrun, -⟩, hact, hlimit⟩ := h.runFor (Q := fun _ => True) hp (some t)
    (Nat.lt_succ_self _) (fun _ _ h => h) (fun _ _ _ _ h => h) trivial
  have hnone := hlate.runFor hp hbase h (some t) (Nat.lt_succ_self _)
  exact hnone.wait hp hbase hrun.reaches hact (fun _ hu hlt => max_le_of_mem_due hlimit hu hlt)
    (Nat.le_max_left _ _)

/-- A directive is followed at once. -/
theorem NoneLate.follow (hlate : p.NoneLate) (h : p₀.Proceeds p) (d : Directive) :
    (p.follow d).1.NoneLate := by
  cases d with
  | submit r =>
    rw [Pipeline.follow]
    cases haccept : p.accept? r with
    | none => exact hlate
    | some q =>
      have hstep : p.step? (.accept r) = some q := haccept
      have hq : q.NoneLate := by
        cases move_of_step? hstep with
        | accept => exact hlate
      exact hq.settle hp hbase (h.step hstep trivial).reaches
  | look => exact hlate
  | cancel =>
    have hstep : p.step? .cancel = some p.cancel := rfl
    have hq : p.cancel.NoneLate := hlate
    exact hq.settle hp hbase (h.step hstep trivial).reaches

theorem NoneLate.play (hlate : p.NoneLate) (h : p₀.Proceeds p) (plan : Plan Directive) :
    (p.play plan).1.NoneLate := by
  induction plan generalizing p with
  | nil => exact hlate
  | cons item rest ih =>
    obtain ⟨t, d⟩ := item
    have hrun := h.runTo hp t
    exact ih ((hlate.runTo hp hbase h t).follow hp hbase hrun d) (hrun.follow d)

omit hbase in
theorem Fresh.noneLate : p₀.NoneLate := by
  refine ⟨p₀.now, fun _ => rfl, fun l hl => ?_⟩
  obtain ⟨-, t, ht⟩ := hp.lanes_start l hl
  rw [ht]
  exact ⟨(fun d hd => nomatch hd), (fun c hc => nomatch hc)⟩

/-- When a program has followed a plan and has come to its end, all deliveries with short calls that
were concluded by then were concluded before their latest return. -/
theorem conclude_in_time (plan : Plan Directive) :
    ∀ l ∈ (p₀.play plan).1.conclude.lanes, ∀ c ∈ l.concluded, l.Brief c.delivery →
      c.time < l.sender.latestReturn c.delivery.slot := by
  have hplay : p₀.Proceeds (p₀.play plan).1 := Proceeds.play .refl hp plan
  have hlate : (p₀.play plan).1.cancel.NoneLate :=
    NoneLate.play hp hbase (Fresh.noneLate hp) .refl plan
  have hcancel : p₀.Proceeds (p₀.play plan).1.cancel := hplay.step (e := .cancel) rfl trivial
  obtain ⟨now, -, hlanes⟩ := hlate.runFor hp hbase hcancel none (Nat.lt_succ_self _)
  exact fun l hl => (hlanes l hl).concluded

end Runs

end Pipeline

end AlertRelay
