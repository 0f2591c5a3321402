import AlertRelay.Time.Clockwork

/-!
# Runs of a system on a clock

A system on a clock acts, and waits until something is due. What is kept whenever it acts is kept
while it settles (`Clockwork.settleFor_keeps`), and what is also kept when the clock moves forward
is kept by all that it does by itself (`Clockwork.runFor_keeps`, `Clockwork.runTo_keeps`,
`Clockwork.runOut_keeps`). A system that has less to do after each step has nothing more to do when
it has settled (`Clockwork.act?_settleFor`), and if this also goes for every move of the clock, it
has nothing more to do when it has run (`Clockwork.runFor_rests`).
-/

namespace AlertRelay

namespace Clockwork

variable {σ : Type} [Clockwork σ] {P : σ → Prop}

/-- What is due next lies ahead. -/
theorem lt_of_nextDue? {s : σ} {t : Instant} (h : nextDue? s = some t) : now s < t := by
  have hmem := List.min?_mem h
  exact of_decide_eq_true (List.mem_filter.1 hmem).2

theorem mem_due_of_nextDue? {s : σ} {t : Instant} (h : nextDue? s = some t) : t ∈ due s :=
  (List.mem_filter.1 (List.min?_mem h)).1

/-- Nothing that lies ahead is due before what is due next. -/
theorem le_of_nextDue? {s : σ} {t u : Instant} (h : nextDue? s = some t) (hu : u ∈ due s)
    (hlt : now s < u) : t ≤ u :=
  (List.min?_eq_some_iff.1 h).2 u (List.mem_filter.2 ⟨hu, decide_eq_true hlt⟩)

/-- If nothing is due next, nothing lies ahead. -/
theorem not_lt_of_nextDue? {s : σ} {u : Instant} (h : nextDue? s = none) (hu : u ∈ due s) :
    ¬now s < u := by
  intro hlt
  rw [nextDue?, List.min?_eq_none_iff] at h
  have hmem : u ∈ (due s).filter (now s < ·) := List.mem_filter.2 ⟨hu, decide_eq_true hlt⟩
  rw [h] at hmem
  cases hmem

/-- If nothing is due next before a limit, nothing that lies ahead is due before it. -/
theorem max_le_of_mem_due {s : σ} {limit u : Instant}
    (hlimit : ∀ t, nextDue? s = some t → ∃ v, some limit = some v ∧ v ≤ t) (hu : u ∈ due s)
    (hlt : now s < u) : max (now s) limit ≤ u := by
  refine Nat.max_le.2 ⟨Nat.le_of_lt hlt, ?_⟩
  cases hnext : nextDue? s with
  | none => exact absurd hlt (not_lt_of_nextDue? hnext hu)
  | some t =>
    obtain ⟨v, hv, hle⟩ := hlimit t hnext
    obtain rfl : limit = v := Option.some.inj hv
    exact Nat.le_trans hle (le_of_nextDue? hnext hu hlt)

/-- A system that does nothing has settled. -/
theorem settleFor_of_act? {s : σ} (h : act? s = none) (steps : Nat) : settleFor steps s = s := by
  cases steps with
  | zero => rfl
  | succ steps => rw [settleFor, h]

section Keeps

variable (hact : ∀ s s' : σ, act? s = some s' → P s → P s')

include hact

theorem settleFor_keeps (steps : Nat) {s : σ} (hs : P s) : P (settleFor steps s) := by
  induction steps generalizing s with
  | zero => exact hs
  | succ steps ih =>
    rw [settleFor]
    split
    · rename_i s' hs'
      exact ih (hact s s' hs' hs)
    · exact hs

theorem settle_keeps {s : σ} (hs : P s) : P (settle s) :=
  settleFor_keeps hact _ hs

/-- If whatever the system does makes something less, and the steps are enough for it, nothing is
left to do at this instant when it has settled. -/
theorem act?_settleFor {f : σ → Nat} (hless : ∀ s s' : σ, act? s = some s' → P s → f s' < f s)
    {steps : Nat} {s : σ} (hs : P s) (hle : f s ≤ steps) : act? (settleFor steps s) = none := by
  induction steps generalizing s with
  | zero =>
    rw [settleFor]
    cases hs' : act? s with
    | none => rfl
    | some s' => exact absurd (hless s s' hs' hs) (by omega)
  | succ steps ih =>
    rw [settleFor]
    split
    · rename_i s' hs'
      have hlt := hless s s' hs' hs
      exact ih (hact s s' hs' hs) (by omega)
    · assumption

variable (hwait : ∀ (s : σ) (t : Instant), now s ≤ t → P s → P (wait t s))

include hwait

theorem runFor_keeps (limit : Option Instant) (steps : Nat) {s : σ} (hs : P s) :
    P (runFor limit steps s) := by
  induction steps generalizing s with
  | zero => exact hs
  | succ steps ih =>
    rw [runFor]
    have hsettle : P (settle s) := settle_keeps hact hs
    split
    · exact hsettle
    · rename_i t hdue
      split
      · exact ih (hwait (settle s) t (Nat.le_of_lt (lt_of_nextDue? hdue)) hsettle)
      · exact hsettle

theorem runTo_keeps (t : Instant) {s : σ} (hs : P s) : P (runTo t s) :=
  hwait _ _ (Nat.le_max_left _ _) (runFor_keeps hact hwait _ _ hs)

theorem runOut_keeps {s : σ} (hs : P s) : P (runOut s) :=
  runFor_keeps hact hwait _ _ hs

end Keeps

/-- A system that has less before it whenever the clock moves has nothing more to do when it has
run, and nothing is due before the limit. It may be assumed that the clock moves to what is due
next. -/
theorem runFor_rests {f : σ → Nat} (hact : ∀ s s' : σ, act? s = some s' → P s → P s')
    (hrest : ∀ s : σ, P s → act? (settle s) = none)
    (hdue : ∀ (s : σ) (t : Instant), act? s = none → nextDue? s = some t → P s →
      P (wait t s) ∧ f (settle (wait t s)) < f s)
    (limit : Option Instant) {steps : Nat} {s : σ} (hs : P s) (hsteps : f (settle s) < steps) :
    P (runFor limit steps s) ∧ act? (runFor limit steps s) = none ∧
      ∀ t, nextDue? (runFor limit steps s) = some t → ∃ u, limit = some u ∧ u ≤ t := by
  induction steps generalizing s with
  | zero => exact absurd hsteps (Nat.not_lt_zero _)
  | succ steps ih =>
    have hsettle : P (settle s) := settle_keeps hact hs
    have hnone : act? (settle s) = none := hrest s hs
    rw [runFor]
    split
    · rename_i hnever
      refine ⟨hsettle, hnone, fun t ht => ?_⟩
      rw [hnever] at ht
      cases ht
    · rename_i t hnext
      obtain ⟨hwait, hless⟩ := hdue (settle s) t hnone hnext hsettle
      split
      · exact ih hwait (Nat.lt_of_lt_of_le hless (Nat.le_of_lt_succ hsteps))
      · rename_i hlate
        refine ⟨hsettle, hnone, fun t' ht' => ?_⟩
        obtain rfl : t = t' := Option.some.inj (hnext.symm.trans ht')
        cases limit with
        | none => exact absurd rfl hlate
        | some u => exact ⟨u, rfl, Nat.le_of_not_lt (by simpa using hlate)⟩

end Clockwork

end AlertRelay
