import AlertRelay.Proofs.Pipeline.Rest

/-!
# Prompt runs

In virtual time the clock stands still while there is something to do. A pipeline runs promptly if
the clock moves only while nothing can happen, and if the tasks that wait to put their records in
the queue of a lane are served in the order in which they came (`Pipeline.Unfolds`). The parts of
the pipeline may otherwise take turns in any order. What the program prefers to do is prompt
(`Pipeline.isPrompt_of_nextEvent?`), and so is the clock when it moves to the time of the next
delivery (`Pipeline.Unfolds.wait`).
-/

namespace AlertRelay

namespace Pipeline

open Clockwork

/-- The clock moves only while nothing can happen, and records enter the queue of a lane in the
order in which they were handed over. Anything else happens promptly whenever it happens. -/
def IsPrompt (p : Pipeline) : PipelineEvent → Prop
  | .pass t => ∀ u, p.now ≤ u → u < t → (p.wait u).AtRest
  | .lane _ (.enter j) => j = 0
  | _ => True

/-- What can become of a pipeline by events that happen promptly. -/
def Unfolds : Pipeline → Pipeline → Prop :=
  Relation.ReflTransGen fun p q => ∃ e, p.IsPrompt e ∧ p.step? e = some q

variable {p₀ p q : Pipeline} {e : PipelineEvent}

/-- What happens promptly happens. -/
theorem Unfolds.reaches (h : p.Unfolds q) : p.Reaches q := by
  induction h with
  | refl => exact .refl
  | tail _ hstep ih =>
    obtain ⟨e, -, he⟩ := hstep
    exact Reaches.step ih he

/-- A lane prefers the record that was handed over first. -/
theorem isPrompt_of_mem_preference {l : Lane} {e : LaneEvent} (he : e ∈ l.preference) (i : Nat) :
    p.IsPrompt (.lane i e) := by
  cases e with
  | enter j =>
    have hfirst : j = 0 := by simpa [Lane.preference] using he
    exact hfirst
  | _ => trivial

/-- What the program prefers to do it does promptly. -/
theorem isPrompt_of_nextEvent? (h : p.nextEvent? = some e) : p.IsPrompt e := by
  rcases List.mem_append.1 (List.mem_of_find?_eq_some h) with hlane | hdispatcher
  · rcases List.mem_append.1 hlane with htrip | hevent
    · obtain ⟨i, -, hi⟩ := List.mem_flatMap.1 htrip
      split at hi
      · obtain ⟨j, -, rfl⟩ := List.mem_map.1 hi
        trivial
      · cases hi
    · obtain ⟨i, -, hi⟩ := List.mem_flatMap.1 hevent
      split at hi
      · obtain ⟨e, he, rfl⟩ := List.mem_map.1 hi
        exact isPrompt_of_mem_preference he i
      · cases hi
  · cases e with
    | pass t => simp [dispatcherPreference] at hdispatcher
    | lane i e => simp [dispatcherPreference] at hdispatcher
    | _ => trivial

theorem Unfolds.step (h : p₀.Unfolds p) (he : p.step? e = some q) (hprompt : p.IsPrompt e) :
    p₀.Unfolds q :=
  Relation.ReflTransGen.tail h ⟨e, hprompt, he⟩

theorem Unfolds.of_act? (h : p₀.Unfolds p) (hact : p.act? = some q) : p₀.Unfolds q := by
  obtain ⟨-, e, he, hstep⟩ := exists_of_act? hact
  exact h.step hstep (isPrompt_of_nextEvent? he)

theorem Unfolds.settleFor (h : p₀.Unfolds p) (steps : Nat) :
    p₀.Unfolds (Clockwork.settleFor steps p) :=
  settleFor_keeps (P := p₀.Unfolds) (fun _ _ hact h => h.of_act? hact) steps h

/-- What a directive sets off happens promptly. -/
theorem Unfolds.follow (h : p₀.Unfolds p) (d : Directive) : p₀.Unfolds (p.follow d).1 := by
  cases d with
  | submit r =>
    rw [Pipeline.follow]
    cases haccept : p.accept? r with
    | none => exact h
    | some q =>
      have hstep : p.step? (.accept r) = some q := haccept
      exact (h.step hstep trivial).settleFor _
  | look => exact h
  | cancel =>
    have hstep : p.step? .cancel = some p.cancel := rfl
    exact (h.step hstep trivial).settleFor _

/-- Nothing but deliveries is on its way, and none of them is due before `t`. -/
def CalmUntil (p : Pipeline) (t : Instant) : Prop :=
  p.Calm ∧ p.moment.cancelledAt = none ∧ p.now ≤ t ∧
    ∀ l ∈ p.lanes, ∀ u ∈ l.timers p.moment, t ≤ u

instance (p : Pipeline) (t : Instant) : Decidable (p.CalmUntil t) :=
  inferInstanceAs (Decidable (_ ∧ _))

/-- The clock may move as far as nothing happens. -/
theorem Unfolds.wait (h : p₀.Unfolds p) (hp : p₀.Fresh) {t : Instant} (hcalm : p.CalmUntil t) :
    p₀.Unfolds (p.wait t) := by
  obtain ⟨hcalm, hun, hle, hdue⟩ := hcalm
  have hs : p.Staged := h.reaches.staged hp
  have hprompt : p.IsPrompt (.pass t) := fun u _ hut =>
    hcalm.atRest hs hun fun l hl v hv => Nat.lt_of_lt_of_le hut (hdue l hl v hv)
  have hpass : p.step? (.pass t) = some (p.wait t) := if_pos hle
  exact h.step hpass hprompt

end Pipeline

namespace Sample

open Clockwork

/-- Two records come in at once. -/
def twoRecords (p : Pipeline) : Pipeline :=
  ((p.follow (.submit record)).1.follow (.submit record)).1

/-- The deliveries of the first one are over. -/
def afterFirst (p : Pipeline) : Pipeline :=
  settle ((twoRecords p).wait 2000001000)

/-- The deliveries of the second one are over, too. -/
def afterSecond (p : Pipeline) : Pipeline :=
  settle ((afterFirst p).wait 3000001000)

theorem unfolds_afterSecond {p : Pipeline} (hp : p.Fresh)
    (hfirst : (twoRecords p).CalmUntil 2000001000) (hsecond : (afterFirst p).CalmUntil 3000001000)
    (hlast : (afterSecond p).CalmUntil 3000001001) : p.Unfolds ((afterSecond p).wait 3000001001) := by
  have htwo : p.Unfolds (twoRecords p) := Pipeline.Unfolds.follow (.follow .refl _) _
  have hthen : p.Unfolds (afterFirst p) := (htwo.wait hp hfirst).settleFor _
  exact ((hthen.wait hp hsecond).settleFor _).wait hp hlast

end Sample

end AlertRelay
