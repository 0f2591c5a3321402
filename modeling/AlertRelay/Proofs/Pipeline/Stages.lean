import AlertRelay.Proofs.Lane.Phase
import AlertRelay.Proofs.Pipeline.Move

/-!
# The stages of a pipeline

What the phase of the dispatcher tells about the rest of the pipeline. Records are taken until the
program is cancelled; the recorders are there until the dispatcher waits for the counters; and a
lane that the dispatcher no longer waits for is finished or given up. `Pipeline.Staged` collects
this, and `Pipeline.Reaches.staged` states it for all that is reached from a fresh pipeline.
-/

namespace AlertRelay

/-- Whether the dispatcher still holds its recorder. -/
def DispatcherPhase.isCounting : DispatcherPhase → Bool
  | .settling => false
  | .stopped => false
  | _ => true

/-- Whether the dispatcher has waited for lane number `k` already. -/
def DispatcherPhase.isPast : DispatcherPhase → Nat → Prop
  | .closing i _, k => k < i
  | .settling, _ => True
  | .stopped, _ => True
  | _, _ => False

namespace Pipeline

/-- What the phase of the dispatcher tells about the lanes and the ledger. -/
structure Staged (p : Pipeline) : Prop where
  coherent : p.ledger.Coherent
  recorders : p.ledger.isOpen = p.phase.isCounting
  closed : p.isOpen = false → p.moment.cancelledAt.isSome = true
  leaving : ∀ l ∈ p.lanes, l.phase.isLeaving = true → p.moment.cancelledAt.isSome = true
  past : ∀ k l, p.lanes[k]? = some l → p.phase.isPast k →
    l.isFinished = true ∨ l.resultsOpen = false
  givenUp : ∀ k l, p.lanes[k]? = some l → l.resultsOpen = false → p.phase.isPast k
  final : p.phase = .stopped → ∃ c, p.ledger.final = some c

variable {p q : Pipeline} {e : PipelineEvent}

theorem cancelledAt_isSome {m : Moment} (h : m.isCancelled = true) :
    m.cancelledAt.isSome = true := by
  unfold Moment.isCancelled at h
  split at h
  · rename_i t ht
    rw [ht]
    rfl
  · cases h

/-- A cancellation is never taken back. -/
theorem Move.cancelledAt (h : p.Move e q) (hc : p.moment.cancelledAt.isSome = true) :
    q.moment.cancelledAt.isSome = true := by
  cases h with
  | cancel => rfl
  | trip => rfl
  | _ => exact hc

/-- What is not cancelled was not cancelled before. -/
theorem Move.uncancelled (h : p.Move e q) (hq : q.moment.cancelledAt = none) :
    p.moment.cancelledAt = none := by
  by_contra hp
  have hsome := h.cancelledAt (Option.isSome_iff_ne_none.2 hp)
  rw [hq] at hsome
  cases hsome

theorem moment_eq (hun : p.moment.cancelledAt = none) : p.moment = ⟨p.now, none⟩ := by
  rw [← hun]
  rfl

/-- A pipeline that is closed stays closed, and only a cancelled one is closed. -/
theorem Move.isOpen (h : p.Move e q) (hq : q.isOpen = false) :
    p.isOpen = false ∨ p.moment.isCancelled = true := by
  cases h with
  | take | hand | count => cases hq
  | halt hphase hcancel => exact .inr hcancel
  | advance hphase | abandon hphase | close hphase | finish hphase =>
    exact .inl (by rw [Pipeline.isOpen, hphase])
  | _ => exact .inl hq

/-- The dispatcher does not go back to a lane. -/
theorem Move.isPast (h : p.Move e q) {k : Nat} (hp : p.phase.isPast k) : q.phase.isPast k := by
  cases h with
  | take hphase | hand hphase | count hphase | halt hphase =>
    rw [hphase] at hp
    exact hp.elim
  | advance hphase | abandon hphase =>
    rw [hphase] at hp
    exact Nat.lt_succ_of_lt hp
  | close hphase => trivial
  | finish hphase => trivial
  | _ => exact hp

/-- A lane that the dispatcher leaves is finished or given up. -/
theorem Move.isPast_iff (h : p.Move e q) {k : Nat} {l' : Lane} (hk : q.lanes[k]? = some l')
    (hq : q.phase.isPast k) :
    p.phase.isPast k ∨ l'.isFinished = true ∨ l'.resultsOpen = false := by
  cases h with
  | take | hand | count => exact hq.elim
  | halt => exact absurd hq (Nat.not_lt_zero k)
  | @advance i since l hphase hl hfinished =>
    rcases Nat.lt_succ_iff_lt_or_eq.1 hq with hlt | rfl
    · exact .inl (by rwa [hphase])
    · rw [show p.lanes[k]? = some l' from hk, Option.some.injEq] at hl
      exact .inr (.inl (hl ▸ hfinished))
  | @abandon i since l hphase hl hlate =>
    rcases Nat.lt_succ_iff_lt_or_eq.1 hq with hlt | rfl
    · exact .inl (by rwa [hphase])
    · rcases getElem?_setLane hl hk with ⟨-, rfl⟩ | ⟨hne, -⟩
      · exact .inr (.inr rfl)
      · exact absurd rfl hne
  | @close i since hphase hlanes =>
    have hlt : k < p.lanes.length := (List.getElem?_eq_some_iff.1 hk).1
    refine .inl ?_
    rw [hphase]
    exact Nat.lt_of_lt_of_le hlt hlanes
  | finish hphase => exact .inl (by rw [hphase]; trivial)
  | _ => exact .inl hq

/-- Only the dispatcher gives a lane up, and it does not come back to it. -/
theorem Move.givenUp (h : p.Move e q) {k : Nat} {l' : Lane} (hk : q.lanes[k]? = some l')
    (hclosed : l'.resultsOpen = false) :
    (∃ l, p.lanes[k]? = some l ∧ l.resultsOpen = false) ∨ q.phase.isPast k := by
  -- A change other than giving the lane up leaves its results open if they were.
  have hset : ∀ {i : Nat} {l l₁ : Lane}, p.lanes[i]? = some l →
      (p.lanes.set i l₁)[k]? = some l' → l₁.resultsOpen = l.resultsOpen →
      ∃ l, p.lanes[k]? = some l ∧ l.resultsOpen = false := by
    intro i l l₁ hl hk hopen
    rcases getElem?_setLane hl hk with ⟨rfl, rfl⟩ | ⟨-, hk⟩
    · exact ⟨l, hl, hopen ▸ hclosed⟩
    · exact ⟨l', hk, hclosed⟩
  cases h with
  | lane hl h => exact .inl (hset hl hk (Lane.move_of_step? h).resultsOpen_eq)
  | trip hl hd hmust => exact .inl (hset hl hk rfl)
  | hand hphase hl => exact .inl (hset hl hk rfl)
  | tally hphase hl hr => exact .inl (hset hl hk rfl)
  | collect hphase hl hr => exact .inl (hset hl hk rfl)
  | abandon hphase hl hlate =>
    rcases getElem?_setLane hl hk with ⟨rfl, rfl⟩ | ⟨-, hk⟩
    · exact .inr (Nat.lt_succ_self _)
    · exact .inl ⟨l', hk, hclosed⟩
  | _ => exact .inl ⟨l', hk, hclosed⟩

/-- The recorder of the dispatcher is there as long as the dispatcher counts. -/
theorem Staged.ledger_move (hs : p.Staged) (h : p.Move e q) :
    q.ledger.Coherent ∧ q.ledger.isOpen = q.phase.isCounting := by
  have hopen : p.phase.isCounting = true → p.ledger.isOpen = true := fun hc => hs.recorders.trans hc
  cases h with
  | ledger he h => exact ⟨hs.coherent.step he h, (Ledger.frame_step he h).2.trans hs.recorders⟩
  | take hphase => exact ⟨hs.coherent, hopen (by rw [hphase]; rfl)⟩
  | hand hphase | count hphase =>
    have hrec := hopen (by rw [hphase]; rfl)
    exact ⟨hs.coherent.record hrec _, (Ledger.isOpen_record _ _).trans hrec⟩
  | tally hphase | collect hphase =>
    have hrec := hopen (by rw [hphase]; rfl)
    exact ⟨hs.coherent.tally hrec _, (Ledger.isOpen_tally _ _).trans hs.recorders⟩
  | halt hphase | advance hphase | abandon hphase =>
    exact ⟨hs.coherent, hopen (by rw [hphase]; rfl)⟩
  | close hphase => exact ⟨hs.coherent.close (hopen (by rw [hphase]; rfl)), rfl⟩
  | finish hphase => exact ⟨hs.coherent, by rw [hs.recorders, hphase]; rfl⟩
  | _ => exact ⟨hs.coherent, hs.recorders⟩

/-- The dispatcher does not stop before the counters are there. -/
theorem Staged.final_move (hs : p.Staged) (h : p.Move e q) (hq : q.phase = .stopped) :
    ∃ c, q.ledger.final = some c := by
  cases h with
  | ledger he h =>
    obtain ⟨c, hc⟩ := hs.final hq
    exact ⟨c, Ledger.final_step he h hc⟩
  | take | hand | count | halt | advance | abandon | close => cases hq
  | tally hphase | collect hphase =>
    rw [show p.phase = .stopped from hq] at hphase
    cases hphase
  | finish hphase hfinal => exact Option.isSome_iff_exists.1 hfinal
  | _ => exact hs.final hq

/-- Every event leads from one stage to another as it should. -/
theorem Staged.move (hs : p.Staged) (h : p.Move e q) : q.Staged where
  coherent := (hs.ledger_move h).1
  recorders := (hs.ledger_move h).2
  closed hq := by
    refine h.cancelledAt ?_
    rcases h.isOpen hq with hp | hcancel
    · exact hs.closed hp
    · exact cancelledAt_isSome hcancel
  leaving l' hl' hleaving := by
    refine h.cancelledAt ?_
    obtain ⟨k, hk⟩ := List.mem_iff_getElem?.1 hl'
    obtain ⟨l, hl, rfl | hchange⟩ := h.lane_change hk
    · exact hs.leaving l' (List.mem_of_getElem? hl) hleaving
    · rcases hchange.isLeaving hleaving with hp | hcancel
      · exact hs.leaving l (List.mem_of_getElem? hl) hp
      · exact cancelledAt_isSome hcancel
  past k l' hk hq := by
    rcases h.isPast_iff hk hq with hp | hl'
    · obtain ⟨l, hl, rfl | hchange⟩ := h.lane_change hk
      · exact hs.past k l' hl hp
      · exact (hs.past k l hl hp).imp hchange.isFinished hchange.resultsOpen
    · exact hl'
  givenUp k l' hk hclosed := by
    rcases h.givenUp hk hclosed with ⟨l, hl, hp⟩ | hq
    · exact h.isPast (hs.givenUp k l hl hp)
    · exact hq
  final := hs.final_move h

theorem Fresh.staged (hp : p.Fresh) : p.Staged := by
  have hlane : ∀ l ∈ p.lanes, l.phase = .listening ∧ l.resultsOpen = true := by
    intro l hl
    obtain ⟨-, t, ht⟩ := hp.lanes_start l hl
    rw [ht]
    exact ⟨rfl, rfl⟩
  have hphase := hp.phase_eq
  have hledger := hp.ledger_eq
  exact
    { coherent := hledger ▸ Ledger.Coherent.empty p.capacity
      recorders := by rw [hledger, hphase]; rfl
      closed := by
        intro h
        rw [isOpen, hphase] at h
        cases h
      leaving := by
        intro l hl h
        rw [(hlane l hl).1] at h
        cases h
      past := by
        intro k l hl h
        rw [hphase] at h
        exact h.elim
      givenUp := by
        intro k l hl h
        rw [(hlane l (List.mem_of_getElem? hl)).2] at h
        cases h
      final := by
        intro h
        rw [hphase] at h
        cases h }

/-- Whatever is reached from a fresh pipeline is at one of the stages. -/
theorem Reaches.staged {p₀ : Pipeline} (h : p₀.Reaches p) (hp : p₀.Fresh) : p.Staged :=
  h.keeps hp.staged fun _ hs hmove => hs.move hmove

/-- A pipeline that is not cancelled is open. -/
theorem Staged.isOpen_eq (hs : p.Staged) (hun : p.moment.cancelledAt = none) : p.isOpen = true := by
  by_contra hclosed
  have hcancelled := hs.closed (Bool.eq_false_iff.2 hclosed)
  rw [hun] at hcancelled
  cases hcancelled

/-- No worker of a pipeline that is not cancelled is on its way out. -/
theorem Staged.isLeaving_eq (hs : p.Staged) (hun : p.moment.cancelledAt = none) {l : Lane}
    (hl : l ∈ p.lanes) : l.phase.isLeaving = false := by
  by_contra hleaving
  have hcancelled := hs.leaving l hl (eq_true_of_ne_false hleaving)
  rw [hun] at hcancelled
  cases hcancelled

end Pipeline

end AlertRelay
