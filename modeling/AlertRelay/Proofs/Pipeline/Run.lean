import AlertRelay.Pipeline.Run
import AlertRelay.Proofs.Lane.Run
import AlertRelay.Proofs.Ledger.Order
import AlertRelay.Proofs.Pipeline.Move
import AlertRelay.Proofs.Time.Clockwork

/-!
# Runs on the clock

`Pipeline.play` and `Clockwork.runOut` follow one order of events: what the parts of the program
prefer, with the clock moving only when nothing else can happen. This order is one of those that
`Pipeline.Reaches` allows, so that whatever is proved about all that is reached holds of them
(`Pipeline.reaches_play`, `Pipeline.reaches_runOut`). A small relay is set up at the end, on which
such statements can be tried.
-/

namespace AlertRelay

namespace Pipeline

open Clockwork

variable {p q : Pipeline}

/-! ### Turns of lanes -/

/-- A lane that changes takes a turn, and for all others nothing happens. -/
theorem turn_of_set {m : Moment} {lanes : List Lane} {i k : Nat} {l l₁ l₂ : Lane}
    (hl : lanes[i]? = some l) (hturn : Lane.Turn m l m l₁) (hk : (lanes.set i l₁)[k]? = some l₂) :
    ∃ l, lanes[k]? = some l ∧ (l₂ = l ∨ Lane.Turn m l m l₂) := by
  rcases getElem?_setLane hl hk with ⟨rfl, rfl⟩ | ⟨-, hk⟩
  · exact ⟨l, hl, .inr hturn⟩
  · exact ⟨l₂, hk, .inl rfl⟩

/-- What happens in a pipeline is a turn of each of its lanes, or nothing happens there. -/
theorem Move.turn {e : PipelineEvent} (h : p.Move e q) {k : Nat} {l' : Lane}
    (hk : q.lanes[k]? = some l') :
    ∃ l, p.lanes[k]? = some l ∧
      (q.moment = p.moment ∧ l' = l ∨ Lane.Turn p.moment l q.moment l') := by
  -- When the time does not move, a lane that does not take a turn stays as it is.
  have hset : ∀ {i : Nat} {l l₁ : Lane}, p.lanes[i]? = some l →
      Lane.Turn p.moment l p.moment l₁ → (p.lanes.set i l₁)[k]? = some l' →
      ∃ l, p.lanes[k]? = some l ∧
        (p.moment = p.moment ∧ l' = l ∨ Lane.Turn p.moment l p.moment l') := by
    intro i l l₁ hl hturn hk
    obtain ⟨l, hl, hsame | hturn⟩ := turn_of_set hl hturn hk
    · exact ⟨l, hl, .inl ⟨rfl, hsame⟩⟩
    · exact ⟨l, hl, .inr hturn⟩
  cases h with
  | cancel => exact ⟨l', hk, .inr (.cancel _ _)⟩
  | pass ht => exact ⟨l', hk, .inr (.pass ht _)⟩
  | lane hl h => exact hset hl (.step h) hk
  | @trip i j l d hl hd hmust =>
    rcases getElem?_setLane hl hk with ⟨rfl, rfl⟩ | ⟨-, hk⟩
    · have htrip : l.trip? p.moment j = some
          { l with running := l.running.modify j fun d => { d with tripped := true } } := by
        rw [Lane.trip?, hd, Option.bind_some, if_pos hmust]
      exact ⟨l, hl, .inr (.trip htrip)⟩
    · exact ⟨l', hk, .inr (.cancel _ _)⟩
  | @hand r i l hphase hl => exact hset hl (.offer _ _ r) hk
  | @tally i l r rest hphase hl hr =>
    have htake : l.takeResult? = some (r, { l with results := rest }) := by
      rw [Lane.takeResult?, hr]
    exact hset hl (.take htake) hk
  | @collect i since l r rest hphase hl hr =>
    have htake : l.takeResult? = some (r, { l with results := rest }) := by
      rw [Lane.takeResult?, hr]
    exact hset hl (.take htake) hk
  | abandon hphase hl hlate => exact hset hl (.abandon _ _) hk
  | _ => exact ⟨l', hk, .inl ⟨rfl, rfl⟩⟩

/-- What every turn keeps holds of all lanes of a pipeline as long as it runs. -/
theorem Reaches.keeps_turns {P : Moment → Lane → Prop} {p₀ : Pipeline} (h : p₀.Reaches p)
    (hp : ∀ l ∈ p₀.lanes, P p₀.moment l)
    (hturn : ∀ {m m' : Moment} {l l' : Lane}, Lane.Turn m l m' l' → P m l → P m' l') :
    ∀ l ∈ p.lanes, P p.moment l := by
  refine h.keeps (P := fun p => ∀ l ∈ p.lanes, P p.moment l) hp fun {p q e} _ ih hmove l' hl' => ?_
  obtain ⟨k, hk⟩ := List.mem_iff_getElem?.1 hl'
  obtain ⟨l, hl, ⟨hmoment, rfl⟩ | hl'⟩ := hmove.turn hk
  · rw [hmoment]
    exact ih l' (List.mem_of_getElem? hl)
  · exact hturn hl' (ih l (List.mem_of_getElem? hl))

theorem Move.timely {e : PipelineEvent} (h : p.Move e q) (hp : p.moment.Timely) :
    q.moment.Timely := by
  cases h with
  | cancel => exact hp.cancel
  | trip => exact hp.cancel
  | pass ht => exact hp.pass ht
  | _ => exact hp

/-- No cancellation lies ahead. -/
theorem Reaches.timely {p₀ : Pipeline} (h : p₀.Reaches p) (hp : p₀.Fresh) : p.moment.Timely := by
  refine h.keeps (P := fun p => p.moment.Timely) ?_ fun _ ih hmove => hmove.timely ih
  intro t ht
  rw [hp.eq_start] at ht
  cases ht

/-! ### The clock -/

theorem Reaches.step {p₀ : Pipeline} (h : p₀.Reaches p) {e : PipelineEvent}
    (he : p.step? e = some q) : p₀.Reaches q :=
  h.tail ⟨e, he⟩

theorem reaches_of_step? {e : PipelineEvent} (he : p.step? e = some q) : p.Reaches q :=
  Reaches.step .refl he

/-- What can happen in a lane at this moment can happen in the pipeline. -/
theorem reaches_setLane {i : Nat} {l l' : Lane} (hl : p.lanes[i]? = some l)
    (h : Relation.ReflTransGen (fun l l' : Lane => ∃ e, l.step? p.moment e = some l') l l') :
    p.Reaches (p.setLane i l') := by
  have hi : i < p.lanes.length := (List.getElem?_eq_some_iff.1 hl).1
  induction h with
  | refl =>
    have hsame : p.setLane i l = p := by
      rw [setLane, ← (List.getElem?_eq_some_iff.1 hl).2, List.set_getElem_self]
    rw [hsame]
    exact .refl
  | @tail l₁ l₂ _ hstep ih =>
    obtain ⟨e, he⟩ := hstep
    have hl₁ : (p.setLane i l₁).lanes[i]? = some l₁ := List.getElem?_set_self hi
    have hstep : (p.setLane i l₁).step? (.lane i e) = some (p.setLane i l₂) := by
      have hset : (p.setLane i l₁).setLane i l₂ = p.setLane i l₂ := by
        simp only [setLane, List.set_set]
      have hmoment : l₁.step? (p.setLane i l₁).moment e = some l₂ := he
      simp only [step?, laneStep?, hl₁, Option.bind_some, hmoment, Option.map_some, hset]
    exact ih.step hstep

/-- What the bookkeeper can make of the ledger can happen in the pipeline. -/
theorem reaches_ledger {ledger : Ledger} (h : p.ledger.Settles ledger) :
    p.Reaches { p with ledger } := by
  induction h with
  | refl => exact .refl
  | @tail l₁ l₂ _ hstep ih =>
    obtain ⟨e, he, hstep⟩ := hstep
    have hledger : ({ p with ledger := l₁ } : Pipeline).step? (.ledger e) =
        some { p with ledger := l₂ } := by
      simp only [step?, ledgerStep?, he, if_true, hstep, Option.map_some]
    exact ih.step hledger

/-- What a program does that has not stopped is the event that it prefers. -/
theorem exists_of_act? (h : p.act? = some q) :
    p.isStopped = false ∧ ∃ e, p.nextEvent? = some e ∧ p.step? e = some q := by
  unfold act? at h
  split at h
  · cases h
  · rename_i hgoes
    exact ⟨Bool.eq_false_iff.2 hgoes, Option.bind_eq_some_iff.1 h⟩

/-- What the program prefers to do can happen. -/
theorem reaches_of_act? (h : p.act? = some q) : p.Reaches q := by
  obtain ⟨-, e, -, he⟩ := exists_of_act? h
  exact reaches_of_step? he

/-- Settling is a run. -/
theorem reaches_settleFor (steps : Nat) (p : Pipeline) : p.Reaches (settleFor steps p) :=
  settleFor_keeps (P := p.Reaches) (fun _ _ hact h => h.trans (reaches_of_act? hact)) steps .refl

/-- The clock may move forward at any time. -/
theorem reaches_wait {t : Instant} (ht : p.now ≤ t) : p.Reaches (p.wait t) := by
  have hpass : p.step? (.pass t) = some (p.wait t) := if_pos ht
  exact reaches_of_step? hpass

theorem reaches_runTo (t : Instant) (p : Pipeline) : p.Reaches (runTo t p) :=
  runTo_keeps (P := p.Reaches) (fun _ _ hact h => h.trans (reaches_of_act? hact))
    (fun _ _ ht h => h.trans (reaches_wait ht)) t .refl

/-- What comes of a pipeline that is left alone is one of the things that may become of it. -/
theorem reaches_runOut (p : Pipeline) : p.Reaches (runOut p) :=
  runOut_keeps (P := p.Reaches) (fun _ _ hact h => h.trans (reaches_of_act? hact))
    (fun _ _ ht h => h.trans (reaches_wait ht)) .refl

theorem reaches_follow (p : Pipeline) (d : Directive) : p.Reaches (p.follow d).1 := by
  cases d with
  | submit r =>
    rw [follow]
    cases haccept : p.accept? r with
    | none => exact .refl
    | some q =>
      have hstep : p.step? (.accept r) = some q := haccept
      exact (reaches_of_step? hstep).trans (reaches_settleFor _ q)
  | look => exact .refl
  | cancel =>
    have hstep : p.step? .cancel = some p.cancel := rfl
    exact (reaches_of_step? hstep).trans (reaches_settleFor _ _)

/-- What comes of a plan of directives is one of the things that may become of the pipeline. -/
theorem reaches_play (p : Pipeline) (plan : Plan Directive) : p.Reaches (p.play plan).1 := by
  induction plan generalizing p with
  | nil => exact .refl
  | cons item rest ih =>
    obtain ⟨t, d⟩ := item
    exact ((reaches_runTo t p).trans (reaches_follow _ d)).trans (ih _)

/-- What comes of a pipeline that is cancelled and left alone may become of it. -/
theorem reaches_conclude (p : Pipeline) : p.Reaches p.conclude :=
  (reaches_of_step? (show p.step? .cancel = some p.cancel from rfl)).trans (reaches_runOut _)

end Pipeline

/-! ### A small relay -/

namespace Sample

/-- Both channels with queues for one item each. -/
def pipeline (transport : Sender → EventRecord → Transport Unit) : Pipeline :=
  .start 1 (Span.ofSeconds 2) ((registerAll senders).map fun s =>
    Lane.start s (transport s) (fun _ => "12:00") 1 0)

theorem fresh_pipeline (transport : Sender → EventRecord → Transport Unit) :
    (pipeline transport).Fresh :=
  Pipeline.fresh_start (by decide) _ _ _ _ _

end Sample

end AlertRelay
