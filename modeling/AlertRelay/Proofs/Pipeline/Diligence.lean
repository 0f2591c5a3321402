import AlertRelay.Proofs.Lane.Silence
import AlertRelay.Proofs.Pipeline.Workload

/-!
# Diligent runs

The dispatcher and the bookkeeper of a program are diligent: as long as there is something for them
to do the clock stands still, and the dispatcher looks for the end before it looks for results and
records (`Pipeline.IsDiligent`). Nothing is asked of the lanes, so that
`Pipeline.Proceeds` covers workers that are slow or stuck and deliveries that hang.

The runs on the clock are among the diligent ones (`Pipeline.Proceeds.play`,
`Pipeline.Proceeds.runFor`). For this the clock must not run out of steps before it has come to what
is due next. Whenever the clock moves, something that is due can happen then, or a delivery that
would have cancelled the program is too late for it; so the moves are counted by the work that is
left and by the deliveries that are running (`Pipeline.moves`).
-/

namespace AlertRelay

/-- Whether an event is something that the dispatcher or the bookkeeper does. -/
def PipelineEvent.isClerical : PipelineEvent → Bool
  | .take => true
  | .fan => true
  | .tally _ => true
  | .halt => true
  | .collect => true
  | .advance => true
  | .abandon => true
  | .close => true
  | .finish => true
  | .ledger .apply => true
  | .ledger (.enter _) => true
  | .ledger .finish => true
  | _ => false

/-- The dispatcher and the bookkeeper need nobody from outside. -/
theorem PipelineEvent.isInternal_of_isClerical {e : PipelineEvent} (h : e.isClerical = true) :
    e.isInternal = true := by
  cases e with
  | accept | cancel | pass => cases h
  | ledger event => cases event <;> first | rfl | cases h
  | _ => rfl

namespace Pipeline

/-- There is something to do for the dispatcher or the bookkeeper. -/
def Busy (p : Pipeline) : Prop :=
  ∃ e : PipelineEvent, e.isClerical = true ∧ (p.step? e).isSome = true

/-- The clock does not move while the dispatcher or the bookkeeper has something to do, and the
dispatcher of a cancelled program takes neither results nor records before it has noticed that. All
other parts may do what they like. -/
def IsDiligent (p : Pipeline) : PipelineEvent → Prop
  | .pass t => ∀ u, p.now ≤ u → u < t → ¬(p.wait u).Busy
  | .take => p.moment.isCancelled = false
  | .tally _ => p.moment.isCancelled = false
  | _ => True

/-- What can become of a pipeline whose dispatcher is diligent. -/
def Proceeds : Pipeline → Pipeline → Prop :=
  Relation.ReflTransGen fun p q => ∃ e, p.IsDiligent e ∧ p.step? e = some q

variable {p₀ p q : Pipeline} {e : PipelineEvent} {t : Instant}

theorem Proceeds.reaches (h : p.Proceeds q) : p.Reaches q := by
  induction h with
  | refl => exact .refl
  | tail _ hstep ih =>
    obtain ⟨e, -, he⟩ := hstep
    exact Reaches.step ih he

theorem Proceeds.step (h : p₀.Proceeds p) (he : p.step? e = some q) (hdiligent : p.IsDiligent e) :
    p₀.Proceeds q :=
  Relation.ReflTransGen.tail h ⟨e, hdiligent, he⟩

theorem Move.now_eq (h : p.Move e q) (he : e.isInternal = true) : q.now = p.now := by
  cases h with
  | accept | cancel | pass => cases he
  | _ => rfl

/-- The clock stands still while there is something to do. -/
theorem IsDiligent.eq_now (h : p.IsDiligent (.pass t)) (hle : p.now ≤ t) (hbusy : p.Busy) :
    t = p.now := by
  by_contra hne
  have hlt : p.now < t := Nat.lt_of_le_of_ne hle (Ne.symm hne)
  exact h p.now (Nat.le_refl _) hlt hbusy

/-! ### What the program prefers -/

/-- The dispatcher of a cancelled program prefers to notice that. -/
theorem isDiligent_of_nextEvent? (h : p.nextEvent? = some e) : p.IsDiligent e := by
  -- Taking a record or a result comes behind the end, and the dispatcher listens then.
  have hlistening : p.phase = .listening → (∀ i j, e ≠ .trip i j) → (∀ i event, e ≠ .lane i event) →
      e ≠ .halt → p.moment.isCancelled = false := by
    intro hphase htrip hlane hhalt
    by_contra hun
    have hcancelled : p.moment.isCancelled = true := eq_true_of_ne_false hun
    have hfirst : p.dispatcherPreference.find? (fun e => (p.step? e).isSome) = some .halt := by
      simp [dispatcherPreference, List.find?, step?, fan?, halt?, hphase, hcancelled]
    unfold nextEvent? at h
    rw [List.find?_append, hfirst] at h
    cases hlanes : p.lanePreference.find? fun e => (p.step? e).isSome with
    | none =>
      rw [hlanes] at h
      exact hhalt (Option.some.inj h).symm
    | some event =>
      rw [hlanes] at h
      obtain rfl : event = e := Option.some.inj h
      rcases eq_of_mem_lanePreference (List.mem_of_find?_eq_some hlanes) with
        ⟨i, j, rfl⟩ | ⟨i, event, rfl⟩
      · exact htrip i j rfl
      · exact hlane i event rfl
  have hsome : (p.step? e).isSome = true := List.find?_some (p := fun e => (p.step? e).isSome) h
  have hinternal := isInternal_of_nextEvent? h
  obtain ⟨q, he⟩ := Option.isSome_iff_exists.1 hsome
  cases move_of_step? he with
  | pass => cases hinternal
  | take hphase | tally hphase =>
    exact hlistening hphase (by simp) (by simp) (by simp)
  | _ => trivial

theorem Proceeds.of_act? (h : p₀.Proceeds p) (hact : p.act? = some q) : p₀.Proceeds q := by
  obtain ⟨-, e, he, hstep⟩ := exists_of_act? hact
  exact h.step hstep (isDiligent_of_nextEvent? he)

theorem Proceeds.settle (h : p₀.Proceeds p) : p₀.Proceeds (Clockwork.settle p) :=
  Clockwork.settle_keeps (P := p₀.Proceeds) (fun _ _ hact h => h.of_act? hact) h

/-- When everything is counted there is nothing more to do, at any time. -/
theorem Staged.not_busy_of_isStopped (hs : p.Staged) (hstopped : p.isStopped = true) :
    ¬(p.wait t).Busy := by
  rintro ⟨e, hclerical, hsome⟩
  obtain ⟨q, he⟩ := Option.isSome_iff_exists.1 hsome
  have hphase : (p.wait t).phase = .stopped := by
    unfold isStopped at hstopped
    split at hstopped
    · assumption
    · cases hstopped
  cases move_of_step? he with
  | accept | cancel | pass | lane | trip => cases hclerical
  | @ledger event ledger hown h =>
    obtain ⟨c, hfinal⟩ := hs.final hphase
    obtain ⟨-, -, hqueue, hoverflow⟩ := hs.coherent.final_eq c hfinal
    have hledger : p.ledger.step? event = some ledger := h
    cases event with
    | record | summarise | close => cases hclerical
    | enter i => simp [Ledger.step?, Ledger.enter?, hoverflow] at hledger
    | apply => simp [Ledger.step?, Ledger.take?, hqueue] at hledger
    | finish => simp [Ledger.step?, Ledger.finish?, hfinal] at hledger
  | take h | hand h | count h | tally h | halt h | collect h | advance h | abandon h | close h
  | finish h =>
    rw [hphase] at h
    cases h

/-- The clock may move as far as nothing is due. -/
theorem AtRest.isDiligent_pass (hrest : p.AtRest) (hp : p.moment.Timely)
    (hdue : ∀ u ∈ p.due, p.now < u → t ≤ u) (hstopped : p.isStopped = false) :
    p.IsDiligent (.pass t) := by
  rintro u hnow hu ⟨e, hclerical, hsome⟩
  obtain ⟨q, he⟩ := Option.isSome_iff_exists.1 hsome
  -- What does not depend on the time could have happened now.
  have hnone : ∀ {e}, e.isClerical = true → (p.step? e).isSome = true → False := by
    intro e hclerical hsome
    rw [hrest e (PipelineEvent.isInternal_of_isClerical hclerical)] at hsome
    cases hsome
  cases move_of_step? he with
  | accept | cancel | pass | lane | trip => cases hclerical
  | @ledger event ledger hown h =>
    have hledger : p.ledger.step? event = some ledger := h
    exact hnone (e := .ledger event) hclerical (by simp [step?, ledgerStep?, hown, hledger])
  | take hphase hin =>
    have hphase' : p.phase = .listening := hphase
    have hin' : p.inbound = _ := hin
    exact hnone (e := .take) rfl (by simp [step?, take?, hphase', hin'])
  | hand hphase hl | count hphase hl =>
    have hphase' : p.phase = _ := hphase
    have hl' : p.lanes[_]? = _ := hl
    exact hnone (e := .fan) rfl (by simp [step?, fan?, hphase', hl'])
  | @tally i l r rest hphase hl hr =>
    have hphase' : p.phase = .listening := hphase
    have hl' : p.lanes[i]? = some l := hl
    exact hnone (e := .tally i) rfl
      (by simp [step?, tally?, takeResult?, Lane.takeResult?, hphase', hl', hr])
  | halt hphase hcancelled =>
    have hphase' : p.phase = .listening := hphase
    obtain ⟨v, hv⟩ := Option.isSome_iff_exists.1 (cancelledAt_isSome hcancelled)
    have hcancelled' : p.moment.isCancelled = true := hp.isCancelled hv
    exact hnone (e := .halt) rfl (by simp [step?, halt?, hphase', hcancelled'])
  | @collect i since l r rest hphase hl hr =>
    have hphase' : p.phase = .closing i since := hphase
    have hl' : p.lanes[i]? = some l := hl
    exact hnone (e := .collect) rfl
      (by simp [step?, collect?, takeResult?, Lane.takeResult?, hphase', hl', hr])
  | @advance i since l hphase hl hfinished =>
    have hphase' : p.phase = .closing i since := hphase
    have hl' : p.lanes[i]? = some l := hl
    exact hnone (e := .advance) rfl (by simp [step?, advance?, hphase', hl', hfinished])
  | @abandon i since l hphase hl hlate =>
    -- The end of this wait is due.
    have hphase' : p.phase = .closing i since := hphase
    have hl' : p.lanes[i]? = some l := hl
    have hend : p.patienceEnd since ≤ u := hlate
    by_cases hover : p.patienceEnd since ≤ p.now
    · exact hnone (e := .abandon) rfl (by simp [step?, abandon?, hphase', hl', hover])
    · have hmem : p.patienceEnd since ∈ p.due := by
        simp [due, hstopped, hphase']
      have hlater := hdue _ hmem (Nat.lt_of_not_le hover)
      exact Nat.lt_irrefl _ (Nat.lt_of_lt_of_le hu (Nat.le_trans hlater hend))
  | @close i since hphase hlanes =>
    have hphase' : p.phase = .closing i since := hphase
    have hlanes' : p.lanes.length ≤ i := hlanes
    exact hnone (e := .close) rfl (by simp [step?, close?, hphase', hlanes'])
  | finish hphase hfinal =>
    have hphase' : p.phase = .settling := hphase
    have hfinal' : p.ledger.final.isSome = true := hfinal
    exact hnone (e := .finish) rfl (by simp [step?, finish?, hphase', hfinal'])

end Pipeline

/-! ### Moves of the clock -/

namespace Lane

/-- How many deliveries may still want to cancel the program at a later time. -/
def tripsAhead (l : Lane) (m : Moment) : Nat :=
  match m.cancelledAt with
  | none => l.running.length
  | some _ => l.running.countP fun d => (l.trace m d).cancelsAt.any fun u => m.now < u

variable {l l' : Lane} {m : Moment}

theorem tripsAhead_le (l : Lane) (m : Moment) : l.tripsAhead m ≤ l.running.length := by
  unfold tripsAhead
  split
  · exact Nat.le_refl _
  · exact List.countP_le_length

theorem tripsAhead_of_uncancelled (hun : m.cancelledAt = none) :
    l.tripsAhead m = l.running.length := by
  rw [tripsAhead, hun]

theorem tripsAhead_congr (hkit : l'.kit = l.kit) (hrunning : l'.running = l.running) :
    l'.tripsAhead m = l.tripsAhead m := by
  simp only [tripsAhead, hrunning, trace_of_kit hkit]

/-- Whatever happens in a lane by itself leaves less to do and to wait for. -/
theorem Move.work_tripsAhead_lt {e : LaneEvent} (h : l.Move m e l') :
    l'.work + l'.tripsAhead m < l.work + l.tripsAhead m := by
  have hwork := h.work_lt
  have hkit := h.kit_eq
  have hsame := h.sameDeliveries
  cases h with
  | crash | lapse => exact Nat.add_lt_add_right hwork _
  | @launch r rest schedule deadline hphase hin =>
    -- The new delivery may want to cancel the program, but it has less to do than its record had.
    have hless : ({ l with
        inbound := rest
        schedule := schedule
        scheduled := l.scheduled ++
          [⟨l.scheduled.length, r, m.now, schedule.last, deadline, false⟩]
        running := l.running ++
          [⟨l.scheduled.length, r, m.now, schedule.last, deadline, false⟩] } : Lane).tripsAhead m ≤
          l.tripsAhead m + 1 := by
      simp only [tripsAhead, trace_of_kit hkit]
      split
      · exact Nat.le_of_eq List.length_append
      · rw [List.countP_append]
        exact Nat.add_le_add_left List.countP_le_length _
    simp only [work, hin, List.length_append, List.length_cons, List.length_nil] at hwork hless ⊢
    omega
  | @complete i d t result hd =>
    have hless : ({ l with
        running := l.running.eraseIdx i
        reporting := l.reporting ++ [result]
        calls := l.calls ++ l.callsOf m d
        concluded := l.concluded ++ [⟨m.now, d, result⟩] } : Lane).tripsAhead m ≤
          l.tripsAhead m := by
      simp only [tripsAhead, trace_of_kit hkit]
      split
      · exact List.length_eraseIdx_le _ _
      · exact (List.eraseIdx_sublist _ _).countP_le
    omega
  | _ =>
    have hsame := hsame (by simp) (by simp)
    rw [tripsAhead_congr hsame.kit hsame.running]
    exact Nat.add_lt_add_right hwork _

/-- Fewer times lie ahead later on. -/
theorem countP_ahead_le (l : Lane) (cancelledAt : Option Instant) {now t : Instant} (ht : now ≤ t)
    (ds : List Delivery) :
    (ds.countP fun d => (l.trace ⟨t, cancelledAt⟩ d).cancelsAt.any fun u => t < u) ≤
      ds.countP fun d => (l.trace ⟨now, cancelledAt⟩ d).cancelsAt.any fun u => now < u := by
  refine List.countP_mono_left fun d _ hd => ?_
  rw [l.cancelsAt_trace t now] at hd
  obtain ⟨u, hu, hlt⟩ := (Option.any_eq_true _ _).1 hd
  refine (Option.any_eq_true _ _).2 ⟨u, hu, ?_⟩
  exact decide_eq_true (Nat.lt_of_le_of_lt ht (of_decide_eq_true hlt))

theorem tripsAhead_pass {t : Instant} (ht : m.now ≤ t) :
    l.tripsAhead { m with now := t } ≤ l.tripsAhead m := by
  obtain ⟨now, cancelledAt⟩ := m
  cases cancelledAt with
  | none => exact Nat.le_refl _
  | some v => exact l.countP_ahead_le (some v) ht l.running

/-- A time that was ahead lies behind when the clock has come to it. -/
theorem tripsAhead_pass_lt {t v : Instant} {d : Delivery} (hcancelled : m.cancelledAt = some v)
    (hd : d ∈ l.running) (hcancels : (l.trace m d).cancelsAt = some t) (hnow : m.now < t) :
    l.tripsAhead { m with now := t } < l.tripsAhead m := by
  obtain ⟨now, cancelledAt⟩ := m
  obtain rfl : cancelledAt = some v := hcancelled
  have hbefore : ((l.trace ⟨now, some v⟩ d).cancelsAt.any fun u => now < u) = true := by
    rw [hcancels]
    exact decide_eq_true hnow
  have hafter : ((l.trace ⟨t, some v⟩ d).cancelsAt.any fun u => t < u) = false := by
    rw [l.cancelsAt_trace t now, hcancels]
    exact decide_eq_false (Nat.lt_irrefl t)
  obtain ⟨before, after, hrunning⟩ := List.append_of_mem hd
  have hle : now ≤ t := Nat.le_of_lt hnow
  have hfirst := l.countP_ahead_le (some v) hle before
  have hlast := l.countP_ahead_le (some v) hle after
  simp only [tripsAhead, hrunning, List.countP_append, List.countP_cons, hbefore, hafter]
  simp only [Bool.false_eq_true, if_false, if_true]
  omega

end Lane

namespace Pipeline

/-- How often the clock may have to move, and what there is to do in between. -/
def moves (p : Pipeline) : Nat :=
  p.work + sumLanes (fun l => l.tripsAhead p.moment) p.lanes

variable {p₀ p q : Pipeline} {e : PipelineEvent} {t : Instant}

/-- What happens inside brings the end nearer, whenever the clock may move. -/
theorem Move.moves_lt (h : p.Move e q) (he : e.isInternal = true) (hp : p.moment.Timely) :
    q.moves < p.moves := by
  have hwork := h.work_lt he hp
  cases h with
  | accept | cancel | pass => cases he
  | @lane i l l' event hl h =>
    have hlane := (Lane.move_of_step? h).work_tripsAhead_lt
    have hset := work_setLane l' hl
    have hahead := sumLanes_set (fun l => l.tripsAhead p.moment) l' hl
    simp only [moves, setLane] at hset hahead ⊢
    omega
  | @trip i j l d hl hd hmust =>
    -- Nothing was cancelled before, so that all deliveries counted.
    have hun : p.moment.cancelledAt = none := by
      obtain ⟨huncancelled, -⟩ := Bool.and_eq_true_iff.1 hmust
      exact hp.cancelledAt_eq_none (by simpa using huncancelled)
    refine Nat.add_lt_add_of_lt_of_le hwork ?_
    calc sumLanes (fun l => l.tripsAhead p.moment.cancel) (p.lanes.set i
          { l with running := l.running.modify j fun d => { d with tripped := true } })
        ≤ sumLanes (fun l => l.running.length) (p.lanes.set i
          { l with running := l.running.modify j fun d => { d with tripped := true } }) :=
          sumLanes_le fun l _ => l.tripsAhead_le _
      _ = sumLanes (fun l => l.running.length) p.lanes := sumLanes_set_eq hl (List.length_modify _ _ _)
      _ = sumLanes (fun l => l.tripsAhead p.moment) p.lanes := by
          simp only [Lane.tripsAhead_of_uncancelled hun]
  | hand hphase hl | tally hphase hl | collect hphase hl | abandon hphase hl =>
    refine Nat.add_lt_add_of_lt_of_le hwork (Nat.le_of_eq ?_)
    exact sumLanes_set_eq hl (Lane.tripsAhead_congr rfl rfl)
  | _ => exact Nat.add_lt_add_right hwork _

theorem moves_le_effort (p : Pipeline) : p.moves ≤ p.effort :=
  Nat.le_trans (Nat.add_le_add_left (sumLanes_le fun l _ => l.tripsAhead_le _) _)
    p.work_add_running_le

/-- When the clock moves there is not more to do. -/
theorem moves_wait_le (ht : p.now ≤ t) : (p.wait t).moves ≤ p.moves :=
  Nat.add_le_add_left (sumLanes_le fun _ _ => Lane.tripsAhead_pass ht) _

theorem moves_lt_of_act? (h : p.act? = some q) (hp : p.moment.Timely) : q.moves < p.moves := by
  obtain ⟨-, e, he, hstep⟩ := exists_of_act? h
  exact (move_of_step? hstep).moves_lt (isInternal_of_nextEvent? he) hp

theorem Reaches.moves_settleFor_le (h : p₀.Reaches p) (hp : p₀.Fresh) (steps : Nat) :
    (Clockwork.settleFor steps p).moves ≤ p.moves := by
  refine (Clockwork.settleFor_keeps (P := fun q => p₀.Reaches q ∧ q.moves ≤ p.moves) ?_ steps
    ⟨h, Nat.le_refl _⟩).2
  rintro q q' hact ⟨hq, hle⟩
  have hless := moves_lt_of_act? hact (hq.timely hp)
  exact ⟨hq.trans (reaches_of_act? hact), Nat.le_trans (Nat.le_of_lt hless) hle⟩

/-- If nothing happens when something is due, a delivery is too late to cancel the program. -/
theorem moves_wait_lt (hact : (p.wait t).act? = none) (hstopped : p.isStopped = false)
    (ht : t ∈ p.due) (hnow : p.now < t) : (p.wait t).moves < p.moves := by
  have hrest : (p.wait t).AtRest := atRest_of_act? hact hstopped
  have hle : ∀ l ∈ p.lanes, l.tripsAhead (p.wait t).moment ≤ l.tripsAhead p.moment := fun l _ =>
    Lane.tripsAhead_pass (Nat.le_of_lt hnow)
  unfold due at ht
  rw [hstopped] at ht
  rcases List.mem_append.1 ht with hpatience | htimer
  · -- The dispatcher has waited long enough for a lane.
    exfalso
    split at hpatience
    · rename_i i since hphase
      obtain rfl := List.mem_singleton.1 hpatience
      by_cases hi : i < p.lanes.length
      · have habandon := hrest .abandon rfl
        simp [step?, abandon?, wait, hphase, hi, patienceEnd, now] at habandon
      · have hclose := hrest .close rfl
        simp [step?, close?, wait, hphase, Nat.le_of_not_lt hi] at hclose
    · cases hpatience
  · obtain ⟨l, hl, htimer⟩ := List.mem_flatMap.1 htimer
    obtain ⟨d, hd, htimer⟩ := List.mem_flatMap.1 htimer
    have hmust := hrest.mustTrip (l := l) hl hd
    rcases List.mem_append.1 htimer with hreturns | hcancels
    · -- A delivery that returns would do so.
      exfalso
      have hreturns' : (l.trace (p.wait t).moment d).returnsAt? = some t :=
        (l.returnsAt?_trace _ p.now _ d).trans (Option.mem_toList.1 hreturns)
      exact Nat.lt_irrefl t (Lane.lt_of_rest (hrest.lane l hl) hd hmust hreturns')
    · have hcancels : (l.trace p.moment d).cancelsAt = some t := Option.mem_toList.1 hcancels
      have hcancels' : (l.trace (p.wait t).moment d).cancelsAt = some t :=
        (l.cancelsAt_trace _ p.now _ d).trans hcancels
      have htrips : l.trips (p.wait t).moment d = true := by
        rw [Lane.trips, hcancels']
        exact decide_eq_true (Nat.le_refl t)
      -- The program is cancelled already, and the time at which the delivery would do so passes.
      obtain ⟨v, hv⟩ : ∃ v, p.moment.cancelledAt = some v := by
        refine Option.isSome_iff_exists.1 (cancelledAt_isSome (m := (p.wait t).moment) ?_)
        simpa [Lane.mustTrip, htrips] using hmust
      exact Nat.add_lt_add_left (sumLanes_lt hle hl (Lane.tripsAhead_pass_lt hv hd hcancels hnow)) _

/-- Whenever the clock moves to what is due next, the end comes nearer. -/
theorem Reaches.moves_settle_wait_lt (h : p₀.Reaches p) (hp : p₀.Fresh)
    (hstopped : p.isStopped = false) (hnext : Clockwork.nextDue? p = some t) :
    (Clockwork.settle (p.wait t)).moves < p.moves := by
  have hnow : p.now < t := Clockwork.lt_of_nextDue? hnext
  have hdue : t ∈ p.due := Clockwork.mem_due_of_nextDue? hnext
  have hwait : p₀.Reaches (p.wait t) := h.trans (reaches_wait (Nat.le_of_lt hnow))
  have hafter : ∀ {q}, (p.wait t).act? = some q → p₀.Reaches q := fun hact =>
    hwait.trans (reaches_of_act? hact)
  cases hact : (p.wait t).act? with
  | none =>
    have hsettled : Clockwork.settle (p.wait t) = p.wait t := Clockwork.settleFor_of_act? hact _
    rw [hsettled]
    exact moves_wait_lt hact hstopped hdue hnow
  | some q =>
    have hless : q.moves < (p.wait t).moves := moves_lt_of_act? hact (hwait.timely hp)
    -- There are steps left for what happens.
    obtain ⟨steps, hsteps⟩ : ∃ steps, (p.wait t).effort = steps + 1 :=
      Nat.exists_eq_succ_of_ne_zero (Nat.ne_of_gt
        (Nat.lt_of_lt_of_le (Nat.zero_lt_of_lt hless) (p.wait t).moves_le_effort))
    have hsettle : Clockwork.settle (p.wait t) = Clockwork.settleFor steps q := by
      have heffort : Clockwork.effort (p.wait t) = steps + 1 := hsteps
      have hact' : Clockwork.act? (p.wait t) = some q := hact
      rw [Clockwork.settle, heffort, Clockwork.settleFor, hact']
    rw [hsettle]
    calc (Clockwork.settleFor steps q).moves
        ≤ q.moves := Reaches.moves_settleFor_le (hafter hact) hp steps
      _ < (p.wait t).moves := hless
      _ ≤ p.moves := moves_wait_le (Nat.le_of_lt hnow)

/-! ### Runs on the clock -/

namespace Proceeds

open Clockwork

/-- When a pipeline does nothing, the clock may move as far as nothing is due. -/
theorem wait (h : p₀.Proceeds p) (hp : p₀.Fresh) (hact : p.act? = none)
    (hdue : ∀ u ∈ p.due, p.now < u → t ≤ u) (ht : p.now ≤ t) : p₀.Proceeds (p.wait t) := by
  have hpass : p.step? (.pass t) = some (p.wait t) := if_pos ht
  refine h.step hpass ?_
  cases hstopped : p.isStopped with
  | false => exact (atRest_of_act? hact hstopped).isDiligent_pass (h.reaches.timely hp) hdue hstopped
  | true => exact fun u _ _ hbusy => (h.reaches.staged hp).not_busy_of_isStopped hstopped hbusy

/-- A run on the clock is a diligent one, and it goes on until nothing is left to do before its
limit. What is kept until the pipeline stops is kept by the run. -/
theorem runFor {Q : Pipeline → Prop} (h : p₀.Proceeds p) (hp : p₀.Fresh) (limit : Option Instant)
    {steps : Nat} (hsteps : p.effort < steps)
    (hact : ∀ {q q' : Pipeline}, p₀.Proceeds q → q.act? = some q' → Q q → Q q')
    (hwait : ∀ {q : Pipeline} {t : Instant}, p₀.Proceeds q → q.act? = none → nextDue? q = some t →
      q.isStopped = false → Q q → Q (q.wait t)) (hq : Q p) :
    (p₀.Proceeds (Clockwork.runFor limit steps p) ∧ Q (Clockwork.runFor limit steps p)) ∧
      (Clockwork.runFor limit steps p).act? = none ∧
      ∀ t, nextDue? (Clockwork.runFor limit steps p) = some t → ∃ u, limit = some u ∧ u ≤ t := by
  refine runFor_rests (P := fun q => p₀.Proceeds q ∧ Q q) (f := moves)
    (fun _ _ hact' h => ⟨h.1.of_act? hact', hact h.1 hact' h.2⟩)
    (fun _ h => h.1.reaches.act?_settle hp) (fun q t hnone hnext h => ?_) limit ⟨h, hq⟩ ?_
  · have hnow : q.now < t := lt_of_nextDue? hnext
    have hstopped : q.isStopped = false := by
      -- One that has stopped waits for nothing.
      by_contra hstopped
      have hdue : t ∈ q.due := mem_due_of_nextDue? hnext
      rw [due, if_pos (eq_true_of_ne_false hstopped)] at hdue
      cases hdue
    have hlater : p₀.Proceeds (q.wait t) :=
      h.1.wait hp hnone (fun u hu hlt => le_of_nextDue? hnext hu hlt) (Nat.le_of_lt hnow)
    exact ⟨⟨hlater, hwait h.1 hnone hnext hstopped h.2⟩,
      h.1.reaches.moves_settle_wait_lt hp hstopped hnext⟩
  · calc (Clockwork.settle p).moves
        ≤ p.moves := h.reaches.moves_settleFor_le hp _
      _ ≤ p.effort := p.moves_le_effort
      _ < steps := hsteps

theorem runTo (h : p₀.Proceeds p) (hp : p₀.Fresh) (t : Instant) :
    p₀.Proceeds (Clockwork.runTo t p) := by
  obtain ⟨⟨hrun, -⟩, hact, hlimit⟩ := h.runFor (Q := fun _ => True) hp (some t)
    (Nat.lt_succ_self _) (fun _ _ h => h) (fun _ _ _ _ h => h) trivial
  exact hrun.wait hp hact (fun _ hu hlt => max_le_of_mem_due hlimit hu hlt) (Nat.le_max_left _ _)

theorem follow (h : p₀.Proceeds p) (d : Directive) : p₀.Proceeds (p.follow d).1 := by
  cases d with
  | submit r =>
    rw [Pipeline.follow]
    cases haccept : p.accept? r with
    | none => exact h
    | some q =>
      have hstep : p.step? (.accept r) = some q := haccept
      exact (h.step hstep trivial).settle
  | look => exact h
  | cancel =>
    have hstep : p.step? .cancel = some p.cancel := rfl
    exact (h.step hstep trivial).settle

/-- What comes of a plan comes of a diligent run. -/
theorem play (h : p₀.Proceeds p) (hp : p₀.Fresh) (plan : Plan Directive) :
    p₀.Proceeds (p.play plan).1 := by
  induction plan generalizing p with
  | nil => exact h
  | cons item rest ih =>
    obtain ⟨t, d⟩ := item
    exact ih ((h.runTo hp t).follow d)

end Proceeds

end Pipeline

end AlertRelay
