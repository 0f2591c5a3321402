import AlertRelay.Proofs.Lane.Silence
import AlertRelay.Proofs.Pipeline.Diligence
import AlertRelay.Proofs.Time.Span
import AlertRelay.Queue.Monitor

/-!
# The end in time

A pipeline that is cancelled comes to its end in time: for each lane the dispatcher waits no longer
than the shutdown timeout, and it waits for nothing else (`Pipeline.ends_in_time`). The lanes may do
what they like meanwhile. Their workers may be slow or stuck, their deliveries may hang, their
queues may be full, and all of this may happen in any order; it is only assumed that the dispatcher
and the bookkeeper are diligent (`Pipeline.IsDiligent`): as long as there is something for them to
do the clock stands still, and the dispatcher looks for the end before it looks for results and
records.

The proof follows the phases of the dispatcher. `Pipeline.OnTime` says how far the clock may have
come in each of them; what keeps the clock from moving further is that the dispatcher is busy then
(`Pipeline.Staged.busy`). That it does come to the end is shown by counting down
(`Pipeline.Advances.rank_lt`): whatever happens leaves less work, less room for records, or less
time until the last wait is over. In particular a run on the clock that is concluded really comes to
its end (`Pipeline.conclude_stops`).
-/

namespace AlertRelay

/-- What is due before the end is due before the end. -/
theorem lt_of_mem_dueTimes {start t finish : Instant} {interval : Span}
    (h : t ∈ dueTimes start interval finish) : t < finish := by
  unfold dueTimes at h
  split at h
  · cases h
  · rename_i first _
    dsimp only at h
    split at h
    · rename_i hfirst
      obtain ⟨k, hk, rfl⟩ := List.mem_map.1 h
      have hk : k ≤ (finish - first - 1) / interval.pause.toNanos :=
        Nat.le_of_lt_succ (List.mem_range.1 hk)
      have hless : k * interval.pause.toNanos ≤ finish - first - 1 :=
        Nat.le_trans (Nat.mul_le_mul_right _ hk) (Nat.div_mul_le_self _ _)
      unfold Instant at *
      omega
    · cases h

/-- A monitor writes nothing after it is told to stop. -/
theorem Monitor.time_le_of_mem_run {α : Type} {interval : Span} {queues : List (NamedQueue α)}
    {changes : Plan (Monitor.Change α)} {t : Instant} {entry : Monitor.Entry}
    (h : entry ∈ Monitor.run interval queues changes t) : entry.time ≤ t := by
  unfold Monitor.run at h
  split at h
  · rw [List.mem_singleton.1 h]
    exact Nat.zero_le _
  · dsimp only at h
    split at h
    · cases h
    · rcases List.mem_append.1 h with hreport | hlast
      · obtain ⟨u, hu, hentry⟩ := List.mem_flatMap.1 hreport
        obtain ⟨text, -, rfl⟩ := List.mem_map.1 hentry
        exact Nat.le_of_lt (lt_of_mem_dueTimes hu)
      · exact Nat.le_of_eq (congrArg Monitor.Entry.time (List.mem_singleton.1 hlast))

namespace Pipeline

/-- What can become next of a pipeline whose dispatcher is diligent, if it changes at all. -/
def Advances (p q : Pipeline) : Prop :=
  (∃ e, p.IsDiligent e ∧ p.step? e = some q) ∧ q ≠ p

/-- However a pipeline goes on, it goes on until `P` holds after finitely many changes. -/
inductive Inevitably (P : Pipeline → Prop) : Pipeline → Prop
  | now {p : Pipeline} (h : P p) : Inevitably P p
  | later {p : Pipeline} (hgoes : ∃ q, p.Advances q)
      (hall : ∀ q, p.Advances q → Inevitably P q) : Inevitably P p

/-- What comes of a stronger property comes of a weaker one. -/
theorem Inevitably.mono {P Q : Pipeline → Prop} {p : Pipeline} (h : p.Inevitably P)
    (hPQ : ∀ q, P q → Q q) : p.Inevitably Q := by
  induction h with
  | now h => exact .now (hPQ _ h)
  | later hgoes _ ih => exact .later hgoes ih

/-- How long the dispatcher waits for a lane. -/
def patience (p : Pipeline) : Nat :=
  p.shutdownTimeout.pause.toNanos

/-- How far the clock may have come in a pipeline that was cancelled at `t`. -/
def OnTime (p : Pipeline) (t : Instant) : Prop :=
  match p.phase with
  | .listening => p.now ≤ t
  | .fanning _ _ => p.now ≤ t
  | .closing i since =>
    i ≤ p.lanes.length ∧ since ≤ t + i * p.patience ∧
      p.now ≤ since + if i < p.lanes.length then p.patience else 0
  | .settling => p.now ≤ t + p.lanes.length * p.patience
  | .stopped => True

variable {p₀ p q : Pipeline} {e : PipelineEvent} {t : Instant}

/-! ### What there is to do -/

theorem Advances.proceeds (h : p.Advances q) (hp : p₀.Proceeds p) : p₀.Proceeds q := by
  obtain ⟨⟨e, hdiligent, he⟩, -⟩ := h
  exact hp.step he hdiligent

/-- There is something to do for the bookkeeper, or the counters are there. -/
theorem busy_of_settling (hs : p.Staged) (hcap : 0 < p.ledger.capacity)
    (hphase : p.phase = .settling) : p.Busy := by
  by_contra hidle
  have hstep : ∀ e : LedgerEvent, e.isOwn = true → (PipelineEvent.ledger e).isClerical = true →
      p.ledger.step? e = none := by
    intro e hown hclerical
    by_contra hsome
    obtain ⟨ledger, hledger⟩ := Option.ne_none_iff_exists'.1 hsome
    refine hidle ⟨.ledger e, hclerical, ?_⟩
    simp [step?, ledgerStep?, hown, hledger]
  obtain ⟨hqueue, hoverflow⟩ :=
    hs.coherent.eq_nil_of_rest hcap (hstep .apply rfl rfl) (hstep (.enter 0) rfl rfl)
  have hclosed : p.ledger.isOpen = false := by rw [hs.recorders, hphase]; rfl
  cases hfinal : p.ledger.final with
  | none =>
    have hfinish := hstep .finish rfl rfl
    simp [Ledger.step?, Ledger.finish?, hfinal, hclosed, hqueue, hoverflow] at hfinish
  | some c => exact hidle ⟨.finish, rfl, by simp [step?, finish?, hphase, hfinal]⟩

/-- The dispatcher of a cancelled program has something to do, unless it waits for a lane or has
stopped. -/
theorem Staged.busy (hs : p.Staged) (hcap : 0 < p.ledger.capacity)
    (hcancelled : p.moment.isCancelled = true) (hstopped : p.isStopped = false)
    (hlate : ∀ i since, p.phase = .closing i since → i < p.lanes.length →
      since + p.patience ≤ p.now) : p.Busy := by
  cases hphase : p.phase with
  | listening => exact ⟨.halt, rfl, by simp [step?, halt?, hphase, hcancelled]⟩
  | fanning r i =>
    refine ⟨.fan, rfl, ?_⟩
    simp only [step?, fan?, hphase]
    split <;> rfl
  | closing i since =>
    by_cases hi : i < p.lanes.length
    · have hend : p.patienceEnd since ≤ p.now := hlate i since hphase hi
      exact ⟨.abandon, rfl, by simp [step?, abandon?, hphase, hi, hend]⟩
    · exact ⟨.close, rfl, by simp [step?, close?, hphase, Nat.le_of_not_lt hi]⟩
  | settling => exact busy_of_settling hs hcap hphase
  | stopped =>
    rw [isStopped, hphase] at hstopped
    cases hstopped

/-! ### The timetable -/

theorem Move.patience_eq (h : p.Move e q) : q.patience = p.patience := by
  cases h <;> rfl

theorem Move.length_lanes (h : p.Move e q) : q.lanes.length = p.lanes.length := by
  have hkits := congrArg List.length h.kits_eq
  rwa [List.length_map, List.length_map] at hkits

/-- A cancellation stays as it was, or it comes now. -/
theorem Move.cancelledAt_eq (h : p.Move e q) :
    q.moment.cancelledAt = p.moment.cancelledAt ∨
      (p.moment.cancelledAt = none ∧ q.moment.cancelledAt = some q.now ∧ q.phase = p.phase) := by
  have hcancel : p.cancel.moment.cancelledAt = p.moment.cancelledAt ∨
      (p.moment.cancelledAt = none ∧ p.cancel.moment.cancelledAt = some p.now) := by
    cases hc : p.moment.cancelledAt with
    | none => exact .inr ⟨rfl, by rw [Pipeline.cancel, hc]; rfl⟩
    | some t => exact .inl (by rw [Pipeline.cancel, hc]; rfl)
  cases h with
  | cancel | trip =>
    rcases hcancel with hsame | ⟨hnone, hnow⟩
    · exact .inl hsame
    · exact .inr ⟨hnone, hnow, rfl⟩
  | _ => exact .inl rfl

/-- A wait that begins in time and is not too long ends in time. -/
theorem le_of_wait {i since patience now : Nat} (hsince : since ≤ t + i * patience)
    (hnow : now ≤ since + patience) : now ≤ t + (i + 1) * patience := by
  calc now ≤ since + patience := hnow
    _ ≤ t + i * patience + patience := Nat.add_le_add_right hsince _
    _ = t + (i + 1) * patience := by rw [Nat.add_mul, Nat.one_mul, Nat.add_assoc]

/-- The clock of a pipeline that is not on its way out stands at the cancellation. -/
theorem onTime_of_isOpen (hopen : p.isOpen = true) (hle : p.now ≤ t) : p.OnTime t := by
  unfold OnTime
  cases hphase : p.phase with
  | listening | fanning => exact hle
  | closing | settling | stopped =>
    rw [isOpen, hphase] at hopen
    cases hopen

/-- What leaves the dispatcher and the clock alone makes no difference. -/
theorem OnTime.congr (hp : p.OnTime t) (hphase : q.phase = p.phase) (hnow : q.now = p.now)
    (hlength : q.lanes.length = p.lanes.length) (hpatience : q.patience = p.patience) :
    q.OnTime t := by
  unfold OnTime at hp ⊢
  rwa [hphase, hnow, hlength, hpatience]

/-- The clock of a diligent pipeline does not move too far. -/
theorem OnTime.pass {u : Instant} (hp : p.OnTime t) (hs : p.Staged) (hcap : 0 < p.ledger.capacity)
    (hcancelled : p.moment.isCancelled = true) (hdiligent : p.IsDiligent (.pass u))
    (hu : p.now ≤ u) : (p.wait u).OnTime t := by
  by_cases hwaits : ∃ i since, p.phase = .closing i since ∧ i < p.lanes.length
  · -- The dispatcher waits for a lane until its patience ends.
    obtain ⟨i, since, hphase, hi⟩ := hwaits
    unfold OnTime at hp ⊢
    simp only [hphase, if_pos hi] at hp
    obtain ⟨hlength, hsince, hnow⟩ := hp
    have hend : u ≤ since + p.patience := by
      by_contra hlate
      refine hdiligent (since + p.patience) hnow (Nat.lt_of_not_le hlate) ⟨.abandon, rfl, ?_⟩
      simp [step?, abandon?, wait, hphase, hi, patienceEnd, patience, now]
    simp only [wait, hphase, if_pos hi]
    exact ⟨hlength, hsince, hend⟩
  · by_cases hstopped : p.isStopped = true
    · unfold isStopped at hstopped
      split at hstopped
      · rename_i hphase
        unfold OnTime
        simp only [wait, hphase]
      · cases hstopped
    · -- In all other phases the clock stands still.
      have hbusy : p.Busy := by
        refine hs.busy hcap hcancelled (Bool.eq_false_iff.2 hstopped) ?_
        intro i since hphase hi
        exact absurd ⟨i, since, hphase, hi⟩ hwaits
      obtain rfl := hdiligent.eq_now hu hbusy
      exact hp

/-- What a diligent dispatcher does keeps it on time. -/
theorem OnTime.move (h : p.Move e q) (hdiligent : p.IsDiligent e) (hp : p.OnTime t)
    (hs : p.Staged) (hcap : 0 < p.ledger.capacity) (hcancelled : p.moment.isCancelled = true) :
    q.OnTime t := by
  have hlength := h.length_lanes
  have hpatience := h.patience_eq
  cases h with
  | pass hu => exact hp.pass hs hcap hcancelled hdiligent hu
  | take hphase | hand hphase | count hphase =>
    unfold OnTime at hp
    simp only [hphase] at hp
    exact onTime_of_isOpen rfl hp
  | halt hphase =>
    unfold OnTime at hp ⊢
    simp only [hphase] at hp
    exact ⟨Nat.zero_le _, Nat.le_trans hp (Nat.le_add_right _ _), Nat.le_add_right _ _⟩
  | @advance i since l hphase hl | @abandon i since l hphase hl =>
    have hi : i < p.lanes.length := (List.getElem?_eq_some_iff.1 hl).1
    unfold OnTime at hp ⊢
    simp only [hphase, if_pos hi] at hp
    obtain ⟨-, hsince, hnow⟩ := hp
    refine ⟨?_, ?_, Nat.le_add_right _ _⟩
    · rw [hlength]
      exact hi
    · rw [hpatience]
      exact le_of_wait hsince hnow
  | @close i since hphase hlanes =>
    unfold OnTime at hp ⊢
    simp only [hphase, if_neg (Nat.not_lt_of_le hlanes)] at hp
    obtain ⟨hi, hsince, hnow⟩ := hp
    obtain rfl : i = p.lanes.length := Nat.le_antisymm hi hlanes
    exact Nat.le_trans hnow hsince
  | finish => trivial
  | _ => exact hp.congr rfl rfl hlength hpatience

/-- A diligent dispatcher is on time. -/
theorem Proceeds.onTime (h : p₀.Proceeds p) (hp : p₀.Fresh) (ht : p.moment.cancelledAt = some t) :
    p.OnTime t := by
  induction h generalizing t with
  | refl =>
    rw [hp.eq_start] at ht
    cases ht
  | @tail p q h hstep ih =>
    obtain ⟨e, hdiligent, he⟩ := hstep
    have hreach : p₀.Reaches p := Proceeds.reaches h
    have hs := hreach.staged hp
    have hmove := move_of_step? he
    rcases hmove.cancelledAt_eq with hsame | ⟨hnone, hnow, hphase⟩
    · rw [hsame] at ht
      have hcancelled := (hreach.timely hp).isCancelled ht
      exact (ih ht).move hmove hdiligent hs (hp.ledger_capacity hreach) hcancelled
    · -- The program is cancelled now, so that records were still taken.
      obtain rfl : q.now = t := Option.some.inj (hnow.symm.trans ht)
      refine onTime_of_isOpen ?_ (Nat.le_refl _)
      rw [isOpen, hphase]
      exact hs.isOpen_eq hnone

/-- Until it stops, the clock of a diligent dispatcher has not passed the end of all waits. -/
theorem OnTime.now_le (hp : p.OnTime t) (hstopped : p.isStopped = false) :
    p.now ≤ t + p.lanes.length * p.patience := by
  unfold OnTime at hp
  unfold isStopped at hstopped
  cases hphase : p.phase with
  | listening | fanning =>
    simp only [hphase] at hp
    exact Nat.le_trans hp (Nat.le_add_right _ _)
  | closing i since =>
    simp only [hphase] at hp
    obtain ⟨hi, hsince, hnow⟩ := hp
    by_cases hlt : i < p.lanes.length
    · rw [if_pos hlt] at hnow
      calc p.now ≤ t + (i + 1) * p.patience := le_of_wait hsince hnow
        _ ≤ t + p.lanes.length * p.patience :=
          Nat.add_le_add_left (Nat.mul_le_mul_right _ hlt) _
    · rw [if_neg hlt] at hnow
      calc p.now ≤ since := hnow
        _ ≤ t + i * p.patience := hsince
        _ ≤ t + p.lanes.length * p.patience := Nat.add_le_add_left (Nat.mul_le_mul_right _ hi) _
  | settling =>
    simp only [hphase] at hp
    exact hp
  | stopped =>
    rw [hphase] at hstopped
    cases hstopped

theorem Proceeds.length_lanes (h : p₀.Proceeds p) : p.lanes.length = p₀.lanes.length :=
  h.reaches.keeps (P := fun q => q.lanes.length = p₀.lanes.length) rfl
    fun _ ih hmove => hmove.length_lanes.trans ih

theorem Proceeds.patience_eq (h : p₀.Proceeds p) : p.patience = p₀.patience :=
  h.reaches.keeps (P := fun q => q.patience = p₀.patience) rfl
    fun _ ih hmove => hmove.patience_eq.trans ih

/-- Until it stops, a diligent dispatcher is not later than after one wait for each lane. -/
theorem Proceeds.now_le (h : p₀.Proceeds p) (hp : p₀.Fresh) (ht : p.moment.cancelledAt = some t)
    (hstopped : p.isStopped = false) : p.now ≤ t + p₀.lanes.length * p₀.patience := by
  have hnow := (h.onTime hp ht).now_le hstopped
  rwa [h.length_lanes, h.patience_eq] at hnow

/-! ### Counting down -/

/-- How much work the records can make that may still come in. -/
def room (p : Pipeline) : Nat :=
  if p.isOpen then (p.capacity - p.inbound.length) * (13 * p.lanes.length + 5) else 0

/-- How many changes there can be at most until the clock passes `limit`. -/
def rank (limit : Instant) (p : Pipeline) : Nat :=
  (limit - p.now) + p.work + p.room

theorem room_of_isOpen (hopen : p.isOpen = true) :
    p.room = (p.capacity - p.inbound.length) * (13 * p.lanes.length + 5) :=
  if_pos hopen

/-- A pipeline that takes no more records has no room for any. -/
theorem room_of_closed (hclosed : p.isOpen = false) : p.room = 0 := by
  rw [room, hclosed]
  rfl

theorem room_congr (hopen : q.isOpen = p.isOpen) (hcapacity : q.capacity = p.capacity)
    (hinbound : q.inbound = p.inbound) (hlength : q.lanes.length = p.lanes.length) :
    q.room = p.room := by
  rw [room, room, hopen, hcapacity, hinbound, hlength]

/-- A record that comes in takes its room. -/
theorem rank_accept_lt {limit : Instant} {r : EventRecord} (hopen : p.isOpen = true)
    (hroom : p.inbound.length < p.capacity) :
    rank limit { p with inbound := p.inbound ++ [r], accepted := p.accepted ++ [(p.now, r)] } <
      p.rank limit := by
  obtain ⟨free, hfree⟩ : ∃ free, p.capacity = p.inbound.length + 1 + free :=
    Nat.exists_eq_add_of_le hroom
  have hbefore : p.capacity - p.inbound.length = free + 1 := by omega
  have hafter : p.capacity - (p.inbound ++ [r]).length = free := by
    rw [List.length_append, List.length_singleton]
    omega
  unfold rank
  rw [room_of_isOpen hopen, room_of_isOpen (by exact hopen), hbefore, hafter]
  simp only [work, now, List.length_append, List.length_singleton, Nat.add_mul, Nat.one_mul]
  omega

/-- Unless the dispatcher takes a record, no room is made by what happens inside. -/
theorem Move.room_le (h : p.Move e q) (he : e.isInternal = true) (htake : e ≠ .take) :
    q.room ≤ p.room := by
  have hlength := h.length_lanes
  cases h with
  | accept | cancel | pass => cases he
  | take => exact absurd rfl htake
  | hand hphase | count hphase =>
    have hopen : p.isOpen = true := by rw [Pipeline.isOpen, hphase]
    exact Nat.le_of_eq (room_congr hopen.symm rfl rfl hlength)
  | halt | advance | abandon | close | finish =>
    rw [room_of_closed rfl]
    exact Nat.zero_le _
  | _ => exact Nat.le_of_eq (room_congr rfl rfl rfl hlength)

/-- What happens inside brings the end nearer. -/
theorem Move.rank_lt {limit : Instant} (h : p.Move e q) (he : e.isInternal = true)
    (htake : e ≠ .take) (hp : p.moment.Timely) : q.rank limit < p.rank limit := by
  have hwork := h.work_lt he hp
  have hroom := h.room_le he htake
  unfold rank
  rw [h.now_eq he]
  omega

theorem cancel_eq (ht : p.moment.cancelledAt = some t) : p.cancel = p := by
  have hmoment : p.moment.cancel = p.moment := by
    rw [Moment.cancel, ht]
    exact congrArg (fun c => { p.moment with cancelledAt := c }) ht.symm
  exact congrArg (fun m => { p with moment := m }) hmoment

/-- Whatever becomes of a cancelled pipeline brings the end nearer. -/
theorem Advances.rank_lt {limit : Instant} (h : p.Advances q) (hp : p.moment.Timely)
    (ht : p.moment.cancelledAt = some t) (hlimit : q.now ≤ limit) :
    q.rank limit < p.rank limit := by
  obtain ⟨⟨e, hdiligent, he⟩, hne⟩ := h
  have hmove := move_of_step? he
  have hcancelled : p.moment.isCancelled = true := hp.isCancelled ht
  by_cases hinternal : e.isInternal = true
  · refine hmove.rank_lt hinternal ?_ hp
    rintro rfl
    rw [show p.moment.isCancelled = false from hdiligent] at hcancelled
    cases hcancelled
  · cases hmove with
    | accept hopen hroom => exact rank_accept_lt hopen hroom
    | cancel => exact absurd (cancel_eq ht) hne
    | @pass u hu =>
      have hlater : p.now < u := by
        refine Nat.lt_of_le_of_ne hu ?_
        rintro rfl
        exact hne rfl
      have hlimit' : u ≤ limit := hlimit
      have hless : limit - u < limit - p.now := by
        unfold Instant at *
        omega
      exact Nat.add_lt_add_right (Nat.add_lt_add_right hless _) _
    | @ledger event ledger hown h =>
      cases event with
      | summarise =>
        rw [Ledger.eq_of_summarise h] at hne
        exact absurd rfl hne
      | _ => exact absurd rfl hinternal
    | _ => exact absurd rfl hinternal

/-- A diligent pipeline does not get stuck before it stops. -/
theorem Proceeds.exists_advances (h : p₀.Proceeds p) (hp : p₀.Fresh)
    (ht : p.moment.cancelledAt = some t) (hstopped : p.isStopped = false) :
    ∃ q, p.Advances q := by
  have hreach := h.reaches
  have htimely := hreach.timely hp
  have hcancelled := htimely.isCancelled ht
  -- What happens inside changes something.
  have hchanges : ∀ {e q}, p.step? e = some q → e.isInternal = true → p.IsDiligent e →
      ∃ q, p.Advances q := by
    intro e q he hinternal hdiligent
    refine ⟨q, ⟨e, hdiligent, he⟩, ?_⟩
    rintro rfl
    exact Nat.lt_irrefl _ ((move_of_step? he).work_lt hinternal htimely)
  by_cases hlistening : p.phase = .listening
  · have hhalt : p.step? .halt = some { p with phase := .closing 0 p.now, inbound := [] } := by
      simp [step?, halt?, hlistening, hcancelled]
    exact hchanges hhalt rfl trivial
  · by_cases hbusy : p.Busy
    · obtain ⟨e, hclerical, hsome⟩ := hbusy
      obtain ⟨q, he⟩ := Option.isSome_iff_exists.1 hsome
      have hinternal := PipelineEvent.isInternal_of_isClerical hclerical
      cases move_of_step? he with
      | pass => cases hclerical
      | take hphase | tally hphase => exact absurd hphase hlistening
      | _ => exact hchanges he hinternal trivial
    · -- There is nothing to do but to wait.
      have hdiligent : p.IsDiligent (.pass (p.now + 1)) := by
        intro u hle hlt
        obtain rfl : u = p.now := Nat.le_antisymm (Nat.le_of_lt_succ hlt) hle
        exact hbusy
      have hpass : p.step? (.pass (p.now + 1)) = some (p.wait (p.now + 1)) :=
        if_pos (Nat.le_succ _)
      refine ⟨p.wait (p.now + 1), ⟨_, hdiligent, hpass⟩, fun hsame => ?_⟩
      have hnow : p.now + 1 = p.now := congrArg Pipeline.now hsame
      exact absurd hnow (Nat.succ_ne_self _)

theorem Move.cancelledAt_some (h : p.Move e q) (ht : p.moment.cancelledAt = some t) :
    q.moment.cancelledAt = some t := by
  rcases h.cancelledAt_eq with hsame | ⟨hnone, -⟩
  · exact hsame.trans ht
  · rw [ht] at hnone
    cases hnone

/-- The clock stands still when the dispatcher stops. -/
theorem Move.now_eq_of_stopped (h : p.Move e q) (hp : p.isStopped = false)
    (hq : q.isStopped = true) : q.now = p.now := by
  cases h with
  | pass =>
    rw [show p.isStopped = true from hq] at hp
    cases hp
  | _ => rfl

/-- A diligent dispatcher stops before the clock passes the end of all waits. -/
theorem Proceeds.inevitably_stopped (h : p₀.Proceeds p) (hp : p₀.Fresh)
    (ht : p.moment.cancelledAt = some t) (hstopped : p.isStopped = false) :
    p.Inevitably fun q => q.isStopped = true ∧ q.now ≤ t + p₀.lanes.length * p₀.patience := by
  have hlimit : ∀ {q}, p₀.Proceeds q → q.moment.cancelledAt = some t → q.isStopped = false →
      q.now ≤ t + p₀.lanes.length * p₀.patience := by
    intro q hq ht hstopped
    exact hq.now_le hp ht hstopped
  -- Induction on how many changes there can be.
  generalize hrank : p.rank (t + p₀.lanes.length * p₀.patience) = k
  induction k using Nat.strong_induction_on generalizing p with
  | _ k ih =>
    refine .later (h.exists_advances hp ht hstopped) fun q hadvances => ?_
    have hq : p₀.Proceeds q := hadvances.proceeds h
    obtain ⟨e, -, he⟩ := hadvances.1
    have hmove := move_of_step? he
    have htq : q.moment.cancelledAt = some t := hmove.cancelledAt_some ht
    cases hqstopped : q.isStopped with
    | true =>
      refine .now ⟨hqstopped, ?_⟩
      rw [hmove.now_eq_of_stopped hstopped hqstopped]
      exact hlimit h ht hstopped
    | false =>
      have hless := hadvances.rank_lt (h.reaches.timely hp) ht (hlimit hq htq hqstopped)
      exact ih _ (hrank ▸ hless) hq htq hqstopped rfl

/-! ### The end -/

/-- Calls are made in no lane after the cancellation, diligent or not. -/
theorem Reaches.silent (h : p₀.Reaches p) (hp : p₀.Fresh) {l : Lane} (hl : l ∈ p.lanes) :
    l.Silent p.moment := by
  refine (h.keeps_turns (P := fun m l => m.Timely ∧ l.Silent m) ?_ ?_ l hl).2
  · intro l hl
    obtain ⟨-, start, hstart⟩ := hp.lanes_start l hl
    rw [hstart]
    exact ⟨Reaches.timely .refl hp, Lane.Kit.silent_start _ _ _⟩
  · rintro m m' l l' hturn ⟨hm, hl⟩
    exact ⟨hturn.timely hm, hl.turn hturn hm⟩

/-- The dispatcher waits for a lane no longer than it is told to. -/
theorem patience_le (p : Pipeline) : p.patience ≤ p.shutdownTimeout.toNanos :=
  p.shutdownTimeout.toNanos_pause_le

/-- However a pipeline that is cancelled at `t` goes on, its dispatcher stops, and no later than
after one shutdown timeout for each lane. No wait for a lane is longer than that, whatever the lane
does, no call of a transport is made after the cancellation, and the monitor of the queues is not
waited for, since it stops with the cancellation. -/
theorem ends_in_time (hp : p₀.Fresh) (h : p₀.Proceeds p) (ht : p.moment.cancelledAt = some t) :
    (p.isStopped = false → p.Inevitably fun q =>
      q.isStopped = true ∧ q.now ≤ t + p₀.lanes.length * p₀.shutdownTimeout.toNanos) ∧
    (∀ i since, p.phase = .closing i since →
      since ≤ t + i * p₀.shutdownTimeout.toNanos ∧
        p.now ≤ since + p₀.shutdownTimeout.toNanos) ∧
    (∀ l ∈ p.lanes, ∀ c ∈ l.allCalls p.moment, c.time ≤ t) ∧
    ∀ (interval : Span) (queues : List (NamedQueue EventRecord))
      (changes : Plan (Monitor.Change EventRecord)),
      ∀ entry ∈ Monitor.run interval queues changes t, entry.time ≤ t := by
  have hpatience : p.patience ≤ p₀.shutdownTimeout.toNanos := by
    rw [h.patience_eq]
    exact p₀.patience_le
  refine ⟨fun hstopped => ?_, fun i since hphase => ?_, fun l hl c hc => ?_, ?_⟩
  · refine (h.inevitably_stopped hp ht hstopped).mono fun q ⟨hq, hnow⟩ => ⟨hq, ?_⟩
    exact Nat.le_trans hnow
      (Nat.add_le_add_left (Nat.mul_le_mul_left _ p₀.patience_le) _)
  · have htime := h.onTime hp ht
    unfold OnTime at htime
    simp only [hphase] at htime
    obtain ⟨-, hsince, hnow⟩ := htime
    constructor
    · exact Nat.le_trans hsince (Nat.add_le_add_left (Nat.mul_le_mul_left _ hpatience) _)
    · refine Nat.le_trans hnow (Nat.add_le_add_left ?_ _)
      split
      · exact hpatience
      · exact Nat.zero_le _
  · exact ((h.reaches.silent hp hl).allCalls c hc).2 t ht
  · intro interval queues changes entry hentry
    exact Monitor.time_le_of_mem_run hentry

/-- Two channels with queues for one item each are cancelled while their deliveries hang. -/
theorem sample_ends_in_time :
    let p₀ := Sample.pipeline fun _ _ => Sample.silent
    let p := (p₀.play [(0, .submit Sample.record), (0, .submit Sample.record),
      (5, .submit Sample.record)]).1.cancel
    p.moment.cancelledAt = some 5 ∧ p.isStopped = false ∧
      (p.Inevitably fun q => q.isStopped = true ∧ q.now ≤ 5 + 2 * 2000000000) := by
  intro p₀ p
  have hp : p₀.Fresh := Sample.fresh_pipeline _
  have hplay : p₀.Proceeds (p₀.play [(0, .submit Sample.record), (0, .submit Sample.record),
      (5, .submit Sample.record)]).1 := Proceeds.play .refl hp _
  have h : p₀.Proceeds p := hplay.step (e := .cancel) rfl trivial
  have ht : p.moment.cancelledAt = some 5 := by decide +kernel
  have hstopped : p.isStopped = false := by decide +kernel
  exact ⟨ht, hstopped, (ends_in_time hp h ht).1 hstopped⟩

/-! ### On the clock -/

/-- When a cancelled pipeline has nothing more to do or to wait for, it has stopped. -/
theorem Proceeds.isStopped_of_rest (h : p₀.Proceeds p) (hp : p₀.Fresh)
    (ht : p.moment.cancelledAt = some t) (hact : p.act? = none)
    (hdue : Clockwork.nextDue? p = none) : p.isStopped = true := by
  by_contra hgoes
  have hstopped : p.isStopped = false := Bool.eq_false_iff.2 hgoes
  have hreach := h.reaches
  have hbusy : p.Busy := by
    refine (hreach.staged hp).busy (hp.ledger_capacity hreach)
      ((hreach.timely hp).isCancelled ht) hstopped fun i since hphase _ => ?_
    -- The end of a wait for a lane would be due.
    have hmem : p.patienceEnd since ∈ p.due := by simp [due, hstopped, hphase]
    exact Nat.le_of_not_lt (Clockwork.not_lt_of_nextDue? hdue hmem)
  obtain ⟨e, hclerical, hsome⟩ := hbusy
  rw [atRest_of_act? hact hstopped e (PipelineEvent.isInternal_of_isClerical hclerical)] at hsome
  cases hsome

/-- A cancelled pipeline that is left alone stops in time. -/
theorem Proceeds.runOut_stops (h : p₀.Proceeds p) (hp : p₀.Fresh)
    (ht : p.moment.cancelledAt = some t) (hstopped : p.isStopped = false) :
    (Clockwork.runOut p).isStopped = true ∧ (Clockwork.runOut p).moment.cancelledAt = some t ∧
      (Clockwork.runOut p).now ≤ t + p₀.lanes.length * p₀.patience := by
  -- As long as the pipeline has not stopped, its clock is not late.
  obtain ⟨⟨hrun, hcancelled, hnow⟩, hact, hdue⟩ := h.runFor (Q := fun q =>
      q.moment.cancelledAt = some t ∧
        (q.isStopped = true → q.now ≤ t + p₀.lanes.length * p₀.patience)) hp none
    (Nat.lt_succ_self _)
    (fun {q q'} hq hact ⟨htq, _⟩ => by
      obtain ⟨hbefore, e, -, he⟩ := exists_of_act? hact
      have hmove := move_of_step? he
      refine ⟨hmove.cancelledAt_some htq, fun hafter => ?_⟩
      rw [hmove.now_eq_of_stopped hbefore hafter]
      exact hq.now_le hp htq hbefore)
    (fun {q u} _ _ _ hgoes ⟨htq, _⟩ => ⟨htq, fun hafter => by
      rw [show q.isStopped = true from hafter] at hgoes
      cases hgoes⟩)
    ⟨ht, fun hafter => by
      rw [hstopped] at hafter
      cases hafter⟩
  have hnever : Clockwork.nextDue? (Clockwork.runOut p) = none := by
    by_contra hsome
    obtain ⟨u, hu⟩ := Option.ne_none_iff_exists'.1 hsome
    obtain ⟨v, hv, -⟩ := hdue u hu
    cases hv
  have hend := hrun.isStopped_of_rest hp hcancelled hact hnever
  exact ⟨hend, hcancelled, hnow hend⟩

/-- A pipeline that follows a plan and is then cancelled and left alone stops in time. -/
theorem conclude_stops (hp : p₀.Fresh) (plan : Plan Directive)
    (hstopped : (p₀.play plan).1.isStopped = false) :
    (p₀.play plan).1.conclude.isStopped = true ∧
      ∃ t, (p₀.play plan).1.conclude.moment.cancelledAt = some t ∧
        (p₀.play plan).1.conclude.now ≤ t + p₀.lanes.length * p₀.patience := by
  have h : p₀.Proceeds (p₀.play plan).1.cancel :=
    (Proceeds.play .refl hp plan).step (e := .cancel) rfl trivial
  obtain ⟨t, ht⟩ : ∃ t, (p₀.play plan).1.cancel.moment.cancelledAt = some t := ⟨_, rfl⟩
  obtain ⟨hend, hcancelled, hnow⟩ := h.runOut_stops hp ht hstopped
  exact ⟨hend, t, hcancelled, hnow⟩

end Pipeline

end AlertRelay
