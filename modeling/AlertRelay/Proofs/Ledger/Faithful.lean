import AlertRelay.Proofs.Ledger

/-!
# What the bookkeeper makes of increments

`Ledger.Logs` relates a ledger to all that was submitted to it through any number of recorders and
to all that its bookkeeper has taken since, in the order in which this happened. Increments wait
outside, enter and are taken at any time, and summaries are written in between.

The bookkeeper is faithful (`Ledger.Faithful`): nothing is lost on the way and nothing is taken that
was not submitted, each snapshot is the count of what was taken up to it, and what is returned at
the end is the count of what was submitted, in whatever order. When the last recorder is gone, only
finitely many changes are left, and then the counters are returned (`Ledger.inevitably_final`).
-/

namespace AlertRelay

namespace Counters

variable {c c' : Counters}

/-- Counters are the same if each of them counts the same. -/
theorem ext_count (h : ∀ u, c.count u = c'.count u) : c = c' := by
  have hchannel (ch : Channel) : c.channel ch = c'.channel ch := by
    have hsent := h (.sent ch)
    have hsucceeded := h (.succeeded ch)
    have hfailed := h (.failed ch)
    have hcancelled := h (.cancelled ch)
    simp only [count] at hsent hsucceeded hfailed hcancelled
    cases hc : c.channel ch
    cases hc' : c'.channel ch
    simp_all
  have hreceived : c.received = c'.received := h .received
  have hteams : c.teams = c'.teams := hchannel .teams
  have hemail : c.email = c'.email := hchannel .email
  cases c
  cases c'
  simp_all

/-- Each of some increments counts once. -/
theorem count_foldl_apply (c : Counters) (us : List Update) (v : Update) :
    (us.foldl apply c).count v = c.count v + us.count v := by
  induction us generalizing c with
  | nil => rfl
  | cons u us ih =>
    rw [List.foldl_cons, ih, count_apply, List.count_cons]
    simp only [beq_iff_eq]
    omega

@[simp] theorem count_ofUpdates (us : List Update) (v : Update) :
    (ofUpdates us).count v = us.count v := by
  rw [ofUpdates, count_foldl_apply, count_empty, Nat.zero_add]

/-- The order of increments makes no difference to the counters. -/
theorem ofUpdates_perm {us us' : List Update} (h : us.Perm us') : ofUpdates us = ofUpdates us' :=
  ext_count fun u => by rw [count_ofUpdates, count_ofUpdates, h.count_eq]

/-- The counters after each increment, and after one more. -/
theorem history_concat (c : Counters) (us : List Update) (u : Update) :
    c.history (us ++ [u]) = c.history us ++ [(us.foldl apply c).apply u] := by
  induction us generalizing c with
  | nil => rfl
  | cons v us ih =>
    rw [List.cons_append, history, ih]
    rfl

theorem length_history (c : Counters) (us : List Update) :
    (c.history us).length = us.length := by
  induction us generalizing c with
  | nil => rfl
  | cons u us ih => exact congrArg Nat.succ (ih _)

/-- The counters after some increments count these and no others. -/
theorem getElem?_history {us : List Update} {n : Nat}
    (h : (c.history us)[n]? = some c') (v : Update) :
    c'.count v = c.count v + (us.take (n + 1)).count v := by
  induction us generalizing c n with
  | nil => cases h
  | cons u us ih =>
    cases n with
    | zero =>
      cases h
      rw [count_apply, List.take_succ_cons, List.take_zero, List.count_singleton]
      simp only [beq_iff_eq]
    | succ n =>
      have hrest := ih (c := c.apply u) (n := n) h
      rw [hrest, count_apply, List.take_succ_cons, List.count_cons]
      simp only [beq_iff_eq]
      omega

/-- No counter ever falls. -/
theorem pairwise_history (c : Counters) (us : List Update) :
    (c.history us).Pairwise fun c c' => ∀ u, c.count u ≤ c'.count u := by
  induction us generalizing c with
  | nil => exact .nil
  | cons u us ih =>
    refine List.pairwise_cons.2 ⟨fun c' hc' v => ?_, ih _⟩
    obtain ⟨n, hn⟩ := List.mem_iff_getElem?.1 hc'
    rw [getElem?_history hn]
    exact Nat.le_add_right _ _

end Counters

namespace Ledger

variable {capacity recorders : Nat} {us ts : List Update} {l l' : Ledger} {e : LedgerEvent}

/-! ### Runs -/

/-- The increments that the bookkeeper takes in an event. -/
def takenBy (l : Ledger) : LedgerEvent → List Update
  | .apply => l.queue.head?.toList
  | _ => []

@[simp] theorem takenBy_enter (l : Ledger) (i : Nat) : l.takenBy (.enter i) = [] := rfl

@[simp] theorem takenBy_summarise (l : Ledger) : l.takenBy .summarise = [] := rfl

@[simp] theorem takenBy_finish (l : Ledger) : l.takenBy .finish = [] := rfl

/-- A ledger that still has so many recorders, after these increments were submitted and those were
taken. The first recorder is there from the start, the others are copies. -/
inductive Logs (capacity : Nat) : Nat → List Update → List Update → Ledger → Prop
  | start : Logs capacity 1 [] [] { capacity }
  | clone {recorders : Nat} {us ts : List Update} {l : Ledger}
      (h : Logs capacity (recorders + 1) us ts l) : Logs capacity (recorders + 2) us ts l
  | drop {recorders : Nat} {us ts : List Update} {l : Ledger}
      (h : Logs capacity (recorders + 2) us ts l) : Logs capacity (recorders + 1) us ts l
  /-- The last recorder is dropped. -/
  | close {us ts : List Update} {l l' : Ledger} (h : Logs capacity 1 us ts l)
      (hclose : l.step? .close = some l') : Logs capacity 0 us ts l'
  | record {recorders : Nat} {us ts : List Update} {u : Update} {l l' : Ledger}
      (h : Logs capacity (recorders + 1) us ts l) (hrecord : l.step? (.record u) = some l') :
      Logs capacity (recorders + 1) (us ++ [u]) ts l'
  /-- Something happens by itself: an increment enters or is taken, or a summary is written, or the
  counters are returned. -/
  | own {recorders : Nat} {us ts : List Update} {e : LedgerEvent} {l l' : Ledger}
      (h : Logs capacity recorders us ts l) (he : e.isOwn = true) (hstep : l.step? e = some l') :
      Logs capacity recorders us (ts ++ l.takenBy e) l'

/-- What may come next of a ledger by itself, if it changes at all. -/
def Advances (l l' : Ledger) : Prop :=
  (∃ e, e.isOwn = true ∧ l.step? e = some l') ∧ l' ≠ l

/-- However a ledger goes on by itself, `P` holds after finitely many changes. -/
inductive Inevitably (P : Ledger → Prop) : Ledger → Prop
  | now {l : Ledger} (h : P l) : Inevitably P l
  | later {l : Ledger} (hgoes : ∃ l', l.Advances l')
      (hall : ∀ l', l.Advances l' → Inevitably P l') : Inevitably P l

/-- What the bookkeeper has made of increments that were submitted, when it has taken some. -/
structure Faithful (recorders : Nat) (us ts : List Update) (l : Ledger) : Prop where
  /-- Every increment is still on its way or was taken, and none was taken that was not
  submitted. -/
  conserved : ∀ u, us.count u = ts.count u + l.queue.count u + l.overflow.count u
  /-- There is a snapshot for each increment that was taken, and it counts those up to it. -/
  length_published : l.published.length = ts.length
  snapshots : ∀ n c, l.published[n]? = some c → ∀ u, c.count u = (ts.take (n + 1)).count u
  growing : l.published.Pairwise fun c c' => ∀ u, c.count u ≤ c'.count u
  /-- What is returned counts all increments that were submitted, in any order, and was the last
  snapshot. -/
  returned : ∀ c, l.final = some c → recorders = 0 ∧ (∀ u, c.count u = us.count u) ∧
    (∀ us', us'.Perm us → c = Counters.ofUpdates us') ∧ l.snapshot = c
  /-- It is returned when no recorder is left. -/
  returns : recorders = 0 → l.Inevitably fun l' =>
    ∃ c, l'.final = some c ∧ ∀ u, c.count u = us.count u

/-! ### What a run keeps -/

/-- The bookkeeper publishes the counters after each increment that it takes. -/
structure Records (ts : List Update) (l : Ledger) : Prop where
  counters_eq : l.counters = Counters.ofUpdates ts
  published_eq : l.published = Counters.history {} ts

theorem Records.own (hl : l.Records ts) (he : e.isOwn = true) (h : l.step? e = some l') :
    l'.Records (ts ++ l.takenBy e) := by
  cases e with
  | record | close => cases he
  | enter i =>
    obtain ⟨u, -, -, rfl⟩ := eq_of_enter? h
    rw [takenBy_enter, List.append_nil]
    exact ⟨hl.counters_eq, hl.published_eq⟩
  | apply =>
    obtain ⟨u, rest, hq, -, rfl⟩ := eq_of_take? h
    have htaken : l.takenBy .apply = [u] := by
      rw [takenBy, hq]
      rfl
    have hcounters : l.counters.apply u = Counters.ofUpdates (ts ++ [u]) := by
      rw [hl.counters_eq, Counters.ofUpdates, Counters.ofUpdates, List.foldl_append]
      rfl
    rw [htaken]
    refine ⟨hcounters, ?_⟩
    change l.published ++ [l.counters.apply u] = _
    rw [Counters.history_concat, hl.published_eq, hl.counters_eq]
    rfl
  | summarise =>
    rw [eq_of_summarise h, takenBy_summarise, List.append_nil]
    exact hl
  | finish =>
    obtain ⟨-, -, -, -, rfl⟩ := eq_of_finish? h
    rw [takenBy_finish, List.append_nil]
    exact ⟨hl.counters_eq, hl.published_eq⟩

/-- What is known of a ledger in the course of a run. -/
structure Consistent (capacity recorders : Nat) (us ts : List Update) (l : Ledger) : Prop where
  capacity_eq : l.capacity = capacity
  isOpen_iff : l.isOpen = true ↔ recorders ≠ 0
  coherent : l.Coherent
  submitted_eq : ∀ u, l.submitted u = us.count u
  records : l.Records ts

theorem Logs.consistent (h : Logs capacity recorders us ts l) :
    l.Consistent capacity recorders us ts := by
  induction h with
  | start =>
    exact ⟨rfl, iff_of_true rfl Nat.one_ne_zero, .empty _, fun u => submitted_empty _ u, rfl, rfl⟩
  | clone h ih | drop h ih =>
    exact ⟨ih.capacity_eq, by simpa using ih.isOpen_iff, ih.coherent, ih.submitted_eq, ih.records⟩
  | close h hclose ih =>
    obtain ⟨hopen, rfl⟩ := eq_of_close hclose
    exact ⟨ih.capacity_eq, by simp, ih.coherent.close hopen, ih.submitted_eq, ih.records.1,
      ih.records.2⟩
  | @record recorders us ts u l l' h hrecord ih =>
    obtain ⟨hopen, rfl⟩ := eq_of_record hrecord
    refine ⟨?_, ?_, ih.coherent.record hopen u, fun v => ?_, ?_, ?_⟩
    · rw [capacity_record, ih.capacity_eq]
    · rw [isOpen_record]
      exact ih.isOpen_iff
    · rw [submitted_record, ih.submitted_eq, List.count_append, List.count_singleton]
      simp only [beq_iff_eq]
    · rw [counters_record, ih.records.counters_eq]
    · rw [published_record, ih.records.published_eq]
  | @own recorders us ts e l l' h he hstep ih =>
    obtain ⟨hcapacity, hopen⟩ := frame_step he hstep
    refine ⟨hcapacity.trans ih.capacity_eq, ?_, ih.coherent.step he hstep, fun v => ?_,
      ih.records.own he hstep⟩
    · rw [hopen]
      exact ih.isOpen_iff
    · rw [submitted_step he hstep, ih.submitted_eq]

/-! ### The end -/

/-- How many changes are left. An increment that waits outside has two before it. -/
def remaining (l : Ledger) : Nat :=
  l.queue.length + 2 * l.overflow.length + if l.final.isNone then 1 else 0

theorem Advances.remaining_lt (h : l.Advances l') : l'.remaining < l.remaining := by
  obtain ⟨⟨e, he, hstep⟩, hne⟩ := h
  cases e with
  | record | close => cases he
  | enter i =>
    obtain ⟨u, hu, -, rfl⟩ := eq_of_enter? hstep
    obtain ⟨hi, -⟩ := List.getElem?_eq_some_iff.1 hu
    simp only [remaining, List.length_append, List.length_singleton, List.length_eraseIdx,
      if_pos hi]
    omega
  | apply =>
    obtain ⟨u, rest, hq, -, rfl⟩ := eq_of_take? hstep
    simp only [remaining, hq, List.length_cons]
    omega
  | summarise => exact absurd (eq_of_summarise hstep) hne
  | finish =>
    obtain ⟨hfinal, -, -, -, rfl⟩ := eq_of_finish? hstep
    simp [remaining, hfinal]

/-- When no recorder is left there is something to do until the counters are returned. -/
theorem exists_advances (hcap : 0 < l.capacity) (hopen : l.isOpen = false)
    (hfinal : l.final = none) : ∃ l', l.Advances l' := by
  cases hq : l.queue with
  | cons u rest =>
    have hstep : l.step? .apply = some { l with
        queue := rest, counters := l.counters.apply u,
        published := l.published ++ [l.counters.apply u] } := by
      simp [step?, take?, hq, hfinal]
    refine ⟨_, ⟨.apply, rfl, hstep⟩, fun heq => ?_⟩
    have hrest : rest = l.queue := congrArg queue heq
    exact List.cons_ne_self u rest (hq.symm.trans hrest.symm)
  | nil =>
    cases ho : l.overflow with
    | cons u rest =>
      have hstep : l.step? (.enter 0) = some { l with queue := [u], overflow := rest } := by
        simp [step?, enter?, hq, ho, hcap]
      refine ⟨_, ⟨.enter 0, rfl, hstep⟩, fun heq => ?_⟩
      have hsingle : [u] = l.queue := congrArg queue heq
      exact List.cons_ne_nil u [] (hsingle.trans hq)
    | nil =>
      have hstep : l.step? .finish = some { l with final := some l.counters } := by
        simp [step?, finish?, hq, ho, hopen, hfinal]
      refine ⟨_, ⟨.finish, rfl, hstep⟩, fun heq => ?_⟩
      have hsome : some l.counters = l.final := congrArg final heq
      exact Option.some_ne_none _ (hsome.trans hfinal)

/-- When no recorder is left, the bookkeeper returns the counters of all that was submitted. -/
theorem inevitably_final (hcap : 0 < l.capacity) (hopen : l.isOpen = false) (hl : l.Coherent)
    (hus : ∀ u, l.submitted u = us.count u) :
    l.Inevitably fun l' => ∃ c, l'.final = some c ∧ ∀ u, c.count u = us.count u := by
  -- Fewer changes are left after each.
  induction hn : l.remaining using Nat.strongRecOn generalizing l with
  | ind n ih =>
    cases hfinal : l.final with
    | some c =>
      obtain ⟨rfl, -, hq, ho⟩ := hl.final_eq c hfinal
      exact .now ⟨_, hfinal, fun u => (Coherent.count_eq_submitted hq ho u).trans (hus u)⟩
    | none =>
      refine .later (exists_advances hcap hopen hfinal) fun l' hnext => ?_
      have hlt : l'.remaining < n := hn ▸ hnext.remaining_lt
      obtain ⟨⟨e, he, hstep⟩, -⟩ := hnext
      obtain ⟨hcapacity, hclosed⟩ := frame_step he hstep
      exact ih _ hlt (hcapacity ▸ hcap) (hclosed.trans hopen) (hl.step he hstep)
        (fun u => (submitted_step he hstep u).trans (hus u)) rfl

/-- Nothing that was submitted is lost on its way to the counters, and nothing else is counted. -/
theorem Logs.faithful (hcap : 0 < capacity) (h : Logs capacity recorders us ts l) :
    l.Faithful recorders us ts := by
  have hl := h.consistent
  obtain ⟨hcounters, hpublished⟩ := hl.records
  refine ⟨fun u => ?_, ?_, fun n c hc u => ?_, ?_, fun c hc => ?_, fun hnone => ?_⟩
  · rw [← hl.submitted_eq, submitted, hcounters, Counters.count_ofUpdates]
  · rw [hpublished, Counters.length_history]
  · rw [hpublished] at hc
    rw [Counters.getElem?_history hc, Counters.count_empty, Nat.zero_add]
  · rw [hpublished]
    exact Counters.pairwise_history _ _
  · obtain ⟨rfl, hclosed, hq, ho⟩ := hl.coherent.final_eq c hc
    have hcount (u : Update) : l.counters.count u = us.count u :=
      (Coherent.count_eq_submitted hq ho u).trans (hl.submitted_eq u)
    have hcounted : l.counters = Counters.ofUpdates us :=
      Counters.ext_count fun u => (hcount u).trans (Counters.count_ofUpdates us u).symm
    refine ⟨?_, hcount, fun us' hperm => ?_, hl.coherent.snapshot_eq⟩
    · by_contra hsome
      rw [hl.isOpen_iff.2 hsome] at hclosed
      cases hclosed
    · exact hcounted.trans (Counters.ofUpdates_perm hperm.symm)
  · have hopen : l.isOpen = false := by
      rw [← Bool.not_eq_true, hl.isOpen_iff]
      exact not_not_intro hnone
    exact inevitably_final (hl.capacity_eq.symm ▸ hcap) hopen hl.coherent hl.submitted_eq

/-- Of three increments the second finds no room, and the third takes the room that it waits for. -/
def overtaken : Ledger where
  capacity := 1
  counters := Counters.ofUpdates [.received, .sent .teams, .failed .teams]
  published := Counters.history {} [.received, .failed .teams, .sent .teams]
  isOpen := false
  final := some (Counters.ofUpdates [.received, .sent .teams, .failed .teams])

theorem logs_overtaken :
    Logs 1 0 [.received, .sent .teams, .failed .teams] [.received, .failed .teams, .sent .teams]
      overtaken := by
  have hstart : Logs 1 2 [] [] { capacity := 1 } := Logs.start.clone
  have hfirst := hstart.record (u := .received) rfl
  have hsecond := hfirst.record (u := .sent .teams) rfl
  have htaken := hsecond.own (e := .apply) rfl rfl
  have hthird := htaken.drop.record (u := .failed .teams) rfl
  have hclosed := hthird.close rfl
  have hovertook := hclosed.own (e := .apply) rfl rfl
  have hentered := hovertook.own (e := .enter 0) rfl rfl
  have hall := hentered.own (e := .apply) rfl rfl
  exact hall.own (e := .finish) rfl rfl

theorem overtaken_faithful :
    0 < 1 ∧
      Logs 1 0 [.received, .sent .teams, .failed .teams] [.received, .failed .teams, .sent .teams]
        overtaken ∧
      overtaken.Faithful 0 [.received, .sent .teams, .failed .teams]
        [.received, .failed .teams, .sent .teams] :=
  ⟨Nat.one_pos, logs_overtaken, Logs.faithful Nat.one_pos logs_overtaken⟩

end Ledger

end AlertRelay
