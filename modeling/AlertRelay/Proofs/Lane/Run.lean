import AlertRelay.Pipeline.Solo
import AlertRelay.Proofs.Lane.Balance
import AlertRelay.Proofs.Time.Clockwork

/-!
# Runs of a lane

What a lane goes through when it is run by itself. It makes its own steps, it is handed records and
its results are taken, its deliveries or somebody outside cancel the program, and the clock moves on
(`Lane.Turn`). Any of this may happen at any time and in any order, so that `Lane.Kit.Reaches`
relates a lane that was just started to whatever may become of it. What `SoloRun.play` makes of a
lane is one of these things (`Lane.Kit.Reaches.play`). A small lane is set up at the end, on which
statements about all runs can be tried.
-/

namespace AlertRelay

/-- The moment at which the program is cancelled. Only the first cancellation counts. -/
def Moment.cancel (m : Moment) : Moment :=
  { m with cancelledAt := some (m.cancelledAt.getD m.now) }

/-- The program was not cancelled later than now. -/
def Moment.Timely (m : Moment) : Prop :=
  ∀ t, m.cancelledAt = some t → t ≤ m.now

namespace Moment.Timely

variable {m : Moment}

theorem cancel (hm : m.Timely) : m.cancel.Timely := by
  intro t ht
  obtain rfl : m.cancelledAt.getD m.now = t := Option.some.inj ht
  cases hc : m.cancelledAt with
  | none => exact Nat.le_refl _
  | some u => exact hm u hc

theorem pass {t : Instant} (hm : m.Timely) (ht : m.now ≤ t) : ({ m with now := t } : Moment).Timely :=
  fun u hu => Nat.le_trans (hm u hu) ht

/-- A cancellation that was is noticed. -/
theorem isCancelled (hm : m.Timely) {t : Instant} (ht : m.cancelledAt = some t) :
    m.isCancelled = true := by
  rw [Moment.isCancelled, ht]
  exact decide_eq_true (hm t ht)

/-- A program in which no cancellation is noticed is not cancelled. -/
theorem cancelledAt_eq_none (hm : m.Timely) (hun : m.isCancelled = false) :
    m.cancelledAt = none := by
  cases hc : m.cancelledAt with
  | none => rfl
  | some t =>
    rw [hm.isCancelled hc] at hun
    cases hun

end Moment.Timely

namespace Lane

/-- What may happen next to a lane that is run by itself. -/
inductive Turn : Moment → Lane → Moment → Lane → Prop
  | step {m : Moment} {l l' : Lane} {e : LaneEvent} (h : l.step? m e = some l') : Turn m l m l'
  /-- A delivery cancels the program. -/
  | trip {m : Moment} {l l' : Lane} {j : Nat} (h : l.trip? m j = some l') : Turn m l m.cancel l'
  /-- The program is cancelled from outside. -/
  | cancel (m : Moment) (l : Lane) : Turn m l m.cancel l
  | offer (m : Moment) (l : Lane) (r : EventRecord) : Turn m l m (l.offer r)
  | take {m : Moment} {l l' : Lane} {r : DeliveryResult} (h : l.takeResult? = some (r, l')) :
      Turn m l m l'
  | abandon (m : Moment) (l : Lane) : Turn m l m l.abandon
  /-- The clock moves on. -/
  | pass {m : Moment} {t : Instant} (h : m.now ≤ t) (l : Lane) : Turn m l { m with now := t } l

/-- What may become of a lane that is given this and starts at a moment. -/
inductive Kit.Reaches (k : Kit) (start : Moment) : Moment → Lane → Prop
  | start : k.Reaches start start (k.start start.now)
  | turn {m m' : Moment} {l l' : Lane} (h : k.Reaches start m l) (hturn : Turn m l m' l') :
      k.Reaches start m' l'

variable {m m' : Moment} {l l' : Lane} {k : Kit} {start : Moment}

/-- A delivery that cancels the program is marked, and nothing else changes. -/
theorem eq_of_trip? {j : Nat} (h : l.trip? m j = some l') :
    l' = { l with running := l.running.modify j fun d => { d with tripped := true } } := by
  obtain ⟨d, -, h⟩ := Option.bind_eq_some_iff.1 h
  split at h
  · exact (Option.some.inj h).symm
  · cases h

/-- The result that is taken was the first one in the queue. -/
theorem eq_of_takeResult? {r : DeliveryResult} (h : l.takeResult? = some (r, l')) :
    ∃ rest, l.results = r :: rest ∧ l' = { l with results := rest } := by
  unfold takeResult? at h
  split at h
  · rename_i first rest hresults
    cases h
    exact ⟨rest, hresults, rfl⟩
  · cases h

namespace Turn

/-- A lane changes in one of the ways in which it may change in a pipeline, or not at all. -/
theorem change (h : Turn m l m' l') : l' = l ∨ l.Change m l' := by
  cases h with
  | step h => exact .inr (.move (move_of_step? h))
  | trip h =>
    rw [eq_of_trip? h]
    exact .inr (.trip _)
  | cancel => exact .inl rfl
  | offer => exact .inr (.offer _)
  | take h =>
    obtain ⟨rest, hresults, rfl⟩ := eq_of_takeResult? h
    exact .inr (.take hresults)
  | abandon => exact .inr .abandon
  | pass h => exact .inl rfl

/-- A program that is not cancelled was not cancelled before. -/
theorem uncancelled (h : Turn m l m' l') (hm : m'.cancelledAt = none) : m.cancelledAt = none := by
  cases h with
  | trip h => cases hm
  | cancel => cases hm
  | _ => exact hm

theorem timely (h : Turn m l m' l') (hm : m.Timely) : m'.Timely := by
  cases h with
  | trip => exact hm.cancel
  | cancel => exact hm.cancel
  | pass h => exact hm.pass h
  | _ => exact hm

end Turn

namespace Kit.Reaches

/-- A lane keeps what it was given. -/
theorem kit_eq (h : k.Reaches start m l) : l.kit = k := by
  induction h with
  | start => rfl
  | turn _ hturn ih =>
    rcases hturn.change with rfl | hchange
    · exact ih
    · exact hchange.kit_eq.trans ih

theorem tracks (h : k.Reaches start m l) : l.Tracks := by
  induction h with
  | start => rfl
  | turn _ hturn ih =>
    rcases hturn.change with rfl | hchange
    · exact ih
    · exact ih.change hchange

/-- What was taken from a lane, is still in it or was lost is what its deliveries came to. -/
theorem exists_balances (h : k.Reaches start m l) : ∃ taken, l.Balances taken := by
  induction h with
  | start => exact ⟨0, 0, rfl, fun _ => rfl⟩
  | turn _ hturn ih =>
    obtain ⟨taken, hl⟩ := ih
    rcases hturn.change with rfl | hchange
    · exact ⟨taken, hl⟩
    · cases hchange with
      | move h => exact ⟨taken, hl.move h⟩
      | trip j => exact ⟨taken, hl.congr rfl rfl id⟩
      | offer r => exact ⟨taken, hl.congr rfl rfl id⟩
      | take hr => exact ⟨_, hl.take hr⟩
      | abandon => exact ⟨taken, hl.abandon⟩

end Kit.Reaches

/-! ### Runs on the clock -/

open Clockwork

/-- What a lane prefers to do may happen. -/
theorem Kit.Reaches.act? {s s' : SoloRun} (h : k.Reaches start s.moment s.lane)
    (hact : s.act? = some s') : k.Reaches start s'.moment s'.lane := by
  unfold SoloRun.act? at hact
  split at hact
  · cases hact
  · split at hact
    · rename_i l' htrip
      obtain ⟨j, -, hj⟩ := List.exists_of_findSome?_eq_some htrip
      cases hact
      exact h.turn (.trip hj)
    · split at hact
      · rename_i l' hevent
        obtain ⟨e, -, hstep⟩ := Option.bind_eq_some_iff.1 hevent
        cases hact
        exact h.turn (.step hstep)
      · unfold SoloRun.collect? at hact
        split at hact
        · rename_i r l' htake
          cases hact
          exact h.turn (.take htake)
        · split at hact
          · cases hact
            exact h
          · cases hact

theorem Kit.Reaches.settle {s : SoloRun} (h : k.Reaches start s.moment s.lane) :
    k.Reaches start (settle s).moment (settle s).lane :=
  settle_keeps (P := fun s : SoloRun => k.Reaches start s.moment s.lane)
    (fun _ _ hact h => h.act? hact) h

theorem Kit.Reaches.follow {s : SoloRun} (h : k.Reaches start s.moment s.lane)
    (d : SoloRun.Directive) : k.Reaches start (s.follow d).moment (s.follow d).lane := by
  cases d with
  | submit r => exact h.turn (.offer _ _ r)
  | cancel => exact h.turn (.cancel _ _)

/-- What comes of a lane that follows a plan of directives is one of the things that may become of
it. -/
theorem Kit.Reaches.play {s : SoloRun} (h : k.Reaches start s.moment s.lane)
    (plan : Plan SoloRun.Directive) : k.Reaches start (s.play plan).moment (s.play plan).lane := by
  have hwait : ∀ (s : SoloRun) (t : Instant), now s ≤ t → k.Reaches start s.moment s.lane →
      k.Reaches start (wait t s).moment (wait t s).lane := fun _ _ ht h => h.turn (.pass ht _)
  induction plan generalizing s with
  | nil =>
    exact runOut_keeps (P := fun s : SoloRun => k.Reaches start s.moment s.lane)
      (fun _ _ hact h => h.act? hact) hwait h
  | cons item rest ih =>
    obtain ⟨t, d⟩ := item
    have hthen : k.Reaches start (runTo t s).moment (runTo t s).lane :=
      runTo_keeps (P := fun s : SoloRun => k.Reaches start s.moment s.lane)
        (fun _ _ hact h => h.act? hact) hwait t h
    exact ih (hthen.follow d).settle

end Lane

/-! ### A small lane -/

namespace Sample

/-- A record with a note. -/
def record : EventRecord where
  id := default
  alert := {}
  error := none
  note := some "session ended"
  action := default
  terminations := []
  error_shown := fun _ h => nomatch h
  note_shown := by
    intro s h
    cases h
    decide +kernel
  has_remark := .inr (fun h => nomatch h)

/-- One send per second, and two more attempts a second apart. -/
def settings : ChannelSettings := ⟨Span.ofSeconds 1, Span.ofSeconds 30, 2, Span.ofSeconds 1⟩

/-- A webhook and a mail server. -/
def senders : List Sender :=
  [.teams ⟨"https://hooks.example", settings⟩,
    .email ⟨"mail.example", 25, "relay", "relay@example", [], none, settings⟩]

/-- A transport that fails once and works then. -/
def failingOnce : Transport Unit :=
  fun n => .returns 500 false (if n = 1 then .error (.missingDestination .teams) else .ok ())

/-- A transport that fails whenever it is called. -/
def failing : Transport Unit :=
  fun _ => .returns 500 false (.error (.missingDestination .teams))

/-- A transport that never answers. -/
def silent : Transport Unit :=
  fun _ => .hangs

/-- A webhook with queues for one item each, run by itself. -/
def solo (transport : Transport Unit) : SoloRun where
  lane := Lane.start (.teams ⟨"https://hooks.example", settings⟩) (fun _ => transport)
    (fun _ => "12:00") 1 0

/-- What comes of the webhook when it follows a plan is one of the things that may become of it. -/
theorem reaches_solo (transport : Transport Unit) (plan : Plan SoloRun.Directive) :
    (solo transport).lane.kit.Reaches {} ((solo transport).play plan).moment
      ((solo transport).play plan).lane :=
  Lane.Kit.Reaches.play .start plan

end Sample

end AlertRelay
