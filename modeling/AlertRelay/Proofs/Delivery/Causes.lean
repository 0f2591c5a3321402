import AlertRelay.Proofs.Delivery.Verdict
import Mathlib.Data.List.Infix
import Mathlib.Logic.Relation

/-!
# Causes in the words of errors

An error may hold another one: the last of all attempts that failed, the last one before the time
was over, or the one that belongs to a destination (`DeliveryError.Wraps`). The words of the error
inside are part of the words of the error around it, so the words of an error at any depth
(`DeliveryError.Holds`) are part of the words of the whole. A delivery that fails after it has
called its transport therefore shows all that the transport said in the end (`Sender.cause_shown`).
-/

namespace AlertRelay

namespace DeliveryError

variable {outer inner : DeliveryError}

/-- An error stands directly inside another one. -/
inductive Wraps : DeliveryError → DeliveryError → Prop
  | exhausted {attempts : Nat} {source : DeliveryError} :
      Wraps (.attemptsExhausted attempts source) source
  | aborted {attempt allowed : Nat} {reason : DoneReason} {last : DeliveryError} :
      Wraps (.aborted attempt allowed reason (some last)) last
  | delivery {destination : String} {source : DeliveryError} :
      Wraps (.delivery destination source) source

/-- An error stands inside another one at some depth, or is that error. -/
def Holds : DeliveryError → DeliveryError → Prop :=
  Relation.ReflTransGen Wraps

/-- The words of an error stand in those of the error around it. -/
theorem Wraps.message_part (h : Wraps outer inner) :
    inner.message.toList <:+: outer.message.toList := by
  cases h with
  | @exhausted attempts =>
    have hwords : (DeliveryError.attemptsExhausted attempts inner).message =
        s!"all {attempts} attempts failed, last error: " ++ inner.message := rfl
    rw [hwords, String.toList_append]
    exact (List.suffix_append _ _).isInfix
  | @aborted attempt allowed reason =>
    have hwords : (DeliveryError.aborted attempt allowed reason (some inner)).message =
        s!"{reason.message}; aborting before attempt {attempt} of {allowed}" ++
          " (last error: " ++ inner.message ++ ")" := rfl
    rw [hwords, String.toList_append, String.toList_append]
    exact List.infix_append _ _ _
  | @delivery destination =>
    have hwords : (DeliveryError.delivery destination inner).message =
        s!"failed to submit message to {destination}: " ++ inner.message := rfl
    rw [hwords, String.toList_append]
    exact (List.suffix_append _ _).isInfix

/-- The words of every error inside an error stand in its words. -/
theorem Holds.message_part (h : outer.Holds inner) :
    inner.message.toList <:+: outer.message.toList := by
  induction h with
  | refl => exact List.infix_rfl
  | tail _ hlast ih => exact hlast.message_part.trans ih

end DeliveryError

namespace Sender

variable {s : Sender} {clock : String} {choice : Choice} {transport : Transport Unit} {c : Context}
  {slot now u : Instant} {r : DeliveryResult}

/-- A delivery that fails has nowhere to go, or its error holds the one of its last call. -/
theorem holds_last_of_failed
    (hend : (s.send clock choice transport c slot now).ending = .returns u r)
    (hfailed : r.outcome = .failed) :
    ((s.send clock choice transport c slot now).calls = [] ∧ s.lacksDestination = true ∧
        r.error = some (.missingDestination s.channel)) ∨
      ∃ earlier call last shown,
        (s.send clock choice transport c slot now).calls = earlier ++ [call] ∧
          (transport call.2).error? = some last ∧ r.error = some shown ∧ shown.Holds last := by
  obtain ⟨v, hv⟩ := exists_verdict hend
  have hmark : v.mark.1 = .failed := (congrArg Prod.fst hv.mark_eq).trans hfailed
  cases v with
  | unaddressed =>
    obtain ⟨hdest, -, hcalls, rfl⟩ := hv
    exact .inl ⟨hcalls, hdest, rfl⟩
  | givenUp => cases hmark
  | delivered => cases hmark
  | failed =>
    obtain ⟨earlier, call, last, source, hcalls, -, hlast, rfl, hsource⟩ := hv
    refine .inr ⟨earlier, call, last, _, hcalls, hlast, rfl, .head .delivery ?_⟩
    rcases hsource with ⟨rfl, -⟩ | ⟨reason, rfl⟩
    · exact .single .exhausted
    · exact .single .aborted

/-- The words of every error that stands inside an error, however deep, are a part of its words. So
a delivery that fails tells the whole error of the last call of its transport, unless it made no
call for want of a destination. -/
theorem cause_shown :
    (∀ outer inner : DeliveryError, outer.Holds inner →
      inner.message.toList <:+: outer.message.toList) ∧
    ∀ (s : Sender) (clock : String) (choice : Choice) (transport : Transport Unit) (c : Context)
      (slot now u : Instant) (r : DeliveryResult),
      (s.send clock choice transport c slot now).ending = .returns u r → r.outcome = .failed →
        ((s.send clock choice transport c slot now).calls = [] ∧ s.lacksDestination = true ∧
            r.error = some (.missingDestination s.channel)) ∨
          ∃ earlier call last shown,
            (s.send clock choice transport c slot now).calls = earlier ++ [call] ∧
              (transport call.2).error? = some last ∧ r.error = some shown ∧
              last.message.toList <:+: shown.message.toList := by
  refine ⟨fun outer inner h => h.message_part, ?_⟩
  intro s clock choice transport c slot now u r hend hfailed
  rcases holds_last_of_failed hend hfailed with
    hnowhere | ⟨earlier, call, last, shown, hcalls, hlast, hshown, hholds⟩
  · exact .inl hnowhere
  · exact .inr ⟨earlier, call, last, shown, hcalls, hlast, hshown, hholds.message_part⟩

/-- What a mail server said to a recipient is found again in the words of a delivery that was cut
off by its deadline, two errors deep. -/
theorem refusal_shown :
    let settings : ChannelSettings := ⟨Span.zero, Span.ofSeconds 30, 2, Span.ofSeconds 1⟩
    let s := Sender.email
      ⟨"mail.example", 25, "relay", "relay@example", ["ops@example"], none, settings⟩
    let refusal := DeliveryError.smtp .rcptTo "550 no such user"
    let shown := DeliveryError.delivery s.destination
      (.aborted 2 3 .deadlineExceeded (some refusal))
    let transport : Transport Unit := fun _ => .returns 500 false (.error refusal)
    let t := s.send "12:00" {} transport ⟨700, none⟩ 100 0
    shown.Holds refusal ∧ refusal.message.toList <:+: shown.message.toList ∧
      t.ending = .returns 700 (.failed .email shown) ∧
      ∃ earlier call last, t.calls = earlier ++ [call] ∧
        (transport call.2).error? = some last ∧ last.message.toList <:+: shown.message.toList := by
  intro settings s refusal shown transport t
  have hrun : t = (attempts s.policy transport ⟨700, none⟩ 100).map (s.resultOf "12:00") :=
    send_of_live (by decide +kernel) _ _ _ (by decide) rfl
  have hend : t.ending = .returns 700 (.failed .email shown) := congrArg Trace.ending hrun
  have hholds : shown.Holds refusal := .head .delivery (.single .aborted)
  obtain ⟨hparts, hfailures⟩ := cause_shown
  refine ⟨hholds, hparts _ _ hholds, hend, ?_⟩
  rcases hfailures s "12:00" {} transport ⟨700, none⟩ 100 0 700 _ hend rfl with
    ⟨-, hnowhere, -⟩ | ⟨earlier, call, last, words, hcalls, hlast, hwords, hpart⟩
  · exact absurd hnowhere (by decide +kernel)
  · cases hwords
    exact ⟨earlier, call, last, hcalls, hlast, hpart⟩

end Sender

end AlertRelay
