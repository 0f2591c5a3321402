import AlertRelay.Proofs.Lane.Balance
import AlertRelay.Proofs.Pipeline.Stages

/-!
# The books of a pipeline

Where every record and every result is, and what was submitted for it to the ledger.

`Pipeline.Books p done` says that the records of `done` went to all lanes, that each lane has got
them and perhaps the record that the dispatcher is handing out, and that exactly this was submitted
to the ledger. `Pipeline.Tallies` says that exactly the results that were taken were submitted, and
that the results of the deliveries of a lane are taken, on their way or lost. Both hold of all that
is reached from a fresh pipeline, in whatever order things happen (`Pipeline.Reaches.books`,
`Pipeline.Reaches.tallies`).
-/

namespace AlertRelay

/-- The record that the dispatcher is handing out. -/
def DispatcherPhase.current : DispatcherPhase → List EventRecord
  | .fanning r _ => [r]
  | _ => []

/-- The record that the dispatcher is handing out, if lane number `k` has it already. -/
def DispatcherPhase.handed : DispatcherPhase → Nat → List EventRecord
  | .fanning r i, k => if k < i then [r] else []
  | _, _ => []

/-- Whether an increment says what became of a notification. -/
def Update.isResolution : Update → Bool
  | .received => false
  | .sent _ => false
  | _ => true

/-- A result is no arrival and no handing over. -/
theorem DeliveryResult.isResolution_of_update? {r : DeliveryResult} {u : Update}
    (h : r.update? = some u) : u.isResolution = true := by
  unfold update? at h
  split at h <;> cases h <;> rfl

/-! ### What results count as -/

/-- The increment for an outcome on a channel. -/
def Outcome.update? (o : Outcome) (ch : Channel) : Option Update :=
  match o with
  | .succeeded => some (.succeeded ch)
  | .failed => some (.failed ch)
  | .cancelled => some (.cancelled ch)
  | .status => none

namespace DeliveryResult

/-- A result counts as a notice exactly if it is one. -/
theorem outcome_eq_status (r : DeliveryResult) : r.outcome = .status ↔ r.isNotice = true := by
  unfold outcome
  cases r.isNotice with
  | true => simp
  | false => cases r.success <;> cases r.error.isSome <;> simp

/-- A result counts as the increment for its outcome on its channel. -/
theorem update?_eq_some {r : DeliveryResult} {o : Outcome} {ch : Channel} {u : Update}
    (hu : o.update? ch = some u) : r.update? = some u ↔ r.channel = ch ∧ r.outcome = o := by
  unfold update?
  cases o <;> cases hu <;> cases r.outcome <;> simp

/-- An increment is submitted once for each result with this outcome on this channel. -/
theorem count_update? (rs : List DeliveryResult) {o : Outcome} {ch : Channel} {u : Update}
    (hu : o.update? ch = some u) :
    (rs.filterMap update?).count u =
      (rs.filter fun r => r.channel == ch).countP fun r => r.outcome == o := by
  induction rs with
  | nil => rfl
  | cons r rs ih =>
    have hiff : r.update? = some u ↔ r.channel = ch ∧ r.outcome = o := update?_eq_some hu
    by_cases hsame : r.channel = ch ∧ r.outcome = o
    · rw [List.filterMap_cons_some (hiff.2 hsame), List.count_cons_self, ih]
      simp [hsame.1, hsame.2]
    · have hrest : ((r :: rs).filterMap update?).count u = (rs.filterMap update?).count u := by
        cases hup : r.update? with
        | none => rw [List.filterMap_cons_none hup]
        | some v =>
          rw [List.filterMap_cons_some hup, List.count_cons_of_ne]
          rintro rfl
          exact hsame (hiff.1 hup)
      rw [hrest, ih, List.filter_cons]
      by_cases hch : r.channel = ch
      · have ho : r.outcome ≠ o := fun ho => hsame ⟨hch, ho⟩
        simp [hch, ho]
      · simp [hch]

/-- Among the results of a channel every one but the notices has one of three outcomes. -/
theorem countP_outcomes (rs : List DeliveryResult) :
    (rs.countP fun r => r.outcome == .succeeded) + (rs.countP fun r => r.outcome == .failed) +
      (rs.countP fun r => r.outcome == .cancelled) = (rs.filter fun r => !r.isNotice).length := by
  induction rs with
  | nil => rfl
  | cons r rs ih =>
    have hstatus := r.outcome_eq_status
    simp only [List.countP_cons, List.filter_cons]
    cases ho : r.outcome <;> cases hn : r.isNotice <;> simp_all <;> omega

end DeliveryResult

namespace Pipeline

/-- The channels of the lanes. -/
def channels (p : Pipeline) : List Channel :=
  p.lanes.map Lane.channel

/-- The results of a channel that were taken. -/
def taken (p : Pipeline) (ch : Channel) : List DeliveryResult :=
  (p.received.map Prod.snd).filter fun r => r.channel == ch

/-- The records of `done` went to all lanes and were counted as received, and each lane has got the
one that the dispatcher is handing out or has not. -/
structure Books (p : Pipeline) (done : List EventRecord) : Prop where
  accounts : p.isOpen = true →
    p.accepted.map Prod.snd = done ++ p.phase.current ++ p.inbound
  accepted : done <+: p.accepted.map Prod.snd
  received : p.ledger.submitted .received = done.length
  sent : ∀ (k : Nat) (ch : Channel), p.channels[k]? = some ch →
    p.ledger.submitted (.sent ch) = done.length + (p.phase.handed k).length
  unsent : ∀ ch, ch ∉ p.channels → p.ledger.submitted (.sent ch) = 0
  carries : ∀ (k : Nat) (l : Lane), p.lanes[k]? = some l → l.Carries ↑(done ++ p.phase.handed k)

/-- Exactly the results that were taken were submitted, and no other result of a delivery got
lost. -/
structure Tallies (p : Pipeline) : Prop where
  labelled : ∀ r ∈ p.received, r.2.channel ∈ p.channels
  resolved : ∀ u, u.isResolution = true →
    p.ledger.submitted u = (p.received.filterMap fun r => r.2.update?).count u
  balances : ∀ l ∈ p.lanes, l.Balances (genuine (p.taken l.channel))

variable {p q : Pipeline} {e : PipelineEvent} {done : List EventRecord}

/-- Lanes that were given the same have the same channels. -/
theorem channels_of_kits (h : q.lanes.map Lane.kit = p.lanes.map Lane.kit) :
    q.channels = p.channels :=
  map_of_kits (fun k => k.sender.channel) h

theorem getElem?_channels {k : Nat} {l : Lane} (hl : p.lanes[k]? = some l) :
    p.channels[k]? = some l.channel := by
  rw [channels, List.getElem?_map, hl]
  rfl

/-- Different lanes belong to different channels. -/
theorem channel_ne_of_ne (hn : p.channels.Nodup) {i k : Nat} {l l' : Lane}
    (hl : p.lanes[i]? = some l) (hl' : p.lanes[k]? = some l') (hne : k ≠ i) :
    l.channel ≠ l'.channel := by
  intro hsame
  have hk := getElem?_channels hl'
  have hlt : k < p.channels.length := (List.getElem?_eq_some_iff.1 hk).1
  refine hne ((List.getElem?_inj hlt hn).1 (hk.trans ?_))
  rw [getElem?_channels hl, hsame]

/-- What holds of every lane holds after one lane is put in the place of another one. -/
theorem forall_set {P : Nat → Lane → Prop} {lanes : List Lane} {i : Nat} {l l' : Lane}
    (hl : lanes[i]? = some l) (h : ∀ k l, lanes[k]? = some l → P k l) (hi : P i l') :
    ∀ k l, (lanes.set i l')[k]? = some l → P k l := by
  intro k l₂ hk
  rcases getElem?_setLane hl hk with ⟨rfl, rfl⟩ | ⟨-, hk⟩
  · exact hi
  · exact h k l₂ hk

/-! ### Records -/

namespace Books

/-- Work inside a lane changes nothing in the books. -/
theorem setLane (hb : p.Books done) {i : Nat} {l l' : Lane} (hl : p.lanes[i]? = some l)
    (hkit : l'.kit = l.kit)
    (hkeeps : ∀ handed, l.Carries handed → l'.Carries handed) : (p.setLane i l').Books done := by
  have hch : (p.setLane i l').channels = p.channels := channels_of_kits (kits_of_set hl hkit)
  exact
    { accounts := hb.accounts
      accepted := hb.accepted
      received := hb.received
      sent := by rw [hch]; exact hb.sent
      unsent := by rw [hch]; exact hb.unsent
      carries := forall_set hl hb.carries (hkeeps _ (hb.carries i l hl)) }

/-- What submits no arrival and no handing over changes nothing in the books. -/
theorem setLedger (hb : p.Books done) {ledger : Ledger}
    (hsame : ∀ u, u.isResolution = false → ledger.submitted u = p.ledger.submitted u) :
    ({ p with ledger } : Pipeline).Books done where
  accounts := hb.accounts
  accepted := hb.accepted
  received := (hsame _ rfl).trans hb.received
  sent k ch hk := (hsame _ rfl).trans (hb.sent k ch hk)
  unsent ch hch := (hsame _ rfl).trans (hb.unsent ch hch)
  carries := hb.carries

theorem submitted_tally {l : Ledger} {r : DeliveryResult} {u : Update}
    (hu : u.isResolution = false) : (l.tally r).submitted u = l.submitted u := by
  rw [Ledger.submitted_tally, if_neg, Nat.add_zero]
  intro h
  rw [DeliveryResult.isResolution_of_update? h] at hu
  cases hu

theorem receive (hb : p.Books done) {i : Nat} {l : Lane} {r : DeliveryResult}
    {rest : List DeliveryResult} (hl : p.lanes[i]? = some l) :
    (p.receive i { l with results := rest } r).Books done := by
  have hlane : (p.setLane i { l with results := rest }).Books done :=
    hb.setLane hl rfl fun _ h => h.congr rfl rfl rfl id
  have hledger : ({ p.setLane i { l with results := rest } with
      ledger := p.ledger.tally r } : Pipeline).Books done :=
    hlane.setLedger fun u hu => submitted_tally hu
  exact { hledger with }

/-- The dispatcher goes on to a phase in which it takes and hands out no record. -/
theorem setPhase (hb : p.Books done) {phase : DispatcherPhase}
    (hopen : ({ p with phase } : Pipeline).isOpen = false)
    (hhanded : ∀ k, phase.handed k = p.phase.handed k) :
    ({ p with phase } : Pipeline).Books done where
  accounts h := by
    rw [hopen] at h
    cases h
  accepted := hb.accepted
  received := hb.received
  sent k ch hk := by
    rw [hb.sent k ch hk]
    simp only [hhanded]
  unsent := hb.unsent
  carries k l hl := by
    simp only [hhanded]
    exact hb.carries k l hl

/-- A record goes to the next lane and is counted as sent there. -/
theorem hand (hb : p.Books done) (hn : p.channels.Nodup) {r : EventRecord} {i : Nat} {l : Lane}
    (hphase : p.phase = .fanning r i) (hl : p.lanes[i]? = some l) :
    ({ p.setLane i (l.offer r) with
      phase := .fanning r (i + 1)
      ledger := p.ledger.record (.sent l.channel) } : Pipeline).Books done where
  accounts _ := by
    have haccounts := hb.accounts (by rw [isOpen, hphase])
    rw [hphase] at haccounts
    exact haccounts
  accepted := hb.accepted
  received := by
    have hne : Update.sent l.channel ≠ .received := by
      intro h
      cases h
    rw [Ledger.submitted_record, hb.received, if_neg hne, Nat.add_zero]
  sent k ch hk := by
    have hch : (p.setLane i (l.offer r)).channels = p.channels := channels_of_kits (kits_of_set hl rfl)
    replace hk : p.channels[k]? = some ch := hch ▸ hk
    have hi : p.channels[i]? = some l.channel := getElem?_channels hl
    rw [Ledger.submitted_record, hb.sent k ch hk, hphase]
    by_cases hki : k = i
    · subst hki
      rw [hi, Option.some.injEq] at hk
      simp [DispatcherPhase.handed, hk]
    · have hne : l.channel ≠ ch := by
        intro h
        have hklt : k < p.channels.length := (List.getElem?_eq_some_iff.1 hk).1
        exact hki ((List.getElem?_inj hklt hn).1 (hk.trans (h ▸ hi.symm)))
      have hlt : k < i + 1 ↔ k < i := by omega
      simp only [DispatcherPhase.handed, hlt, Update.sent.injEq, if_neg hne, Nat.add_zero]
  unsent ch hch := by
    have hch' : (p.setLane i (l.offer r)).channels = p.channels :=
      channels_of_kits (kits_of_set hl rfl)
    replace hch : ch ∉ p.channels := hch' ▸ hch
    rw [Ledger.submitted_record, hb.unsent ch hch, if_neg]
    intro h
    cases h
    exact hch (List.mem_map_of_mem (List.mem_of_getElem? hl))
  carries := by
    intro k l₂ hk
    rcases getElem?_setLane hl hk with ⟨rfl, rfl⟩ | ⟨hne, hk⟩
    · have hlane := (hb.carries k l hl).offer r
      have hlast : (done : Multiset EventRecord) + {r} = ↑(done ++ [r]) := (coe_append _ _).symm
      simp only [hphase, DispatcherPhase.handed, if_neg (Nat.lt_irrefl k), List.append_nil,
        hlast] at hlane
      simp only [DispatcherPhase.handed, if_pos (Nat.lt_succ_self k)]
      exact hlane
    · have hlane := hb.carries k l₂ hk
      rw [hphase] at hlane
      have hlt : k < i + 1 ↔ k < i := by omega
      simp only [DispatcherPhase.handed, hlt]
      exact hlane

/-- A record went to all lanes and is counted as received. -/
theorem count (hb : p.Books done) {r : EventRecord} {i : Nat} (hphase : p.phase = .fanning r i)
    (hl : p.lanes[i]? = none) :
    ({ p with phase := .listening, ledger := p.ledger.record .received } : Pipeline).Books
      (done ++ [r]) := by
  have hopen : p.isOpen = true := by rw [isOpen, hphase]
  have haccounts := hb.accounts hopen
  rw [hphase] at haccounts
  -- All lanes come before the one that does not exist.
  have hhanded : ∀ k, k < p.lanes.length → p.phase.handed k = [r] := by
    intro k hk
    have hlt : k < i := Nat.lt_of_lt_of_le hk (List.getElem?_eq_none_iff.1 hl)
    simp only [hphase, DispatcherPhase.handed, if_pos hlt]
  exact
    { accounts := fun _ => by rw [haccounts]; simp [DispatcherPhase.current]
      accepted := by
        rw [haccounts]
        exact List.prefix_append _ _
      received := by rw [Ledger.submitted_record, hb.received, List.length_append]; rfl
      sent := by
        intro k ch hk
        have hlt : k < p.lanes.length := by
          rw [← List.length_map Lane.channel]
          exact (List.getElem?_eq_some_iff.1 hk).1
        rw [Ledger.submitted_record, hb.sent k ch hk, hhanded k hlt, List.length_append]
        rfl
      unsent := fun ch hch => by rw [Ledger.submitted_record, hb.unsent ch hch]; rfl
      carries := by
        intro k l hk
        have hlane := hb.carries k l hk
        rw [hhanded k (List.getElem?_eq_some_iff.1 hk).1] at hlane
        simpa [DispatcherPhase.handed] using hlane }

theorem move (hb : p.Books done) (hn : p.channels.Nodup) (h : p.Move e q) :
    ∃ done, q.Books done := by
  cases h with
  | @accept r hopen hroom =>
    refine ⟨done, { hb with accounts := fun _ => ?_, accepted := ?_ }⟩
    · rw [List.map_append, hb.accounts hopen, List.append_assoc]
      rfl
    · rw [List.map_append]
      exact hb.accepted.trans (List.prefix_append _ _)
  | cancel => exact ⟨done, { hb with }⟩
  | pass ht => exact ⟨done, { hb with }⟩
  | lane hl h =>
    have hmove := Lane.move_of_step? h
    exact ⟨done, hb.setLane hl hmove.kit_eq fun _ hc => hc.move hmove⟩
  | @trip i j l d hl hd hmust =>
    have hlane : (p.setLane i
        { l with running := l.running.modify j fun d => { d with tripped := true } }).Books done :=
      hb.setLane hl rfl fun _ hc => hc.congr rfl rfl rfl id
    exact ⟨done, { hlane with }⟩
  | ledger he h => exact ⟨done, hb.setLedger fun u _ => Ledger.submitted_step he h u⟩
  | @take r rest hphase hin =>
    have hopen : p.isOpen = true := by rw [isOpen, hphase]
    have haccounts := hb.accounts hopen
    refine ⟨done, { hb with accounts := fun _ => ?_, sent := fun k ch hk => ?_, carries := ?_ }⟩
    · rw [haccounts, hphase, hin]
      simp [DispatcherPhase.current]
    · rw [hb.sent k ch hk, hphase]
      rfl
    · intro k l hl
      have hlane := hb.carries k l hl
      rwa [hphase] at hlane
  | hand hphase hl => exact ⟨done, hb.hand hn hphase hl⟩
  | count hphase hl => exact ⟨_, hb.count hphase hl⟩
  | tally hphase hl hr => exact ⟨done, hb.receive hl⟩
  | halt hphase hcancel =>
    have hlater : ({ p with phase := .closing 0 p.now } : Pipeline).Books done :=
      hb.setPhase rfl fun k => by rw [hphase]; rfl
    refine ⟨done, { hlater with accounts := ?_ }⟩
    intro h
    cases h
  | collect hphase hl hr => exact ⟨done, hb.receive hl⟩
  | advance hphase hl hfinished =>
    exact ⟨done, hb.setPhase rfl fun k => by rw [hphase]; rfl⟩
  | @abandon i since l hphase hl hlate =>
    have hlane : (p.setLane i l.abandon).Books done :=
      hb.setLane hl rfl fun _ hc => hc.congr rfl rfl rfl id
    have hsame : (p.setLane i l.abandon).phase = .closing i since := hphase
    exact ⟨done, hlane.setPhase rfl fun k => by rw [hsame]; rfl⟩
  | close hphase hlanes =>
    have hlater : ({ p with phase := .settling } : Pipeline).Books done :=
      hb.setPhase rfl fun k => by rw [hphase]; rfl
    exact ⟨done, { hlater with }⟩
  | finish hphase hfinal => exact ⟨done, hb.setPhase rfl fun k => by rw [hphase]; rfl⟩

end Books

/-! ### Results -/

theorem taken_append (rs : List (Instant × DeliveryResult)) (t : Instant) (r : DeliveryResult)
    (ch : Channel) :
    (((rs ++ [(t, r)]).map Prod.snd).filter fun r => r.channel == ch) =
      ((rs.map Prod.snd).filter fun r => r.channel == ch) ++
        if r.channel = ch then [r] else [] := by
  rw [List.map_append, List.filter_append]
  by_cases h : r.channel = ch <;> simp [h]

/-- A result that was taken off a lane belongs to the results of the channel of that lane, and to
those of no other lane. -/
theorem taken_receive (p : Pipeline) (i : Nat) (l : Lane) (r : DeliveryResult) (ch : Channel) :
    (p.receive i l r).taken ch = p.taken ch ++ if r.channel = ch then [r] else [] :=
  taken_append p.received p.now r ch

namespace Tallies

/-- What happens in the lanes without a result being taken. -/
theorem lanes_congr (ht : p.Tallies) (hch : q.channels = p.channels)
    (hledger : ∀ u, u.isResolution = true → q.ledger.submitted u = p.ledger.submitted u)
    (hreceived : q.received = p.received)
    (hlanes : ∀ l' ∈ q.lanes, ∃ l ∈ p.lanes, l'.channel = l.channel ∧
      ∀ taken, l.Balances taken → l'.Balances taken) : q.Tallies where
  labelled r hr := by
    rw [hch]
    exact ht.labelled r (hreceived ▸ hr)
  resolved u hu := by
    rw [hledger u hu, hreceived]
    exact ht.resolved u hu
  balances l' hl' := by
    obtain ⟨l, hl, hsame, hkeeps⟩ := hlanes l' hl'
    have htaken : q.taken l'.channel = p.taken l.channel := by
      rw [taken, taken, hreceived, hsame]
    rw [htaken]
    exact hkeeps _ (ht.balances l hl)

/-- A change of one lane that keeps what balances. -/
theorem lanes_set {lanes : List Lane} {i : Nat} {l l' : Lane} (hl : lanes[i]? = some l)
    (hchannel : l'.channel = l.channel) (hkeeps : ∀ taken, l.Balances taken → l'.Balances taken) :
    ∀ l₂ ∈ lanes.set i l', ∃ l ∈ lanes, l₂.channel = l.channel ∧
      ∀ taken, l.Balances taken → l₂.Balances taken := by
  intro l₂ hl₂
  rcases List.mem_or_eq_of_mem_set hl₂ with hl₂ | rfl
  · exact ⟨l₂, hl₂, rfl, fun _ h => h⟩
  · exact ⟨l, List.mem_of_getElem? hl, hchannel, hkeeps⟩

theorem receive (ht : p.Tallies) (hn : p.channels.Nodup) {i : Nat} {l : Lane}
    {r : DeliveryResult} {rest : List DeliveryResult} (hl : p.lanes[i]? = some l)
    (hr : l.results = r :: rest) (hlabel : l.Labelled) :
    (p.receive i { l with results := rest } r).Tallies := by
  have hmem : l ∈ p.lanes := List.mem_of_getElem? hl
  have hch : (p.receive i { l with results := rest } r).channels = p.channels :=
    channels_of_kits (kits_of_set hl rfl)
  have hchannel : r.channel = l.channel :=
    hlabel.results r (by rw [hr]; exact List.mem_cons_self)
  refine ⟨fun s hs => ?_, fun u hu => ?_, fun l' hl' => ?_⟩
  · rw [hch]
    rcases List.mem_append.1 hs with hs | hs
    · exact ht.labelled s hs
    · rw [List.mem_singleton.1 hs, hchannel]
      exact List.mem_map_of_mem hmem
  · have hcount := ht.resolved u hu
    simp only [Pipeline.receive, Ledger.submitted_tally, hcount, List.filterMap_append,
      List.count_append]
    cases hup : r.update? with
    | none => simp [hup]
    | some v => simp [hup, List.count_singleton]
  · obtain ⟨k, hk⟩ := List.mem_iff_getElem?.1 hl'
    rw [taken_receive]
    rcases getElem?_setLane hl hk with ⟨rfl, rfl⟩ | ⟨hne, hk⟩
    · have hsame : ({ l with results := rest } : Lane).channel = l.channel := rfl
      rw [hsame, if_pos hchannel, genuine_append]
      exact (ht.balances l hmem).take hr
    · have hother : r.channel ≠ l'.channel := by
        rw [hchannel]
        exact channel_ne_of_ne hn hl hk hne
      rw [if_neg hother, List.append_nil]
      exact ht.balances l' (List.mem_of_getElem? hk)

theorem move (ht : p.Tallies) (hn : p.channels.Nodup) (hlabel : ∀ l ∈ p.lanes, l.Labelled)
    (h : p.Move e q) : q.Tallies := by
  have hch : q.channels = p.channels := channels_of_kits h.kits_eq
  have hsame : ∀ l ∈ p.lanes, ∃ l' ∈ p.lanes, l.channel = l'.channel ∧
      ∀ taken, l'.Balances taken → l.Balances taken := fun l hl => ⟨l, hl, rfl, fun _ h => h⟩
  have hrecord : ∀ u v, u.isResolution = false → v.isResolution = true →
      (p.ledger.record u).submitted v = p.ledger.submitted v := by
    intro u v hu hv
    rw [Ledger.submitted_record, if_neg, Nat.add_zero]
    rintro rfl
    rw [hu] at hv
    cases hv
  cases h with
  | lane hl h =>
    have hmove := Lane.move_of_step? h
    exact ht.lanes_congr hch (fun _ _ => rfl) rfl
      (lanes_set hl (Lane.channel_of_kit hmove.kit_eq) fun _ hb => hb.move hmove)
  | trip hl hd hmust =>
    exact ht.lanes_congr hch (fun _ _ => rfl) rfl
      (lanes_set hl rfl fun _ hb => hb.congr rfl rfl id)
  | ledger he h =>
    exact ht.lanes_congr hch (fun u _ => Ledger.submitted_step he h u) rfl hsame
  | hand hphase hl =>
    exact ht.lanes_congr hch (fun u hu => hrecord _ u rfl hu) rfl
      (lanes_set hl rfl fun _ hb => hb.congr rfl rfl id)
  | count hphase hl => exact ht.lanes_congr hch (fun u hu => hrecord _ u rfl hu) rfl hsame
  | tally hphase hl hr => exact ht.receive hn hl hr (hlabel _ (List.mem_of_getElem? hl))
  | collect hphase hl hr => exact ht.receive hn hl hr (hlabel _ (List.mem_of_getElem? hl))
  | abandon hphase hl hlate =>
    exact ht.lanes_congr hch (fun _ _ => rfl) rfl (lanes_set hl rfl fun _ hb => hb.abandon)
  | _ => exact ht.lanes_congr hch (fun _ _ => rfl) rfl hsame

end Tallies

namespace Tallies

/-- How many results of a channel with a given outcome were taken is what was submitted. -/
theorem submitted_eq (ht : p.Tallies) {o : Outcome} {ch : Channel} {u : Update}
    (hu : o.update? ch = some u) :
    p.ledger.submitted u = (p.taken ch).countP fun r => r.outcome == o := by
  have hresolution : u.isResolution = true := by cases o <;> cases hu <;> rfl
  rw [ht.resolved u hresolution, taken, ← DeliveryResult.count_update? _ hu, List.filterMap_map]
  rfl

/-- As many resolutions were submitted for a channel as results of its deliveries were taken. -/
theorem submitted_resolved (ht : p.Tallies) (ch : Channel) :
    p.ledger.submitted (.succeeded ch) + p.ledger.submitted (.failed ch) +
      p.ledger.submitted (.cancelled ch) = (genuine (p.taken ch)).card := by
  have hsucceeded := ht.submitted_eq (show Outcome.succeeded.update? ch = some _ from rfl)
  have hfailed := ht.submitted_eq (show Outcome.failed.update? ch = some _ from rfl)
  have hcancelled := ht.submitted_eq (show Outcome.cancelled.update? ch = some _ from rfl)
  rw [hsucceeded, hfailed, hcancelled, DeliveryResult.countP_outcomes]
  rfl

/-- Nothing was taken from a channel without a lane. -/
theorem taken_eq_nil (ht : p.Tallies) {ch : Channel} (hch : ch ∉ p.channels) :
    p.taken ch = [] := by
  refine List.filter_eq_nil_iff.2 fun r hr heq => hch ?_
  obtain ⟨s, hs, rfl⟩ := List.mem_map.1 hr
  rw [← beq_iff_eq.1 heq]
  exact ht.labelled s hs

end Tallies

/-- Not more results are taken than records were handed over. -/
theorem card_taken_le {l : Lane} {taken : Multiset DeliveryResult} {handed : List EventRecord}
    (hb : l.Balances taken) (ht : l.Tracks) (hc : l.Carries ↑handed) :
    taken.card ≤ handed.length := by
  obtain ⟨lostResults, houtcomes, -⟩ := hb
  obtain ⟨lostRecords, hhanded, -⟩ := hc
  have hresults := congrArg Multiset.card houtcomes
  have hdeliveries := congrArg Multiset.card ht
  have hrecords := congrArg Multiset.card hhanded
  simp only [Lane.outcomes, Multiset.card_add, Multiset.coe_card, List.length_map]
    at hresults hdeliveries hrecords
  omega

/-! ### All that is reached -/

variable {p₀ : Pipeline}

theorem Fresh.channels_nodup_of_reaches (hp : p₀.Fresh) (h : p₀.Reaches p) : p.channels.Nodup := by
  rw [channels, h.channels_eq]
  exact hp.channels_nodup

/-- What is on its way through a lane is about its channel. -/
theorem Reaches.labelled (h : p₀.Reaches p) (hp : p₀.Fresh) : ∀ l ∈ p.lanes, l.Labelled := by
  refine h.keeps_lanes (fun l hl => ?_) fun hchange hl => hl.change hchange
  obtain ⟨-, t, ht⟩ := hp.lanes_start l hl
  rw [ht]
  exact
    { reporting := fun r hr => nomatch hr
      reports := fun r hr => nomatch hr
      held := fun r next hphase => nomatch hphase
      results := fun r hr => nomatch hr
      notice := fun _ r hr => nomatch hr }

/-- Every delivery is either running or over. -/
theorem Reaches.tracks (h : p₀.Reaches p) (hp : p₀.Fresh) : ∀ l ∈ p.lanes, l.Tracks := by
  refine h.keeps_lanes (fun l hl => ?_) fun hchange hl => hl.change hchange
  obtain ⟨-, t, ht⟩ := hp.lanes_start l hl
  rw [ht]
  rfl

theorem Fresh.books (hp : p₀.Fresh) : p₀.Books [] := by
  rw [hp.eq_start]
  exact
    { accounts := fun _ => rfl
      accepted := List.nil_prefix
      received := Ledger.submitted_empty _ _
      sent := fun k ch hk => Ledger.submitted_empty _ _
      unsent := fun ch hch => Ledger.submitted_empty _ _
      carries := by
        intro k l hl
        obtain ⟨-, t, ht⟩ := hp.lanes_start l (List.mem_of_getElem? hl)
        rw [ht]
        exact ⟨0, rfl, fun _ => rfl⟩ }

theorem Fresh.tallies (hp : p₀.Fresh) : p₀.Tallies := by
  rw [hp.eq_start]
  exact
    { labelled := fun r hr => nomatch hr
      resolved := fun u hu => Ledger.submitted_empty _ _
      balances := by
        intro l hl
        obtain ⟨-, t, ht⟩ := hp.lanes_start l hl
        rw [ht]
        exact ⟨0, rfl, fun _ => rfl⟩ }

/-- Every record that was handed out went to all lanes, and was counted as it should. -/
theorem Reaches.books (h : p₀.Reaches p) (hp : p₀.Fresh) : ∃ done, p.Books done := by
  refine h.keeps (P := fun p => ∃ done, p.Books done) ⟨[], hp.books⟩ fun hreach ih hmove => ?_
  obtain ⟨done, hb⟩ := ih
  exact hb.move (hp.channels_nodup_of_reaches hreach) hmove

/-- Every result of a delivery was taken and counted once, is on its way, or is lost. -/
theorem Reaches.tallies (h : p₀.Reaches p) (hp : p₀.Fresh) : p.Tallies :=
  h.keeps hp.tallies fun hreach ht hmove =>
    ht.move (hp.channels_nodup_of_reaches hreach) (hreach.labelled hp) hmove

end Pipeline

end AlertRelay
