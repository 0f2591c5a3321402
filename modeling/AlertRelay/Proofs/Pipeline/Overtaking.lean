import AlertRelay.Proofs.Pipeline.DrainTest
import AlertRelay.Proofs.Pipeline.Run

/-!
# When the drain test is not sound

If the queue of the ledger does not hold all increments that may be submitted before the last record
is sent on the last channel, then there is a run in which this increment waits outside and every
other one overtakes it (`Pipeline.exists_overtaking`). The counters then show all records as
received and nothing as pending, although the last record is not delivered on that channel. So the
condition under which the test was shown to be sound is the exact one
(`Pipeline.drainTestSound_iff`).

The run goes in rounds. In a round one record is accepted, handed to all lanes, delivered at once,
and all results are taken, while the bookkeeper counts nothing. `Pipeline.Stage` describes the
pipeline between the steps of a round by the increments that were submitted and by the records that
wait in front of each lane.
-/

namespace AlertRelay

/-! ### Lanes that deliver at once -/

namespace Prompt

/-- A channel without a pause between two sends. -/
def settings : ChannelSettings := ⟨Span.zero, Span.ofSeconds 30, 0, Span.zero⟩

/-- A sender with a destination. -/
def sender : Channel → Sender
  | .teams => .teams ⟨"https://hooks.example", settings⟩
  | .email => .email ⟨"mail.example", 25, "relay", "relay@example", [], none, settings⟩

/-- A lane whose transport succeeds at once. -/
def kit (capacity : Nat) (ch : Channel) : Lane.Kit where
  sender := sender ch
  transport := fun _ _ _ => .returns 0 false (.ok ())
  choice := fun _ => {}
  clock := fun _ => "12:00"
  capacity := capacity

/-- The time that a delivery gets. -/
def deadline : Instant := (Span.ofSeconds 30).toNanos

/-- The result of every delivery. -/
def result (ch : Channel) : DeliveryResult :=
  .succeeded ch ((sender ch).successMessage "12:00")

/-- A lane in which only the given records wait, with what was delivered before. -/
def lane (capacity : Nat) (ch : Channel) (ws : List EventRecord) (calls : List Call)
    (scheduled : List Delivery) (concluded : List Conclusion) : Lane :=
  { (kit capacity ch).start 0 with waiting := ws, calls, scheduled, concluded }

variable {capacity : Nat} {ch : Channel} {r : EventRecord} {calls : List Call}
  {scheduled : List Delivery} {concluded : List Conclusion}

/-- The delivery of the next record. -/
def delivery (scheduled : List Delivery) (r : EventRecord) : Delivery :=
  ⟨scheduled.length, r, 0, 0, deadline, false⟩

/-- There is a slot at once, and half a minute for the delivery. -/
theorem plan?_eq {ws : List EventRecord} :
    (lane capacity ch ws calls scheduled concluded).plan? 0 =
      some (⟨Span.zero, 0⟩, deadline) := by
  have hplan : (((Schedule.mk Span.zero 0).next? 0).bind fun schedule =>
      ((0 : Instant).after? (deliveryTimeout 0 settings.baseTimeout schedule.last settings.retries
        settings.retryDelay)).map fun deadline => (schedule, deadline)) =
      some (⟨Span.zero, 0⟩, deadline) := by decide +kernel
  cases ch <;> exact hplan

theorem dispatch_eq :
    ({ lane capacity ch [] calls scheduled concluded with inbound := [r] } : Lane).step? {}
      .dispatch = some { lane capacity ch [] calls (scheduled ++ [delivery scheduled r]) concluded with
        running := [delivery scheduled r] } := by
  have hdone : (Context.mk deadline none).doneReason? 0 = none := by decide +kernel
  have hbook : (lane capacity ch [] calls scheduled concluded).book {} r =
      { lane capacity ch [] calls (scheduled ++ [delivery scheduled r]) concluded with
        running := [delivery scheduled r] } := by
    simp only [Lane.book, plan?_eq, Lane.launch, hdone]
    cases ch <;> rfl
  exact congrArg some hbook

theorem complete_eq {d : Delivery} (hd : d = delivery scheduled r) :
    ({ lane capacity ch [] calls (scheduled ++ [d]) concluded with running := [d] } : Lane).step? {}
      (.complete 0) = some
        { lane capacity ch [] (calls ++ [⟨0, d.number, r, 1⟩]) (scheduled ++ [d])
            (concluded ++ [⟨0, d, result ch⟩]) with reporting := [result ch] } := by
  subst hd
  cases ch <;> rfl

/-- A record that waits is delivered at once. -/
theorem reaches_result (hcap : 0 < capacity) (ch : Channel) (r : EventRecord) (calls : List Call)
    (scheduled : List Delivery) (concluded : List Conclusion) :
    ∃ calls' scheduled' concluded', Relation.ReflTransGen
      (fun l l' : Lane => ∃ e, l.step? {} e = some l')
      (lane capacity ch [r] calls scheduled concluded)
      { lane capacity ch [] calls' scheduled' concluded' with results := [result ch] } := by
  have henter : (lane capacity ch [r] calls scheduled concluded).step? {} (.enter 0) =
      some { lane capacity ch [] calls scheduled concluded with inbound := [r] } := if_pos hcap
  have hreport : ∀ calls scheduled concluded,
      ({ lane capacity ch [] calls scheduled concluded with reporting := [result ch] } :
        Lane).step? {} (.report 0) =
      some { lane capacity ch [] calls scheduled concluded with reports := [result ch] } :=
    fun _ _ _ => if_pos hcap
  have hgather : ∀ calls scheduled concluded,
      ({ lane capacity ch [] calls scheduled concluded with reports := [result ch] } :
        Lane).step? {} .gather =
      some { lane capacity ch [] calls scheduled concluded with
        phase := .holding (result ch) .listen } := fun _ _ _ => rfl
  have hforward : ∀ calls scheduled concluded,
      ({ lane capacity ch [] calls scheduled concluded with
        phase := .holding (result ch) .listen } : Lane).step? {} .forward =
      some { lane capacity ch [] calls scheduled concluded with results := [result ch] } :=
    fun _ _ _ => if_pos hcap
  exact ⟨_, _, _, .head ⟨_, henter⟩ (.head ⟨_, dispatch_eq⟩ (.head ⟨_, complete_eq rfl⟩
    (.head ⟨_, hreport _ _ _⟩ (.head ⟨_, hgather _ _ _⟩ (.single ⟨_, hforward _ _ _⟩)))))⟩

end Prompt

/-! ### A round -/

namespace Pipeline

/-- A pipeline between the steps of a round: the increments of `us` were submitted, the records of
`ws i` wait in front of lane number `i`, `n` records were accepted and nothing was counted. -/
structure Stage (capacity : Nat) (channels : List Channel) (us : List Update)
    (ws : Nat → List EventRecord) (n : Nat) (p : Pipeline) : Prop where
  moment : p.moment = {}
  capacity_eq : p.capacity = capacity
  inbound : p.inbound = []
  accepted : p.accepted.length = n
  length : p.lanes.length = channels.length
  lanes : ∀ (i : Nat) (l : Lane), p.lanes[i]? = some l →
    ∃ ch calls scheduled concluded, channels[i]? = some ch ∧
      l = Prompt.lane capacity ch (ws i) calls scheduled concluded
  ledger : p.ledger = us.foldl Ledger.record { capacity }

variable {capacity n i : Nat} {channels : List Channel} {us : List Update}
  {ws ws' : Nat → List EventRecord} {p : Pipeline} {r : EventRecord} {ch : Channel}

namespace Stage

/-- The lane of a channel. -/
theorem exists_lane (hs : Stage capacity channels us ws n p) (hi : channels[i]? = some ch) :
    ∃ calls scheduled concluded,
      p.lanes[i]? = some (Prompt.lane capacity ch (ws i) calls scheduled concluded) := by
  have hlt : i < p.lanes.length := by
    rw [hs.length]
    exact (List.getElem?_eq_some_iff.1 hi).1
  have hl : p.lanes[i]? = some p.lanes[i] := List.getElem?_eq_getElem hlt
  obtain ⟨ch', calls, scheduled, concluded, hch', hlane⟩ := hs.lanes i _ hl
  rw [hi, Option.some.injEq] at hch'
  subst hch'
  exact ⟨calls, scheduled, concluded, by rw [hl, hlane]⟩

/-- One lane goes on. -/
theorem set_lanes (hs : Stage capacity channels us ws n p) (hi : channels[i]? = some ch)
    {l : Lane} (hl : p.lanes[i]? = some l) (calls : List Call) (scheduled : List Delivery)
    (concluded : List Conclusion) (hothers : ∀ j, j ≠ i → ws' j = ws j) :
    ∀ (j : Nat) (l' : Lane),
      (p.lanes.set i (Prompt.lane capacity ch (ws' i) calls scheduled concluded))[j]? = some l' →
      ∃ ch calls scheduled concluded, channels[j]? = some ch ∧
        l' = Prompt.lane capacity ch (ws' j) calls scheduled concluded := by
  intro j l' hj
  rcases getElem?_setLane hl hj with ⟨rfl, rfl⟩ | ⟨hne, hj⟩
  · exact ⟨ch, calls, scheduled, concluded, hi, rfl⟩
  · rw [hothers j hne]
    exact hs.lanes j l' hj

/-- A record comes in, and the dispatcher takes it. -/
theorem accept (hs : Stage capacity channels us ws n p) (hcap : 0 < capacity)
    (hphase : p.phase = .listening) (r : EventRecord) :
    ∃ q, p.Reaches q ∧ q.phase = .fanning r 0 ∧ Stage capacity channels us ws (n + 1) q := by
  have haccept : p.step? (.accept r) =
      some { p with inbound := [r], accepted := p.accepted ++ [(p.now, r)] } := by
    simp [step?, accept?, isOpen, hphase, hs.inbound, hs.capacity_eq, hcap]
  have htake : ({ p with inbound := [r], accepted := p.accepted ++ [(p.now, r)] } :
      Pipeline).step? .take = some
        { p with
          phase := .fanning r 0, inbound := [], accepted := p.accepted ++ [(p.now, r)] } := by
    simp [step?, take?, hphase]
  refine ⟨_, (reaches_of_step? haccept).step htake, rfl, ?_⟩
  exact
    { hs with
      inbound := rfl
      accepted := by rw [List.length_append, hs.accepted, List.length_singleton] }

/-- The record goes to the next lane. -/
theorem hand (hs : Stage capacity channels us ws n p) (hphase : p.phase = .fanning r i)
    (hi : channels[i]? = some ch) (hwaits : ws' i = ws i ++ [r])
    (hothers : ∀ j, j ≠ i → ws' j = ws j) :
    ∃ q, p.Reaches q ∧ q.phase = .fanning r (i + 1) ∧
      Stage capacity channels (us ++ [.sent ch]) ws' n q := by
  obtain ⟨calls, scheduled, concluded, hl⟩ := hs.exists_lane hi
  have hchannel : (Prompt.lane capacity ch (ws i) calls scheduled concluded).channel = ch := by
    cases ch <;> rfl
  have hoffer : (Prompt.lane capacity ch (ws i) calls scheduled concluded).offer r =
      Prompt.lane capacity ch (ws' i) calls scheduled concluded := by
    rw [hwaits]
    rfl
  have hfan : p.step? .fan = some
      { p.setLane i (Prompt.lane capacity ch (ws' i) calls scheduled concluded) with
        phase := .fanning r (i + 1)
        ledger := p.ledger.record (.sent ch) } := by
    simp only [step?, fan?, hphase, hl, hchannel, hoffer]
  refine ⟨_, reaches_of_step? hfan, rfl, ?_⟩
  exact
    { moment := hs.moment
      capacity_eq := hs.capacity_eq
      inbound := hs.inbound
      accepted := hs.accepted
      length := (List.length_set).trans hs.length
      lanes := hs.set_lanes hi hl calls scheduled concluded hothers
      ledger := by rw [List.foldl_append, ← hs.ledger]; rfl }

/-- The record went to all lanes. -/
theorem count (hs : Stage capacity channels us ws n p)
    (hphase : p.phase = .fanning r channels.length) :
    ∃ q, p.Reaches q ∧ q.phase = .listening ∧
      Stage capacity channels (us ++ [.received]) ws n q := by
  have hnone : p.lanes[channels.length]? = none :=
    List.getElem?_eq_none_iff.2 (Nat.le_of_eq hs.length)
  have hfan : p.step? .fan =
      some { p with phase := .listening, ledger := p.ledger.record .received } := by
    simp only [step?, fan?, hphase, hnone]
  refine ⟨_, reaches_of_step? hfan, rfl, ?_⟩
  exact { hs with ledger := by rw [List.foldl_append, ← hs.ledger]; rfl }

/-- The record that waits in front of a lane is delivered, and the result is taken. -/
theorem deliver (hs : Stage capacity channels us ws n p) (hcap : 0 < capacity)
    (hphase : p.phase = .listening) (hi : channels[i]? = some ch) (hwaits : ws i = [r])
    (hnone : ws' i = []) (hothers : ∀ j, j ≠ i → ws' j = ws j) :
    ∃ q, p.Reaches q ∧ q.phase = .listening ∧
      Stage capacity channels (us ++ [.succeeded ch]) ws' n q := by
  obtain ⟨calls, scheduled, concluded, hl⟩ := hs.exists_lane hi
  rw [hwaits] at hl
  obtain ⟨calls', scheduled', concluded', hlane⟩ :=
    Prompt.reaches_result hcap ch r calls scheduled concluded
  rw [← hs.moment] at hlane
  have hreach := reaches_setLane hl hlane
  have hi' : i < p.lanes.length := (List.getElem?_eq_some_iff.1 hl).1
  have hset : (p.setLane i { Prompt.lane capacity ch [] calls' scheduled' concluded' with
      results := [Prompt.result ch] }).lanes[i]? =
      some { Prompt.lane capacity ch [] calls' scheduled' concluded' with
        results := [Prompt.result ch] } := List.getElem?_set_self hi'
  have htally : (p.setLane i { Prompt.lane capacity ch [] calls' scheduled' concluded' with
      results := [Prompt.result ch] }).step? (.tally i) = some
        { p.setLane i (Prompt.lane capacity ch (ws' i) calls' scheduled' concluded') with
          received := p.received ++ [(p.now, Prompt.result ch)]
          ledger := p.ledger.record (.succeeded ch) } := by
    rw [hnone]
    simp only [step?, tally?, takeResult?, hset, Option.bind_some, Lane.takeResult?]
    simp only [setLane, hphase, List.set_set, Option.map_some]
    rfl
  refine ⟨_, hreach.step htally, hphase, ?_⟩
  exact
    { moment := hs.moment
      capacity_eq := hs.capacity_eq
      inbound := hs.inbound
      accepted := hs.accepted
      length := (List.length_set).trans hs.length
      lanes := hs.set_lanes hi hl calls' scheduled' concluded' hothers
      ledger := by rw [List.foldl_append, ← hs.ledger]; rfl }

/-- Only the lanes that exist count. -/
theorem congr (hs : Stage capacity channels us ws n p)
    (hsame : ∀ j, j < channels.length → ws' j = ws j) : Stage capacity channels us ws' n p where
  moment := hs.moment
  capacity_eq := hs.capacity_eq
  inbound := hs.inbound
  accepted := hs.accepted
  length := hs.length
  lanes j l hl := by
    have hj : j < channels.length := by
      rw [← hs.length]
      exact (List.getElem?_eq_some_iff.1 hl).1
    rw [hsame j hj]
    exact hs.lanes j l hl
  ledger := hs.ledger

/-- The record goes to the first lanes, one after the other. -/
theorem hand_first (hs : Stage capacity channels us (fun _ => []) n p)
    (hphase : p.phase = .fanning r 0) (i : Nat) (hi : i ≤ channels.length) :
    ∃ q, p.Reaches q ∧ q.phase = .fanning r i ∧
      Stage capacity channels (us ++ (channels.take i).map .sent)
        (fun j => if j < i then [r] else []) n q := by
  induction i with
  | zero =>
    rw [List.take_zero, List.map_nil, List.append_nil]
    exact ⟨p, .refl, hphase, hs.congr fun j _ => if_neg (Nat.not_lt_zero j)⟩
  | succ i ih =>
    obtain ⟨q, hreach, hq, hstage⟩ := ih (Nat.le_of_succ_le hi)
    have hch : channels[i]? = some channels[i] := List.getElem?_eq_getElem hi
    have hnext : ∃ q', q.Reaches q' ∧ q'.phase = .fanning r (i + 1) ∧
        Stage capacity channels (us ++ (channels.take i).map .sent ++ [.sent channels[i]])
          (fun j => if j < i + 1 then [r] else []) n q' := by
      refine hstage.hand hq hch ?_ fun j hj => ?_
      · rw [if_pos (Nat.lt_succ_self i), if_neg (Nat.lt_irrefl i), List.nil_append]
      · have hlt : j < i + 1 ↔ j < i := by omega
        simp only [hlt]
    obtain ⟨q', hreach', hq', hstage'⟩ := hnext
    refine ⟨q', hreach.trans hreach', hq', ?_⟩
    rw [List.take_add_one, hch, List.map_append, ← List.append_assoc]
    exact hstage'

/-- A record comes in and goes to all lanes. -/
theorem fan (hs : Stage capacity channels us (fun _ => []) n p) (hcap : 0 < capacity)
    (hphase : p.phase = .listening) (r : EventRecord) :
    ∃ q, p.Reaches q ∧ q.phase = .listening ∧
      Stage capacity channels (us ++ channels.map .sent ++ [.received]) (fun _ => [r]) (n + 1)
        q := by
  obtain ⟨q₁, h₁, hq₁, hs₁⟩ := hs.accept hcap hphase r
  obtain ⟨q₂, h₂, hq₂, hs₂⟩ := hs₁.hand_first hq₁ channels.length (Nat.le_refl _)
  rw [List.take_length] at hs₂
  obtain ⟨q₃, h₃, hq₃, hs₃⟩ := hs₂.count hq₂
  exact ⟨q₃, (h₁.trans h₂).trans h₃, hq₃, hs₃.congr fun j hj => (if_pos hj).symm⟩

/-- The record that waits in front of all lanes is delivered by the first ones. -/
theorem deliver_first (hs : Stage capacity channels us (fun _ => [r]) n p) (hcap : 0 < capacity)
    (hphase : p.phase = .listening) (i : Nat) (hi : i ≤ channels.length) :
    ∃ q, p.Reaches q ∧ q.phase = .listening ∧
      Stage capacity channels (us ++ (channels.take i).map .succeeded)
        (fun j => if i ≤ j then [r] else []) n q := by
  induction i with
  | zero =>
    rw [List.take_zero, List.map_nil, List.append_nil]
    exact ⟨p, .refl, hphase, hs.congr fun j _ => if_pos (Nat.zero_le j)⟩
  | succ i ih =>
    obtain ⟨q, hreach, hq, hstage⟩ := ih (Nat.le_of_succ_le hi)
    have hch : channels[i]? = some channels[i] := List.getElem?_eq_getElem hi
    have hnext : ∃ q', q.Reaches q' ∧ q'.phase = .listening ∧
        Stage capacity channels (us ++ (channels.take i).map .succeeded ++ [.succeeded channels[i]])
          (fun j => if i + 1 ≤ j then [r] else []) n q' := by
      refine hstage.deliver hcap hq hch (if_pos (Nat.le_refl i)) (if_neg (Nat.not_succ_le_self i))
        fun j hj => ?_
      have hle : i + 1 ≤ j ↔ i ≤ j := by omega
      simp only [hle]
    obtain ⟨q', hreach', hq', hstage'⟩ := hnext
    refine ⟨q', hreach.trans hreach', hq', ?_⟩
    rw [List.take_add_one, hch, List.map_append, ← List.append_assoc]
    exact hstage'

end Stage

/-- What is submitted in a round. -/
def round (channels : List Channel) : List Update :=
  channels.map .sent ++ [.received] ++ channels.map .succeeded

/-- What is submitted in some rounds. -/
def rounds (channels : List Channel) (m : Nat) : List Update :=
  (List.replicate m (round channels)).flatten

/-- A pipeline with a prompt lane for each channel. -/
def prompt (capacity : Nat) (channels : List Channel) : Pipeline :=
  start capacity Span.zero (channels.map fun ch => (Prompt.kit capacity ch).start 0)

theorem channels_prompt (capacity : Nat) (channels : List Channel) :
    (prompt capacity channels).channels = channels := by
  have hchannel : ∀ ch, ((Prompt.kit capacity ch).start 0).channel = ch := by
    intro ch
    cases ch <;> rfl
  rw [Pipeline.channels, prompt, start, List.map_map]
  exact (List.map_congr_left fun ch _ => hchannel ch).trans (List.map_id _)

theorem fresh_prompt (hcap : 0 < capacity) (hn : channels.Nodup) :
    (prompt capacity channels).Fresh where
  capacity_pos := hcap
  eq_start := rfl
  lanes_start l hl := by
    obtain ⟨ch, -, rfl⟩ := List.mem_map.1 hl
    exact ⟨rfl, 0, rfl⟩
  channels_nodup := by
    have hch := channels_prompt capacity channels
    rw [Pipeline.channels] at hch
    rwa [hch]

/-- At the start nothing was submitted. -/
theorem stage_prompt (capacity : Nat) (channels : List Channel) :
    Stage capacity channels [] (fun _ => []) 0 (prompt capacity channels) where
  moment := rfl
  capacity_eq := rfl
  inbound := rfl
  accepted := rfl
  length := List.length_map _
  lanes i l hl := by
    obtain ⟨ch, hch, rfl⟩ := Option.map_eq_some_iff.1 ((List.getElem?_map).symm.trans hl)
    exact ⟨ch, [], [], [], hch, rfl⟩
  ledger := rfl

/-- After some rounds. -/
theorem exists_rounds (hcap : 0 < capacity) (channels : List Channel) (r : EventRecord) (m : Nat) :
    ∃ p, (prompt capacity channels).Reaches p ∧ p.phase = .listening ∧
      Stage capacity channels (rounds channels m) (fun _ => []) m p := by
  induction m with
  | zero => exact ⟨_, .refl, rfl, stage_prompt capacity channels⟩
  | succ m ih =>
    obtain ⟨p, h, hphase, hs⟩ := ih
    obtain ⟨q, hq, hphase', hs'⟩ := hs.fan hcap hphase r
    obtain ⟨q', hq', hphase'', hs''⟩ := hs'.deliver_first hcap hphase' channels.length (Nat.le_refl _)
    refine ⟨q', (h.trans hq).trans hq', hphase'', ?_⟩
    have hrounds : rounds channels (m + 1) = rounds channels m ++ channels.map .sent ++ [.received] ++
        channels.map .succeeded := by
      rw [rounds, List.replicate_succ', List.flatten_append, List.flatten_singleton, rounds, round]
      simp only [List.append_assoc]
    rw [List.take_length] at hs''
    rw [hrounds]
    exact hs''.congr fun j hj => (if_neg (Nat.not_le_of_lt hj)).symm

/-! ### The increment that is overtaken -/

/-- The increments of `m` rounds. -/
theorem length_rounds (channels : List Channel) (m : Nat) :
    (rounds channels m).length = (2 * channels.length + 1) * m := by
  have hround : (round channels).length = 2 * channels.length + 1 := by
    simp only [round, List.length_append, List.length_map, List.length_singleton]
    omega
  rw [rounds, List.length_flatten, List.map_replicate, List.sum_replicate_nat, hround, Nat.mul_comm]

theorem count_rounds (channels : List Channel) (m : Nat) (u : Update) :
    (rounds channels m).count u = m * (round channels).count u := by
  rw [rounds, List.count_flatten, List.map_replicate, List.sum_replicate_nat]

/-- How often an increment is among those for the records that are sent in a round. -/
theorem count_map_sent (channels : List Channel) (ch : Channel) :
    (channels.map Update.sent).count (.sent ch) = channels.count ch :=
  List.count_map_of_injective channels Update.sent (fun _ _ h => Update.sent.inj h) ch

theorem count_map_succeeded (channels : List Channel) (ch : Channel) :
    (channels.map Update.succeeded).count (.succeeded ch) = channels.count ch :=
  List.count_map_of_injective channels Update.succeeded (fun _ _ h => Update.succeeded.inj h) ch

theorem count_map_eq_zero {f : Channel → Update} {u : Update} (channels : List Channel)
    (h : ∀ ch, f ch ≠ u) : (channels.map f).count u = 0 := by
  refine List.count_eq_zero.2 ?_
  intro hmem
  obtain ⟨ch, -, hch⟩ := List.mem_map.1 hmem
  exact h ch hch

/-- What was submitted when the last record was delivered on all channels but the last one. -/
def lateUpdates (channels : List Channel) (last : Channel) (m : Nat) : List Update :=
  rounds (channels ++ [last]) m ++ (channels ++ [last]).map .sent ++ [.received] ++
    channels.map .succeeded

section Counts

variable (channels : List Channel) (last ch : Channel) (m : Nat)

theorem count_lateUpdates_received : (lateUpdates channels last m).count .received = m + 1 := by
  have hsent := fun cs => count_map_eq_zero (f := .sent) (u := .received) cs fun _ h => nomatch h
  have hsucceeded :=
    fun cs => count_map_eq_zero (f := .succeeded) (u := .received) cs fun _ h => nomatch h
  simp only [lateUpdates, List.count_append, count_rounds, round, hsent, hsucceeded,
    List.count_singleton_self]
  omega

theorem count_lateUpdates_sent :
    (lateUpdates channels last m).count (.sent ch) = (m + 1) * (channels ++ [last]).count ch := by
  have hsucceeded :=
    fun cs => count_map_eq_zero (f := .succeeded) (u := .sent ch) cs fun _ h => nomatch h
  have hreceived : [Update.received].count (.sent ch) = 0 := rfl
  simp only [lateUpdates, List.count_append, count_rounds, round, count_map_sent, hsucceeded,
    hreceived, Nat.add_zero, Nat.succ_mul]

theorem count_lateUpdates_succeeded :
    (lateUpdates channels last m).count (.succeeded ch) =
      m * (channels ++ [last]).count ch + channels.count ch := by
  have hsent :=
    fun cs => count_map_eq_zero (f := .sent) (u := .succeeded ch) cs fun _ h => nomatch h
  have hreceived : [Update.received].count (.succeeded ch) = 0 := rfl
  simp only [lateUpdates, List.count_append, count_rounds, round, count_map_succeeded, hsent,
    hreceived, Nat.zero_add, Nat.add_zero]

/-- Nothing fails and nothing is cancelled. -/
theorem count_lateUpdates_eq_zero {u : Update} (hsent : ∀ ch, .sent ch ≠ u)
    (hreceived : .received ≠ u) (hsucceeded : ∀ ch, .succeeded ch ≠ u) :
    (lateUpdates channels last m).count u = 0 := by
  have hsingle : [Update.received].count u = 0 :=
    List.count_eq_zero.2 fun hmem => hreceived (List.mem_singleton.1 hmem).symm
  simp only [lateUpdates, List.count_append, count_rounds, round, hsingle,
    count_map_eq_zero _ hsent, count_map_eq_zero _ hsucceeded]
  omega

section Missing

variable {c : Counters} {channels : List Channel} {last : Channel} {m : Nat}
  (hcount : ∀ u, c.count u + (if .sent last = u then 1 else 0) =
    (lateUpdates channels last m).count u)
include hcount

/-- When all increments but the last one for a record that is sent are counted, all records are. -/
theorem received_of_missing : c.received = m + 1 := by
  have hall := hcount .received
  have hne : Update.sent last ≠ .received := by
    intro h
    cases h
  rw [count_lateUpdates_received, if_neg hne] at hall
  exact hall

/-- The increment that is missing is as good as a result that is. -/
theorem pending_of_missing (ch : Channel) : (c.channel ch).pending = 0 := by
  have hsent : (c.channel ch).sent + (if last = ch then 1 else 0) =
      (m + 1) * (channels ++ [last]).count ch := by
    rw [← count_lateUpdates_sent, ← hcount]
    simp only [Counters.count, Update.sent.injEq]
  have hsucceeded : (c.channel ch).success =
      m * (channels ++ [last]).count ch + channels.count ch := by
    have hne : Update.sent last ≠ .succeeded ch := by
      intro h
      cases h
    rw [← count_lateUpdates_succeeded, ← hcount, if_neg hne]
    rfl
  have hlast : (channels ++ [last]).count ch = channels.count ch + if last = ch then 1 else 0 := by
    rw [List.count_append, List.count_singleton]
    simp only [beq_iff_eq]
  rw [Nat.succ_mul, hlast] at hsent
  rw [hlast] at hsucceeded
  rw [ChannelCounters.pending, ChannelCounters.resolved]
  omega

end Missing

end Counts

/-- What was submitted is the increments of the stage. -/
theorem Stage.submitted_eq (hs : Stage capacity channels us ws n p) (u : Update) :
    p.ledger.submitted u = us.count u := by
  rw [hs.ledger, Ledger.foldl_record, Ledger.submitted, Counters.count_empty, Nat.zero_add,
    ← List.count_append, List.take_append_drop]

/-- When the queue does not hold all that is submitted before it, the last increment for a record
that is sent waits until all others are counted. -/
theorem exists_overtaking (hcap : 0 < capacity) (channels : List Channel) (last : Channel)
    (hn : (channels ++ [last]).Nodup) (m : Nat)
    (hlate : capacity ≤ (2 * (channels ++ [last]).length + 1) * m + channels.length) :
    ∃ p, (prompt capacity (channels ++ [last])).Reaches p ∧ p.moment = {} ∧
      p.accepted.length = m + 1 ∧ p.ledger.Coherent ∧ p.ledger.queue = [] ∧
      p.ledger.overflow = [.sent last] ∧
      ∀ u, p.ledger.submitted u = (lateUpdates channels last m).count u := by
  obtain ⟨p₁, h₁, hphase₁, hs₁⟩ := exists_rounds hcap (channels ++ [last]) Sample.record m
  obtain ⟨p₂, h₂, hphase₂, hs₂⟩ := hs₁.fan hcap hphase₁ Sample.record
  obtain ⟨p₃, h₃, hphase₃, hs₃⟩ := hs₂.deliver_first hcap hphase₂ channels.length
    (by rw [List.length_append]; exact Nat.le_add_right _ _)
  rw [List.take_left] at hs₃
  have hreach := (h₁.trans h₂).trans h₃
  have hcoherent := (Reaches.staged hreach (fresh_prompt hcap hn)).coherent
  -- The last increment for a record that is sent comes when the queue is full.
  have hoverflow : p₃.ledger.overflow =
      (rounds (channels ++ [last]) m ++ channels.map Update.sent).drop capacity ++
        .sent last :: (.received :: channels.map .succeeded) := by
    have hlength :
        capacity ≤ (rounds (channels ++ [last]) m ++ channels.map Update.sent).length := by
      rw [List.length_append, length_rounds, List.length_map]
      exact hlate
    rw [hs₃.ledger, Ledger.foldl_record, ← List.drop_append_of_le_length hlength]
    simp only [List.map_append, List.map_cons, List.map_nil, List.append_assoc, List.cons_append,
      List.nil_append]
  have hfinal : p₃.ledger.final = none := by
    rw [hs₃.ledger, Ledger.foldl_record]
  have hledgerCap : 0 < p₃.ledger.capacity := by
    rw [hs₃.ledger, Ledger.foldl_record]
    exact hcap
  obtain ⟨ledger, hsettles, hqueue, hwaits⟩ :=
    Ledger.exists_settled_but hledgerCap hfinal hoverflow
  refine ⟨{ p₃ with ledger }, hreach.trans (reaches_ledger hsettles), hs₃.moment, hs₃.accepted,
    hsettles.coherent hcoherent, hqueue, hwaits, fun u => ?_⟩
  exact (hsettles.submitted_eq u).trans (hs₃.submitted_eq u)

/-- If the queue is too short there is a run in which the drain test is passed too early. -/
theorem not_drainTestSound (hcap : 0 < capacity) (hn : channels.Nodup) (hne : channels ≠ [])
    (hpos : n ≠ 0)
    (hshort : capacity < (2 * channels.length + 1) * (n - 1) + channels.length) :
    ¬ DrainTestSound capacity channels n := by
  obtain ⟨m, rfl⟩ := Nat.exists_eq_succ_of_ne_zero hpos
  obtain ⟨channels, last, rfl⟩ := (List.eq_nil_or_concat' channels).resolve_left hne
  have hlate : capacity ≤ (2 * (channels ++ [last]).length + 1) * m + channels.length := by
    rw [List.length_append, List.length_singleton] at hshort ⊢
    rw [Nat.succ_sub_one] at hshort
    omega
  obtain ⟨p, hreach, hmoment, haccepted, hcoherent, hqueue, hwaits, hsubmitted⟩ :=
    exists_overtaking hcap channels last hn m hlate
  have hfresh := fresh_prompt hcap hn
  -- All increments but one are counted.
  have hcount : ∀ u, p.ledger.snapshot.count u + (if .sent last = u then 1 else 0) =
      (lateUpdates channels last m).count u := by
    intro u
    rw [hcoherent.snapshot_eq, ← hsubmitted, Ledger.submitted, hqueue, hwaits, List.count_nil,
      List.count_singleton]
    simp only [beq_iff_eq]
    omega
  have hpending := pending_of_missing hcount
  have hreceived := received_of_missing hcount
  -- But one result of the last channel is missing.
  have hcard : (genuine (p.taken last)).card = m := by
    have honce : (channels ++ [last]).count last = 1 :=
      List.count_eq_one_of_mem hn (List.mem_append_right _ (List.mem_singleton.2 rfl))
    have hnone : channels.count last = 0 := by
      rw [List.count_append, List.count_singleton_self] at honce
      omega
    have hfailed : (lateUpdates channels last m).count (.failed last) = 0 :=
      count_lateUpdates_eq_zero _ _ _ (fun _ => Update.noConfusion) Update.noConfusion
        fun _ => Update.noConfusion
    have hcancelled : (lateUpdates channels last m).count (.cancelled last) = 0 :=
      count_lateUpdates_eq_zero _ _ _ (fun _ => Update.noConfusion) Update.noConfusion
        fun _ => Update.noConfusion
    rw [← (hreach.tallies hfresh).submitted_resolved, hsubmitted, hsubmitted, hsubmitted,
      count_lateUpdates_succeeded, honce, hnone, hfailed, hcancelled]
    omega
  have htotal : p.ledger.snapshot.totalPending = 0 :=
    Nat.add_eq_zero_iff.2 ⟨hpending .teams, hpending .email⟩
  intro hsound
  have hall := hsound _ p hfresh rfl (channels_prompt _ _) hreach (by rw [hmoment]) haccepted
    (Nat.le_of_eq hreceived.symm) htotal last (List.mem_append_right _ (List.mem_singleton.2 rfl))
  rw [hcard] at hall
  omega

/-- The drain test is sound exactly if there is nothing to drain or the queue of the ledger holds
all increments that may be submitted before the last one for a record that is sent. -/
theorem drainTestSound_iff (hcap : 0 < capacity) (hn : channels.Nodup) :
    DrainTestSound capacity channels n ↔ channels = [] ∨ n = 0 ∨
      (2 * channels.length + 1) * (n - 1) + channels.length ≤ capacity := by
  constructor
  · intro hsound
    by_contra hnot
    rw [not_or, not_or, Nat.not_le] at hnot
    exact not_drainTestSound hcap hn hnot.1 hnot.2.1 hnot.2.2 hsound
  · rintro (rfl | rfl | hlong)
    · intro p₀ p _ _ _ _ _ _ _ _ ch hch
      cases hch
    · intro p₀ p hp _ hchannels h hun haccepted _ _ ch hch
      have hch' : ch ∈ p.channels := by
        rw [channels_of_kits h.kits_eq, hchannels]
        exact hch
      have hle := h.card_taken_le_accepted hp hun hch'
      rw [haccepted] at hle
      exact Nat.le_zero.1 hle
    · exact drainTestSound_of_le hlong

/-- With one channel a queue for four increments is long enough for two records, and one for three
is not. -/
theorem sample_drainTestSound :
    DrainTestSound 4 [.teams] 2 ∧ ¬ DrainTestSound 3 [.teams] 2 :=
  ⟨(drainTestSound_iff (by decide) (by decide)).2 (by decide),
    fun h => absurd ((drainTestSound_iff (by decide) (by decide)).1 h) (by decide)⟩

/-- With both channels and the shortest queue the drain test fails for a single record. -/
theorem drain_test_fails :
    0 < 1 ∧ [Channel.teams, .email].Nodup ∧ ¬ DrainTestSound 1 [.teams, .email] 1 :=
  ⟨by decide, by decide, not_drainTestSound (by decide) (by decide) (by decide) (by decide)
    (by decide)⟩

end Pipeline

end AlertRelay
