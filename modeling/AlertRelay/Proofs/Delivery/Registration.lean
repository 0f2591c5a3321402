import AlertRelay.Delivery.Sender
import Mathlib.Data.List.Induction
import Mathlib.Data.List.Nodup

/-!
# Registration of senders

A sender takes the place of an earlier one for the same channel, and one for a new channel comes
last. `Registers` says what this makes of any sequence of registrations: the channels are all
different and stand in the order in which they came up first, and the sender for each is the last
one that was registered for it. One registration keeps this (`Registers.concat`), so it holds of all
of them (`registers_registerAll`).
-/

namespace AlertRelay

/-- The last sender for a channel. -/
def lastFor? (senders : List Sender) (ch : Channel) : Option Sender :=
  (senders.filter fun s => s.channel == ch).getLast?

/-- The first sender for a channel comes before the first one for another channel. -/
def ComesBefore (senders : List Sender) (ch ch' : Channel) : Prop :=
  (senders.map Sender.channel).idxOf ch < (senders.map Sender.channel).idxOf ch'

/-- What is registered after some registrations. -/
structure Registers (senders registered : List Sender) : Prop where
  nodup : (registered.map Sender.channel).Nodup
  ordered : (registered.map Sender.channel).Pairwise (ComesBefore senders)
  /-- A sender is registered exactly if it is the last one for its channel. -/
  mem_iff : ∀ s, s ∈ registered ↔ lastFor? senders s.channel = some s

variable {senders registered : List Sender} {s t : Sender} {ch ch' : Channel}

theorem lastFor?_concat (senders : List Sender) (s : Sender) (ch : Channel) :
    lastFor? (senders ++ [s]) ch = if s.channel = ch then some s else lastFor? senders ch := by
  unfold lastFor?
  rw [List.filter_append]
  by_cases hch : s.channel = ch
  · simp [hch]
  · simp [hch]

theorem mem_of_lastFor? (h : lastFor? senders ch = some s) : s ∈ senders ∧ s.channel = ch := by
  have hmem := List.mem_of_getLast? h
  rw [List.mem_filter, beq_iff_eq] at hmem
  exact hmem

/-- Some sender is the last one for a channel if there is any. -/
theorem exists_lastFor? (h : ch ∈ senders.map Sender.channel) :
    ∃ s, lastFor? senders ch = some s := by
  obtain ⟨s, hs, rfl⟩ := List.mem_map.1 h
  have hfilter : s ∈ senders.filter fun t => t.channel == s.channel :=
    List.mem_filter.2 ⟨hs, beq_self_eq_true _⟩
  exact ⟨_, List.getLast?_eq_some_getLast (List.ne_nil_of_mem hfilter)⟩

/-- Channels that came up keep their order. -/
theorem ComesBefore.concat (h : ComesBefore senders ch ch')
    (hch : ch ∈ senders.map Sender.channel) (hch' : ch' ∈ senders.map Sender.channel)
    (s : Sender) : ComesBefore (senders ++ [s]) ch ch' := by
  unfold ComesBefore at h ⊢
  rwa [List.map_append, List.idxOf_append_of_mem hch, List.idxOf_append_of_mem hch']

/-- A new channel comes after all others. -/
theorem comesBefore_concat (hch : ch ∈ senders.map Sender.channel)
    (hnew : s.channel ∉ senders.map Sender.channel) :
    ComesBefore (senders ++ [s]) ch s.channel := by
  unfold ComesBefore
  rw [List.map_append, List.idxOf_append_of_mem hch, List.idxOf_append_of_notMem hnew]
  exact Nat.lt_of_lt_of_le (List.idxOf_lt_length_of_mem hch) (Nat.le_add_right _ _)

/-- No channel comes before itself. -/
theorem nodup_of_ordered {channels : List Channel} (h : channels.Pairwise (ComesBefore senders)) :
    channels.Nodup := by
  refine h.imp ?_
  rintro ch _ hlt rfl
  exact Nat.lt_irrefl _ hlt

namespace Registers

/-- The channels that have a sender are those for which one was registered. -/
theorem mem_channels_iff (h : Registers senders registered) :
    ch ∈ registered.map Sender.channel ↔ ch ∈ senders.map Sender.channel := by
  constructor
  · intro hch
    obtain ⟨s, hs, rfl⟩ := List.mem_map.1 hch
    exact List.mem_map_of_mem (mem_of_lastFor? ((h.mem_iff s).1 hs)).1
  · intro hch
    obtain ⟨s, hs⟩ := exists_lastFor? hch
    obtain rfl := (mem_of_lastFor? hs).2
    exact List.mem_map_of_mem ((h.mem_iff s).2 hs)

end Registers

/-! ### One registration -/

theorem any_channel_iff :
    (senders.any fun t => t.channel == ch) = true ↔ ch ∈ senders.map Sender.channel := by
  simp

/-- A sender for a channel that has one takes its place. -/
theorem registerSender_of_mem (h : s.channel ∈ registered.map Sender.channel) :
    registerSender registered s =
      registered.map fun t => if t.channel = s.channel then s else t := by
  rw [registerSender, if_pos (any_channel_iff.2 h)]
  simp only [beq_iff_eq]

/-- A sender for a new channel comes last. -/
theorem registerSender_of_not_mem (h : s.channel ∉ registered.map Sender.channel) :
    registerSender registered s = registered ++ [s] := by
  rw [registerSender, if_neg (fun hany => h (any_channel_iff.1 hany))]

/-- The channels of the senders after one more registration. -/
theorem channels_registerSender (registered : List Sender) (s : Sender) :
    (registerSender registered s).map Sender.channel =
      if s.channel ∈ registered.map Sender.channel then registered.map Sender.channel
      else registered.map Sender.channel ++ [s.channel] := by
  split
  · rw [registerSender_of_mem ‹_›, List.map_map]
    refine List.map_congr_left ?_
    intro t _
    rw [Function.comp_apply]
    split
    · exact Eq.symm ‹_›
    · rfl
  · rw [registerSender_of_not_mem ‹_›, List.map_append, List.map_singleton]

/-- After one more registration, its sender is there and all for other channels. -/
theorem mem_registerSender :
    t ∈ registerSender registered s ↔ t = s ∨ t ∈ registered ∧ t.channel ≠ s.channel := by
  by_cases hch : s.channel ∈ registered.map Sender.channel
  · rw [registerSender_of_mem hch, List.mem_map]
    constructor
    · rintro ⟨u, hu, rfl⟩
      split
      · exact .inl rfl
      · exact .inr ⟨hu, ‹_›⟩
    · rintro (rfl | ⟨ht, hne⟩)
      · obtain ⟨u, hu, hsame⟩ := List.mem_map.1 hch
        exact ⟨u, hu, if_pos hsame⟩
      · exact ⟨t, ht, if_neg hne⟩
  · rw [registerSender_of_not_mem hch, List.mem_append, List.mem_singleton]
    constructor
    · rintro (ht | rfl)
      · refine .inr ⟨ht, fun hsame => hch ?_⟩
        rw [← hsame]
        exact List.mem_map_of_mem ht
      · exact .inl rfl
    · rintro (rfl | ⟨ht, -⟩)
      · exact .inr rfl
      · exact .inl ht

namespace Registers

/-- The channels stay in order. -/
theorem ordered_registerSender (h : Registers senders registered) (s : Sender) :
    ((registerSender registered s).map Sender.channel).Pairwise
      (ComesBefore (senders ++ [s])) := by
  have hold : (registered.map Sender.channel).Pairwise (ComesBefore (senders ++ [s])) :=
    h.ordered.imp_of_mem fun hch hch' hbefore =>
      hbefore.concat (h.mem_channels_iff.1 hch) (h.mem_channels_iff.1 hch') s
  rw [channels_registerSender]
  split
  · exact hold
  · rename_i hnew
    refine List.pairwise_append.2 ⟨hold, List.pairwise_singleton _ _, fun ch hch ch' hch' => ?_⟩
    rw [List.mem_singleton.1 hch']
    exact comesBefore_concat (h.mem_channels_iff.1 hch) (mt h.mem_channels_iff.2 hnew)

/-- One more registration. -/
theorem concat (h : Registers senders registered) (s : Sender) :
    Registers (senders ++ [s]) (registerSender registered s) where
  nodup := nodup_of_ordered (h.ordered_registerSender s)
  ordered := h.ordered_registerSender s
  mem_iff t := by
    rw [mem_registerSender, lastFor?_concat]
    split
    · rename_i hch
      rw [Option.some_inj, or_iff_left (fun h => h.2 hch.symm), eq_comm]
    · rename_i hch
      rw [h.mem_iff, and_iff_left (Ne.symm hch), or_iff_right]
      rintro rfl
      exact hch rfl

end Registers

/-! ### All registrations -/

/-- One sender is registered for each channel, the last one, in the order of the first ones. -/
theorem registers_registerAll (senders : List Sender) : Registers senders (registerAll senders) := by
  induction senders using List.reverseRecOn with
  | nil =>
    exact
      { nodup := List.nodup_nil
        ordered := List.Pairwise.nil
        mem_iff := fun s => by simp [registerAll, lastFor?] }
  | append_singleton senders s ih =>
    rw [registerAll, List.foldl_append]
    exact ih.concat s

end AlertRelay
