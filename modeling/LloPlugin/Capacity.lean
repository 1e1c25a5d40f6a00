import LloPlugin.Channels

/-!
# The number of channels

`MAX_OUTCOME_CHANNEL_DEFINITIONS_LENGTH` is meant to cap the channel definitions of an outcome.
The addition loop tests `len(outcome.ChannelDefinitions) > MAX_OUTCOME_CHANNEL_DEFINITIONS_LENGTH`
before it inserts, so a map that already holds the maximum still takes one more channel. Along
every run the map holds at most one channel over the maximum, and a run of observations that
each propose one new channel reaches that.

## Main definitions

* `LloPlugin.fillDefinition` — the definition of every channel a run that adds one channel per
  round proposes.

## Main results

* `LloPlugin.Reachable.channelDefinitions_size_le` — at most
  `MAX_OUTCOME_CHANNEL_DEFINITIONS_LENGTH + 1` channels along every run.
* `LloPlugin.channelDefinitions_exceed_max` — every instance without predecessor reaches an
  outcome with `MAX_OUTCOME_CHANNEL_DEFINITIONS_LENGTH + 1` channels.
-/

set_option autoImplicit false

namespace LloPlugin

/-! ### What one step adds -/

theorem removeChannels_size_le (f : Int) :
    ∀ (defs : ChannelDefinitions) (l : List (ChannelID × Nat)),
      (removeChannels f defs l).1.size ≤ defs.size
  | defs, [] => le_rfl
  | defs, e :: l => by
    unfold removeChannels
    split_ifs
    · exact removeChannels_size_le f defs l
    · exact (removeChannels_size_le f _ l).trans GoMap.size_erase_le

variable {p : LLOPlugin} {ord : OutcomeOrders}

/-- A step adds channels only while the map holds at most
`MAX_OUTCOME_CHANNEL_DEFINITIONS_LENGTH`. -/
theorem step_channelDefinitions_size_le {seqNr : Nat} {prev o' : Outcome}
    {aos : List (Payload Observation)} (hs : 1 < seqNr)
    (h : p.outcome ord ⟨seqNr, .encoded prev⟩ aos = .ok o') :
    o'.channelDefinitions.size ≤
      max prev.channelDefinitions.size (maxOutcomeChannelDefinitionsLength + 1) := by
  obtain ⟨t, -, hstep⟩ := outcomeStep_eq_ok (outcome_eq_outcomeStep hs h)
  rw [hstep.channelDefinitions]
  by_cases hr : o'.lifeCycleStage = lifeCycleStageRetired
  · rw [hr, editChannelDefinitions_retired]
    exact le_max_left _ _
  · rw [editChannelDefinitions_of_ne_retired hr]
    dsimp only
    have h₁ := @addChannels_size_le p.f t.addChannelVotesByHash
      (removeChannels p.f prev.channelDefinitions
        (ord.removeChannelVotesByID.order t.removeChannelVotesByID.toList)).1
      (ord.addChannelDefinitionsByHash.order t.addChannelDefinitionsByHash.toList)
    have h₂ := removeChannels_size_le p.f prev.channelDefinitions
      (ord.removeChannelVotesByID.order t.removeChannelVotesByID.toList)
    omega

/-! ### A run that fills the map -/

/-- The definition of every channel the filling run adds. -/
def fillDefinition : ChannelDefinition := ⟨reportFormatJSON, knownSelector, []⟩

/-- The filling run after `n` rounds: a production outcome whose channels are `0, …, n-1`. -/
theorem fill_run (hpcd : p.predecessorConfigDigest = none) (hf : 0 ≤ p.f) :
    ∀ n ≤ maxOutcomeChannelDefinitionsLength + 1, ∃ o, Reachable p o ∧
      o.lifeCycleStage = lifeCycleStageProduction ∧ (∃ s, o.observationsTimestampSeconds = .ok s) ∧
      (∀ c : ChannelID, c ∈ o.channelDefinitions ↔ c.toNat < n) ∧ o.channelDefinitions.size = n
  | 0, _ => ⟨p.initialOutcome, .init .ascending ⟨1, .empty⟩ _ le_rfl
      (outcome_initial (length_proposalRound hf 0 fillDefinition) le_rfl),
      by simp [LLOPlugin.initialOutcome, hpcd], ⟨0, rfl⟩,
      fun c => by simp [Outcome.channelDefinitions, LLOPlugin.initialOutcome], rfl⟩
  | n + 1, hn => by
    unfold maxOutcomeChannelDefinitionsLength at hn
    obtain ⟨o, ho, hstage, ⟨s, hts⟩, hmem, hsize⟩ := fill_run hpcd hf n (by
      unfold maxOutcomeChannelDefinitionsLength; omega)
    have hlt : n < UInt32.size := by simp only [UInt32.size]; omega
    have hi : UInt32.ofNat n ∉ o.channelDefinitions := by
      rw [hmem, UInt32.toNat_ofNat_of_lt hlt]
      exact lt_irrefl n
    obtain ⟨o', hstep, hstage', hts', hdefs⟩ := @proposal_step p .ascending _ _ fillDefinition
      (n + 2) _ hf (by omega) hstage hts hi (by unfold maxOutcomeChannelDefinitionsLength; omega)
    refine ⟨o', ho.step .ascending (n + 2) _ (by omega) hstep, hstage', ⟨1, hts'⟩, fun c => ?_, ?_⟩
    · have hc : c = UInt32.ofNat n ↔ c.toNat = n :=
        ⟨fun h => h ▸ UInt32.toNat_ofNat_of_lt hlt,
          fun h => UInt32.toNat.inj (h.trans (UInt32.toNat_ofNat_of_lt hlt).symm)⟩
      rw [hdefs, GoMap.mem_insert, hmem, hc]
      omega
    · rw [hdefs, GoMap.size_insert, if_neg hi, hsize]

/-! ### One channel over the maximum, and no more -/

/-- **At most one channel over the maximum.** Every outcome of a run holds at most
`MAX_OUTCOME_CHANNEL_DEFINITIONS_LENGTH + 1` channel definitions. -/
theorem Reachable.channelDefinitions_size_le {o : Outcome} (h : Reachable p o) :
    o.channelDefinitions.size ≤ maxOutcomeChannelDefinitionsLength + 1 := by
  induction h with
  | init ord outctx aos hs h =>
    rw [outcome_of_seqNr_le_one hs h]
    exact Nat.zero_le _
  | step ord seqNr aos _ hs h ih =>
    exact (step_channelDefinitions_size_le hs h).trans (max_le ih le_rfl)

/-- The bound is reached: the filling run's outcome after 501 rounds of an instance with
`f = 1`. -/
theorem Reachable.channelDefinitions_size_le_filled :
    ∃ o, Reachable (runPlugin 1 none rejectAll) o ∧
      o.channelDefinitions.size = maxOutcomeChannelDefinitionsLength + 1 ∧
      o.channelDefinitions.size ≤ maxOutcomeChannelDefinitionsLength + 1 :=
  let ⟨o, ho, _, _, _, hsize⟩ := fill_run (p := runPlugin 1 none rejectAll) rfl (by decide) _ le_rfl
  ⟨o, ho, hsize, Reachable.channelDefinitions_size_le ho⟩

/-- **The cap admits one channel too many.** Every instance without predecessor, for any
`MakeChannelHash`, reaches an outcome with `MAX_OUTCOME_CHANNEL_DEFINITIONS_LENGTH + 1` channel
definitions: `proposalRound` adds one channel per round, and the round that finds the maximum
already reached adds one more. -/
theorem channelDefinitions_exceed_max (hpcd : p.predecessorConfigDigest = none) (hf : 0 ≤ p.f) :
    ∃ o, Reachable p o ∧ o.channelDefinitions.size = maxOutcomeChannelDefinitionsLength + 1 :=
  let ⟨o, ho, _, _, _, hsize⟩ := fill_run hpcd hf _ le_rfl
  ⟨o, ho, hsize⟩

theorem channelDefinitions_exceed_max_run :
    (runPlugin 1 none rejectAll).predecessorConfigDigest = none ∧
      0 ≤ (runPlugin 1 none rejectAll).f ∧
      ∃ o, Reachable (runPlugin 1 none rejectAll) o ∧
        o.channelDefinitions.size = maxOutcomeChannelDefinitionsLength + 1 :=
  ⟨rfl, by decide, channelDefinitions_exceed_max rfl (by decide)⟩

end LloPlugin
