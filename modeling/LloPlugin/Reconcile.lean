import LloPlugin.Observation
import LloPlugin.Determinism

/-!
# Reconciling the channel definitions

Correct oracles bring the channel definitions of the outcome to the set their channel
definition cache expects. In every round each of them votes to remove the first
`MAX_OBSERVATION_REMOVE_CHANNEL_IDS_LENGTH` channels the outcome has and the cache lacks, and
proposes the first `MAX_OBSERVATION_ADD_CHANNEL_DEFINITIONS_LENGTH` channels the cache has and
the outcome lacks. All of them name the same channels, so every vote passes: each round takes
five channels off the stale ones, and five off the missing ones unless the outcome runs over
`MAX_OUTCOME_CHANNEL_DEFINITIONS_LENGTH`, when fewer channels are missing than stale. Both
differences are empty after `⌈max(stale, missing)/5⌉` rounds, from an outcome of any size.

What the oracles never repair is a channel that both sides define, differently:
`subtractChannelDefinitions` compares channel IDs only, so no oracle votes on such a channel
and the outcome keeps its definition for ever.

## Main definitions

* `LloPlugin.staleChannels`, `LloPlugin.missingChannels` — the channel IDs the outcome has and
  the cache lacks, and the other way round.
* `LloPlugin.CorrectRound`, `LloPlugin.CorrectRun` — rounds of correct oracles whose caches
  answer the same channel definitions.

## Main results

* `LloPlugin.CorrectRound.step` — what one correct round does to the channel definitions.
* `LloPlugin.CorrectRun.agreeing` — along a correct run both differences stay below
  `max(stale, missing) - 5n`.
* `LloPlugin.channelDefinitions_reconciled` — after `⌈max(stale, missing)/5⌉` rounds the
  outcome's channel definitions are the expected ones, and stay so, when the two agree on every
  channel both define.
* `LloPlugin.conflicting_definition_never_reconciled` — a reachable outcome and a cache that
  define their one channel differently: no correct run ever reaches the expected definitions.

## Implementation notes

In a correct round every observation is built by `Observation` from the previous outcome with
the same answer `E` of the channel definition cache; at most `f` of them vote to retire, and
every attested retirement report they carry passes `CheckAttestedRetirementReport`. The
oracles' clocks, data sources, caches for the retirement report and iteration orders are
arbitrary.
-/

set_option autoImplicit false

namespace LloPlugin

/-- The channels `defs` has and `E` lacks, ascending. -/
def staleChannels (defs E : ChannelDefinitions) : List ChannelID := defs.keys.filter (· ∉ E)

/-- The channels `E` has and `defs` lacks, ascending. -/
def missingChannels (defs E : ChannelDefinitions) : List ChannelID := E.keys.filter (· ∉ defs)

/-- The definitions every correct oracle proposes: the first
`MAX_OBSERVATION_ADD_CHANNEL_DEFINITIONS_LENGTH` channels that `E` has and the previous outcome
lacks. -/
def proposedChannels (prev : Outcome) (E : ChannelDefinitions) : ChannelDefinitions :=
  subtractChannelDefinitions .ascending E prev.channelDefinitions
    maxObservationAddChannelDefinitionsLength

/-- A round of correct oracles whose channel definition caches answer `E`, at sequence number
`seqNr` after the outcome `prev`: the decoded observations `acc`. -/
structure CorrectRound (p : LLOPlugin) (E : ChannelDefinitions) (seqNr : Nat) (prev : Outcome)
    (acc : List Observation) : Prop where
  produced : ∀ o ∈ acc, ∃ ord env, env.definitions = E ∧
    p.observation ord env ⟨seqNr, .encoded prev⟩ = .ok (.encoded o)
  quorum : 2 * p.f + 1 ≤ acc.length
  retireVotes : (acc.countP (·.shouldRetire) : Int) ≤ p.f
  reports : ∀ o ∈ acc, o.attestedPredecessorRetirement ≠ [] → ∃ pcd R,
    p.predecessorConfigDigest = some pcd ∧
      p.checkAttestedRetirementReport pcd o.attestedPredecessorRetirement = .ok R

/-- `n` correct rounds from the outcome `O` to `O'`, each an `ok` result of `Outcome` above
sequence number 1. -/
inductive CorrectRun (p : LLOPlugin) (E : ChannelDefinitions) : Nat → Outcome → Outcome → Prop
  | refl (O : Outcome) : CorrectRun p E 0 O O
  | step {n : Nat} {O O' O'' : Outcome} (ord : OutcomeOrders) (seqNr : Nat)
      (acc : List Observation) :
      CorrectRun p E n O O' → 1 < seqNr → CorrectRound p E seqNr O' acc →
      p.outcome ord ⟨seqNr, .encoded O'⟩ (acc.map .encoded) = .ok O'' →
      CorrectRun p E (n + 1) O O''

/-! ### Lists and maps -/

/-- Filtering out the first `k` elements of a list without duplicates leaves the rest. -/
theorem filter_not_mem_take {α : Type} [DecidableEq α] {l : List α} (hl : l.Nodup) (k : Nat) :
    l.filter (fun a => a ∉ l.take k) = l.drop k := by
  set t := l.take k
  have hdisj := List.disjoint_take_drop hl (le_refl k)
  nth_rewrite 1 [← List.take_append_drop k l]
  rw [List.filter_append, List.filter_eq_nil_iff.2 fun a ha => by simpa using ha,
    List.filter_eq_self.2 fun a ha => by simpa using fun h => hdisj h ha, List.nil_append]

theorem length_le_of_nodup_subset {α : Type} {l l' : List α} (hl : l.Nodup) (h : l ⊆ l') :
    l.length ≤ l'.length :=
  (List.subperm_of_subset hl h).length_le

theorem HashInjective.mono {p : LLOPlugin} {S S' : ChannelDefinitions} (h : HashInjective p S)
    (hS : ∀ e ∈ S'.toList, e ∈ S.toList) : HashInjective p S' :=
  fun e₁ h₁ e₂ h₂ => h e₁ (hS e₁ h₁) e₂ (hS e₂ h₂)

theorem mem_of_find?_imp {R defs : ChannelDefinitions}
    (h : ∀ c d, R.find? c = some d → defs.find? c = some d) {c : ChannelID} (hc : c ∈ R) :
    c ∈ defs := by
  obtain ⟨d, hd⟩ := Option.isSome_iff_exists.1 (GoMap.mem_iff_isSome.1 hc)
  exact GoMap.mem_iff_isSome.2 (by rw [h c d hd]; rfl)

section Proposed

variable (prev : Outcome) (E : ChannelDefinitions)

theorem mem_toList_proposedChannels {e : ChannelID × ChannelDefinition}
    (he : e ∈ (proposedChannels prev E).toList) : e ∈ E.toList := by
  rw [proposedChannels, subtractChannelDefinitions_toList] at he
  exact List.mem_of_mem_filter (List.mem_of_mem_take he)

theorem keys_proposedChannels :
    (proposedChannels prev E).keys = (missingChannels prev.channelDefinitions E).take
      maxObservationAddChannelDefinitionsLength :=
  keys_subtractChannelDefinitions _ _ _ _

theorem find?_proposedChannels {c : ChannelID} {d : ChannelDefinition}
    (h : (proposedChannels prev E).find? c = some d) : E.find? c = some d :=
  GoMap.mem_toList_iff.1 (mem_toList_proposedChannels prev E (GoMap.mem_toList_iff.2 h))

theorem mem_of_mem_proposedChannels {c : ChannelID} (h : c ∈ proposedChannels prev E) : c ∈ E := by
  rw [GoMap.mem_iff_mem_keys, keys_proposedChannels] at h
  exact GoMap.mem_iff_mem_keys.2 (List.mem_of_mem_filter (List.mem_of_mem_take h))

theorem not_mem_of_mem_proposedChannels {c : ChannelID} (h : c ∈ proposedChannels prev E) :
    c ∉ prev.channelDefinitions := by
  rw [GoMap.mem_iff_mem_keys, keys_proposedChannels] at h
  simpa using (List.mem_filter.1 (List.mem_of_mem_take h)).2

end Proposed

/-- The addition loop's candidates, looked up by channel ID, are the definitions they list. -/
theorem find?_candidates_of_perm {cands : List (ChannelHash × ChannelDefinitionWithID)}
    {S : ChannelDefinitions}
    (hperm : (cands.map fun e => (e.2.channelID, e.2.channelDefinition)).Perm S.toList)
    (c : ChannelID) :
    (cands.find? (·.2.channelID = c)).map (·.2.channelDefinition) = S.find? c := by
  cases hfind : cands.find? (·.2.channelID = c) with
  | some e =>
    have hc : e.2.channelID = c := by simpa using List.find?_some hfind
    have he := hperm.subset (List.mem_map_of_mem _ (List.mem_of_find?_eq_some hfind))
    rw [hc] at he
    exact (GoMap.mem_toList_iff.1 he).symm
  | none =>
    refine (Option.eq_none_iff_forall_not_mem.2 fun d hd => ?_).symm
    obtain ⟨e, he, hed⟩ := List.mem_map.1 (hperm.symm.subset (GoMap.mem_toList_iff.2 hd))
    simpa [(Prod.mk.inj hed).1] using List.find?_eq_none.1 hfind e he

/-- The expected channels a map has and those it lacks are distinct expected channels. -/
theorem length_filter_mem_add_length_missing_le (defs E : ChannelDefinitions) :
    (defs.keys.filter (· ∈ E)).length + (missingChannels defs E).length ≤ E.size := by
  show _ ≤ E.toList.length
  rw [← List.length_append, ← List.length_map E.toList Prod.fst]
  refine length_le_of_nodup_subset (List.nodup_append.2 ⟨(GoMap.keys_nodup _).filter _,
    (GoMap.keys_nodup _).filter _, fun c hc hc' => ?_⟩) fun c hc => ?_
  · exact (by simpa using (List.mem_filter.1 hc').2 : c ∉ defs)
      (GoMap.mem_iff_mem_keys.2 (List.mem_of_mem_filter hc))
  · rcases List.mem_append.1 hc with hc | hc
    · exact GoMap.mem_iff_mem_keys.1 (by simpa using (List.mem_filter.1 hc).2)
    · exact List.mem_of_mem_filter hc

/-- A map's channels are its expected ones and its stale ones. -/
theorem size_eq_length_filter_mem_add_length_stale (defs E : ChannelDefinitions) :
    defs.size = (defs.keys.filter (· ∈ E)).length + (staleChannels defs E).length := by
  rw [show defs.size = defs.keys.length from (List.length_map _ _).symm,
    List.length_eq_length_filter_add (· ∈ E)]
  simp only [staleChannels, decide_not]

/-- **A map over the cap lacks fewer expected channels than it has stale ones**, since at most
`MAX_OUTCOME_CHANNEL_DEFINITIONS_LENGTH` channels are expected. -/
theorem length_missing_lt_stale_of_full {defs E : ChannelDefinitions}
    (hE : E.size ≤ maxOutcomeChannelDefinitionsLength)
    (hfull : maxOutcomeChannelDefinitionsLength < defs.size) :
    (missingChannels defs E).length < (staleChannels defs E).length := by
  have h₁ := length_filter_mem_add_length_missing_le defs E
  have h₂ := size_eq_length_filter_mem_add_length_stale defs E
  omega

/-- **Room for the proposed channels.** After removing the first five stale channels from an
outcome of at most `MAX_OUTCOME_CHANNEL_DEFINITIONS_LENGTH + 1` channels, the channels proposed
towards at most `MAX_OUTCOME_CHANNEL_DEFINITIONS_LENGTH` expected ones fit under the cap: when
there were five stale channels the map lost five, and otherwise it keeps only expected
channels. -/
theorem size_add_size_proposedChannels_le {prev : Outcome} {E R : ChannelDefinitions}
    (hsub : ∀ c ∈ R, c ∈ prev.channelDefinitions)
    (hgone : ∀ c ∈ (staleChannels prev.channelDefinitions E).take
      maxObservationRemoveChannelIDsLength, c ∉ R)
    (hsize : prev.channelDefinitions.size ≤ maxOutcomeChannelDefinitionsLength + 1)
    (hE : E.size ≤ maxOutcomeChannelDefinitionsLength) :
    R.size + (proposedChannels prev E).size ≤ maxOutcomeChannelDefinitionsLength + 1 := by
  set K := prev.channelDefinitions.keys
  set st := staleChannels prev.channelDefinitions E
  set mi := missingChannels prev.channelDefinitions E
  have hKnd : K.Nodup := GoMap.keys_nodup _
  have hstnd : (st.take maxObservationRemoveChannelIDsLength).Nodup :=
    (hKnd.filter _).sublist (List.take_sublist _ _)
  -- the kept channels and the five removed ones are distinct channels of the previous outcome
  have hkept : R.keys.length + (st.take maxObservationRemoveChannelIDsLength).length ≤ K.length := by
    rw [← List.length_append]
    refine length_le_of_nodup_subset (List.nodup_append.2 ⟨GoMap.keys_nodup _, hstnd,
      fun c hc hc' => hgone c hc' (GoMap.mem_iff_mem_keys.2 hc)⟩) fun c hc => ?_
    rcases List.mem_append.1 hc with hc | hc
    · exact GoMap.mem_iff_mem_keys.1 (hsub c (GoMap.mem_iff_mem_keys.2 hc))
    · exact List.mem_of_mem_filter (List.mem_of_mem_take hc)
  -- the expected channels the previous outcome has, and those it lacks, are distinct
  have hshared : (K.filter (· ∈ E)).length + mi.length ≤ E.size :=
    length_filter_mem_add_length_missing_le prev.channelDefinitions E
  have hfew : st.length < maxObservationRemoveChannelIDsLength →
      R.keys.length ≤ (K.filter (· ∈ E)).length := fun hlt => by
    refine length_le_of_nodup_subset (GoMap.keys_nodup _) fun c hc => ?_
    have hcK := GoMap.mem_iff_mem_keys.1 (hsub c (GoMap.mem_iff_mem_keys.2 hc))
    refine List.mem_filter.2 ⟨hcK, decide_eq_true (by_contra fun hcE => ?_)⟩
    exact hgone c (by rw [List.take_of_length_le hlt.le]; exact List.mem_filter.2 ⟨hcK, by simpa⟩)
      (GoMap.mem_iff_mem_keys.2 hc)
  have hprop : (proposedChannels prev E).size ≤ min maxObservationAddChannelDefinitionsLength
      mi.length := by
    rw [GoMap.size, ← List.length_map _ Prod.fst, ← GoMap.keys, keys_proposedChannels,
      List.length_take]
  rw [List.length_take] at hkept
  have hR : R.size = R.keys.length := (List.length_map _ _).symm
  have hK : K.length = prev.channelDefinitions.size := List.length_map _ _
  unfold maxOutcomeChannelDefinitionsLength maxObservationAddChannelDefinitionsLength
    maxObservationRemoveChannelIDsLength at *
  omega

/-! ### One correct round -/

section Round

variable {p : LLOPlugin} {E : ChannelDefinitions} {seqNr : Nat} {prev : Outcome}
  {acc : List Observation}

/-- Observations whose attested retirement reports all pass the check are all counted. -/
theorem screenObservations_of_reports :
    ∀ (acc : List Observation) (kept : Option RetirementReport),
      (∀ o ∈ acc, o.attestedPredecessorRetirement ≠ [] → ∃ pcd R,
        p.predecessorConfigDigest = some pcd ∧
          p.checkAttestedRetirementReport pcd o.attestedPredecessorRetirement = .ok R) →
      ∃ k, p.screenObservations kept (acc.map .encoded) = .ok (k, acc)
  | [], kept, _ => ⟨kept, rfl⟩
  | o :: acc, kept, h => by
    have hadmit : ∃ k', p.admitObservation kept (.encoded o) = .ok (some (o, k')) := by
      unfold LLOPlugin.admitObservation
      dsimp only [Payload.unmarshal]
      split_ifs with ha
      · obtain ⟨pcd, R, hpcd, hR⟩ := h o (List.mem_cons_self _ _) ha.1
        exact ⟨some R, by simp [hpcd, hR]⟩
      · exact ⟨kept, rfl⟩
    obtain ⟨k', hk'⟩ := hadmit
    obtain ⟨k, hk⟩ := screenObservations_of_reports acc k' fun o' ho' =>
      h o' (List.mem_cons_of_mem _ ho')
    exact ⟨k, by simp only [List.map_cons, LLOPlugin.screenObservations, hk', hk]; rfl⟩

namespace CorrectRound

/-- Each observation of a correct round carries the channel votes of `Observation`. -/
theorem votes (h : CorrectRound p E seqNr prev acc) (hs : 1 < seqNr) {o : Observation}
    (ho : o ∈ acc) : ∃ ord : ObservationOrders,
      o.removeChannelIDs = (channelVotes ord prev E).1 ∧
        o.addChannelDefinitions = (channelVotes ord prev E).2 := by
  obtain ⟨ord, env, hE, hobs⟩ := h.produced o ho
  obtain ⟨-, -, -, -, -, -, rfl⟩ := buildObservation_eq_ok (buildObservation_of_observation hs hobs)
  exact ⟨ord, by rw [hE], by rw [hE]⟩

/-- All correct oracles propose the same definitions. -/
theorem proposes (h : CorrectRound p E seqNr prev acc) (hs : 1 < seqNr) :
    Proposes (proposedChannels prev E) acc := fun o ho => by
  obtain ⟨ord, -, hadd⟩ := h.votes hs ho
  rw [hadd]
  exact GoMap.toList_injective (by
    simp only [channelVotes, proposedChannels, subtractChannelDefinitions_toList])

theorem mem_removeChannelIDs (h : CorrectRound p E seqNr prev acc) (hs : 1 < seqNr)
    {o : Observation} (ho : o ∈ acc) {c : ChannelID}
    (hc : c ∈ (staleChannels prev.channelDefinitions E).take
      maxObservationRemoveChannelIDsLength) : c ∈ o.removeChannelIDs := by
  obtain ⟨ord, hrem, -⟩ := h.votes hs ho
  rw [hrem]
  exact mem_channelVotes_removals E ord prev hc

theorem not_mem_of_mem_removeChannelIDs (h : CorrectRound p E seqNr prev acc) (hs : 1 < seqNr)
    {o : Observation} (ho : o ∈ acc) {c : ChannelID} (hc : c ∈ o.removeChannelIDs) :
    c ∉ E := by
  obtain ⟨ord, hrem, -⟩ := h.votes hs ho
  exact not_mem_of_mem_channelVotes_removals E ord prev (hrem ▸ hc)

theorem length_pos (h : CorrectRound p E seqNr prev acc) (hf : 0 ≤ p.f) :
    p.f < acc.length := by
  have := h.quorum
  omega

/-- The step of a correct round, read off through its tally: all observations are counted. -/
theorem stepOf (h : CorrectRound p E seqNr prev acc) (hs : 1 < seqNr) {ord : OutcomeOrders}
    {o' : Outcome} (ho' : p.outcome ord ⟨seqNr, .encoded prev⟩ (acc.map .encoded) = .ok o') :
    ∃ k, StepOf p ord prev
      { acc.foldl (p.countObservation ord) Tally.init with validPredecessorRetirementReport := k }
      o' := by
  obtain ⟨t, ht, hstep⟩ := outcomeStep_eq_ok (outcome_eq_outcomeStep hs ho')
  obtain ⟨k, acc', hscreen, rfl⟩ := tally_eq ht
  obtain ⟨k₀, hk₀⟩ := screenObservations_of_reports acc none h.reports
  obtain ⟨-, rfl⟩ := Prod.mk.inj (GoResult.ok.inj (hk₀.symm.trans hscreen))
  exact ⟨k, hstep⟩

/-- A correct round does not retire an outcome that is not retired. -/
theorem lifeCycleStage_ne_retired (h : CorrectRound p E seqNr prev acc) (hs : 1 < seqNr)
    (hprev : prev.lifeCycleStage ≠ lifeCycleStageRetired) {ord : OutcomeOrders} {o' : Outcome}
    (ho' : p.outcome ord ⟨seqNr, .encoded prev⟩ (acc.map .encoded) = .ok o') :
    o'.lifeCycleStage ≠ lifeCycleStageRetired := by
  obtain ⟨k, hstep⟩ := h.stepOf hs ho'
  have hv : ((acc.foldl (p.countObservation ord) Tally.init).shouldRetireVotes : Int) ≤ p.f := by
    simpa [foldl_countObservation_shouldRetireVotes, Tally.init] using h.retireVotes
  rw [hstep.lifeCycleStage_eq]
  show nextLifeCycleStage p.f prev.lifeCycleStage k
    (acc.foldl (p.countObservation ord) Tally.init).shouldRetireVotes ≠ lifeCycleStageRetired
  rcases nextLifeCycleStage_cases p.f prev.lifeCycleStage k
      (acc.foldl (p.countObservation ord) Tally.init).shouldRetireVotes with
    ⟨he, -, -⟩ | ⟨-, -, he | ⟨-, hlt⟩⟩ | ⟨-, hlt, -⟩
  · rw [he]
    exact hprev
  · rw [he]
    exact retired_ne_production.symm
  all_goals omega

variable (ord : OutcomeOrders)

/-- The removal loop of a correct round keeps every expected channel: no correct oracle votes
to remove it. -/
theorem removeChannels_find?_of_mem (h : CorrectRound p E seqNr prev acc) (hs : 1 < seqNr)
    (hf : 0 ≤ p.f) {c : ChannelID} (hc : c ∈ E) :
    (removeChannels p.f prev.channelDefinitions (ord.removeChannelVotesByID.order
      (acc.foldl (p.countObservation ord) Tally.init).removeChannelVotesByID.toList)).1.find? c =
      prev.channelDefinitions.find? c := by
  rw [removeChannels_find?, if_neg]
  intro hvote
  have h0 := lt_findD_of_vote (ord.removeChannelVotesByID.perm _) hvote
  rw [removeVotes_eq_countP, List.countP_eq_zero.2 fun o ho hmem =>
    h.not_mem_of_mem_removeChannelIDs hs ho (of_decide_eq_true hmem) hc] at h0
  omega

/-- The removal loop of a correct round removes the first five stale channels: every correct
oracle votes to remove them. -/
theorem not_mem_removeChannels (h : CorrectRound p E seqNr prev acc) (hs : 1 < seqNr)
    (hf : 0 ≤ p.f) {c : ChannelID}
    (hc : c ∈ (staleChannels prev.channelDefinitions E).take
      maxObservationRemoveChannelIDsLength) :
    c ∉ (removeChannels p.f prev.channelDefinitions (ord.removeChannelVotesByID.order
      (acc.foldl (p.countObservation ord) Tally.init).removeChannelVotesByID.toList)).1 := by
  set votes := (acc.foldl (p.countObservation ord) Tally.init).removeChannelVotesByID
  have hlen := h.length_pos hf
  have hcount : votes.findD c 0 = acc.length := by
    rw [removeVotes_eq_countP, List.countP_eq_length.2 fun o ho =>
      decide_eq_true (h.mem_removeChannelIDs hs ho hc)]
  have hfind : votes.find? c = some acc.length := by
    rw [GoMap.findD_eq] at hcount
    cases hv : votes.find? c with
    | none => rw [hv] at hcount; simp at hcount; omega
    | some n => rw [hv] at hcount; exact congrArg some hcount
  rw [GoMap.mem_iff_isSome, removeChannels_find?, if_pos ⟨(c, acc.length),
    (ord.removeChannelVotesByID.perm _).mem_iff.2 (GoMap.mem_toList_iff.2 hfind), rfl, hlen⟩]
  simp

/-- **What one correct round does to the channel definitions.** From an outcome that is not
retired, towards expected channels that `MakeChannelHash` tells apart, the step is not retired;
the removals take the first five stale channels and keep the expected ones; every definition of
the step was kept by the removals or is proposed; and the step holds all the proposed channels
unless its map is over the cap. -/
theorem step (h : CorrectRound p E seqNr prev acc) (hs : 1 < seqNr) (hf : 0 ≤ p.f)
    (hprev : prev.lifeCycleStage ≠ lifeCycleStageRetired) (hinj : HashInjective p E)
    {o' : Outcome} (ho' : p.outcome ord ⟨seqNr, .encoded prev⟩ (acc.map .encoded) = .ok o') :
    o'.lifeCycleStage ≠ lifeCycleStageRetired ∧ ∃ R : ChannelDefinitions,
      (∀ c d, R.find? c = some d → prev.channelDefinitions.find? c = some d) ∧
      (∀ c ∈ E, R.find? c = prev.channelDefinitions.find? c) ∧
      (∀ c ∈ (staleChannels prev.channelDefinitions E).take maxObservationRemoveChannelIDsLength,
        c ∉ R) ∧
      (∀ c d, o'.channelDefinitions.find? c = some d →
        R.find? c = some d ∨ (proposedChannels prev E).find? c = some d) ∧
      ((∀ c, o'.channelDefinitions.find? c =
          (R.find? c).or ((proposedChannels prev E).find? c)) ∨
        maxOutcomeChannelDefinitionsLength < o'.channelDefinitions.size) := by
  have hstage := h.lifeCycleStage_ne_retired hs hprev ho'
  obtain ⟨k, hstep⟩ := h.stepOf hs ho'
  set T := acc.foldl (p.countObservation ord) Tally.init
  set R := (removeChannels p.f prev.channelDefinitions
    (ord.removeChannelVotesByID.order T.removeChannelVotesByID.toList)).1
  have hsub : ∀ c d, R.find? c = some d → prev.channelDefinitions.find? c = some d :=
    fun c d hc => by
      rw [removeChannels_find?] at hc
      split_ifs at hc
      exact hc
  -- the addition loop visits the proposed channels, each with every vote
  have hacc : acc ≠ [] := List.ne_nil_of_length_pos (by have := h.length_pos hf; omega)
  have hprop := h.proposes hs
  have hinjS := hinj.mono fun e he => mem_toList_proposedChannels prev E he
  set cands := ord.addChannelDefinitionsByHash.order T.addChannelDefinitionsByHash.toList
  have hperm := hprop.candidates_perm p ord hinjS hacc
  have hvotes : ∀ e ∈ cands, p.f < T.addChannelVotesByHash.findD e.1 0 := fun e he => by
    rw [hprop.candidates_votes p ord hinjS hacc he]
    exact h.length_pos hf
  have hdefs : o'.channelDefinitions = addChannels p.f T.addChannelVotesByHash R cands := by
    rw [hstep.channelDefinitions, editChannelDefinitions_of_ne_retired hstage]
  refine ⟨hstage, R, hsub, fun c hc => h.removeChannels_find?_of_mem ord hs hf hc,
    fun c hc => h.not_mem_removeChannels ord hs hf hc, fun c d hd => ?_, ?_⟩
  · rw [hdefs] at hd
    refine (addChannels_find?_cases R cands hd).imp_right fun ⟨e, he, _, hc, hed⟩ => ?_
    subst hc hed
    exact GoMap.mem_toList_iff.1 (hperm.subset (List.mem_map_of_mem _ he))
  · rw [hdefs]
    exact (addChannels_or_full R cands hvotes).imp_left fun hfind c =>
      (hfind c).trans (congrArg _ (find?_candidates_of_perm hperm c))

/-- A correct round keeps the definition of every expected channel the previous outcome
defines. -/
theorem find?_of_mem (h : CorrectRound p E seqNr prev acc) (hs : 1 < seqNr) (hf : 0 ≤ p.f)
    {o' : Outcome} (ho' : p.outcome ord ⟨seqNr, .encoded prev⟩ (acc.map .encoded) = .ok o')
    {c : ChannelID} (hc : c ∈ E) {d : ChannelDefinition}
    (hd : prev.channelDefinitions.find? c = some d) : o'.channelDefinitions.find? c = some d := by
  obtain ⟨k, hstep⟩ := h.stepOf hs ho'
  rw [hstep.channelDefinitions]
  by_cases hr : o'.lifeCycleStage = lifeCycleStageRetired
  · rw [hr, editChannelDefinitions_retired]
    exact hd
  · rw [editChannelDefinitions_of_ne_retired hr]
    exact addChannels_find?_of_find? _ _ (by rw [h.removeChannels_find?_of_mem ord hs hf hc]; exact hd)

end CorrectRound

end Round

/-! ### Correct runs -/

/-- What a correct run keeps from any outcome: it is not retired, and it agrees with the
expected definitions on every channel both define. -/
structure Agreeing (E : ChannelDefinitions) (O : Outcome) : Prop where
  notRetired : O.lifeCycleStage ≠ lifeCycleStageRetired
  agree : ∀ c d d', O.channelDefinitions.find? c = some d → E.find? c = some d' → d = d'

/-- What the runs with a faulty minority keep: an agreeing outcome that holds at most one
channel over the cap. -/
structure Reconciling (E : ChannelDefinitions) (O : Outcome) : Prop where
  notRetired : O.lifeCycleStage ≠ lifeCycleStageRetired
  size_le : O.channelDefinitions.size ≤ maxOutcomeChannelDefinitionsLength + 1
  agree : ∀ c d d', O.channelDefinitions.find? c = some d → E.find? c = some d' → d = d'

section Run

variable {p : LLOPlugin} {E : ChannelDefinitions}

/-- **An edit keeps the outcome agreeing and drops the first five stale channels.** When the
new outcome is not retired and every definition it holds was kept by the removals `R` or is
proposed, where `R` drops the first five stale channels, the new outcome agrees with `E`, and
its stale channels are among all but the first five. -/
theorem agreeing_of_edit {prev o' : Outcome}
    (hagree : ∀ c d d', prev.channelDefinitions.find? c = some d → E.find? c = some d' → d = d')
    (hstage : o'.lifeCycleStage ≠ lifeCycleStageRetired) {R : ChannelDefinitions}
    (hsub : ∀ c d, R.find? c = some d → prev.channelDefinitions.find? c = some d)
    (hgone : ∀ c ∈ (staleChannels prev.channelDefinitions E).take
      maxObservationRemoveChannelIDsLength, c ∉ R)
    (hfrom : ∀ c d, o'.channelDefinitions.find? c = some d →
      R.find? c = some d ∨ (proposedChannels prev E).find? c = some d) :
    Agreeing E o' ∧
      (staleChannels o'.channelDefinitions E).length ≤
        (staleChannels prev.channelDefinitions E).length -
          maxObservationRemoveChannelIDsLength := by
  refine ⟨⟨hstage, fun c d d' hd hd' => ?_⟩, ?_⟩
  · -- a definition is either kept from the previous outcome or one of the proposed ones
    rcases hfrom c d hd with hR | hP
    · exact hagree c d d' (hsub c d hR) hd'
    · exact Option.some.inj ((find?_proposedChannels prev E hP).symm.trans hd')
  · -- a stale channel of the step is a stale channel of the previous outcome past the first five
    have hsubl : staleChannels o'.channelDefinitions E ⊆
        (staleChannels prev.channelDefinitions E).drop maxObservationRemoveChannelIDsLength :=
      fun c hc => by
        obtain ⟨hc, hcE⟩ := List.mem_filter.1 hc
        have hcE' : c ∉ E := by simpa using hcE
        obtain ⟨d, hd⟩ :=
          Option.isSome_iff_exists.1 (GoMap.mem_iff_isSome.1 (GoMap.mem_iff_mem_keys.2 hc))
        have hcR : c ∈ R := (hfrom c d hd).elim (fun hR => GoMap.mem_iff_isSome.2 (by rw [hR]; rfl))
          fun hP => absurd (mem_of_mem_proposedChannels prev E
            (GoMap.mem_iff_isSome.2 (by rw [hP]; rfl))) hcE'
        have hst : c ∈ staleChannels prev.channelDefinitions E := List.mem_filter.2
          ⟨GoMap.mem_iff_mem_keys.1 (mem_of_find?_imp hsub hcR), by simpa using hcE'⟩
        rw [← List.take_append_drop maxObservationRemoveChannelIDsLength
          (staleChannels prev.channelDefinitions E)] at hst
        exact (List.mem_append.1 hst).resolve_left fun ht => hgone c ht hcR
    rw [← List.length_drop]
    exact length_le_of_nodup_subset ((GoMap.keys_nodup _).filter _) hsubl

/-- An edit that keeps every expected channel and adds all the proposed ones takes the first
five missing channels off. -/
theorem missingChannels_of_edit {prev o' : Outcome} {R : ChannelDefinitions}
    (hkeep : ∀ c ∈ E, R.find? c = prev.channelDefinitions.find? c)
    (hfind : ∀ c, o'.channelDefinitions.find? c =
      (R.find? c).or ((proposedChannels prev E).find? c)) :
    missingChannels o'.channelDefinitions E =
      (missingChannels prev.channelDefinitions E).drop
        maxObservationAddChannelDefinitionsLength := by
  have hmem : ∀ c, c ∈ o'.channelDefinitions ↔ c ∈ R ∨ c ∈ proposedChannels prev E := fun c => by
    simp only [GoMap.mem_iff_isSome, hfind c, Option.isSome_or, Bool.or_eq_true]
  -- an expected channel is in the step exactly when it was before or is proposed
  have hnd : (missingChannels prev.channelDefinitions E).Nodup := (GoMap.keys_nodup E).filter _
  rw [← filter_not_mem_take hnd, ← keys_proposedChannels]
  unfold missingChannels
  rw [List.filter_filter]
  refine List.filter_congr fun c hc => ?_
  have hR : c ∈ R ↔ c ∈ prev.channelDefinitions := by
    simp only [GoMap.mem_iff_isSome, hkeep c (GoMap.mem_iff_mem_keys.2 hc)]
  have hk : c ∈ (proposedChannels prev E).keys ↔ c ∈ proposedChannels prev E :=
    GoMap.mem_iff_mem_keys.symm
  by_cases h₁ : c ∈ prev.channelDefinitions <;> by_cases h₂ : c ∈ proposedChannels prev E <;>
    simp [h₁, h₂, hmem, hR, hk]

/-- **An edit that reconciles keeps the invariant and shrinks both differences.** When the new
outcome is not retired, within the cap, and holds what the removals `R` kept of the previous
one together with the proposed channels, where `R` keeps every expected channel and drops the
first five stale ones, the missing channels lose their first five, and the stale channels are
among all but the first five. -/
theorem reconciling_of_edit {prev o' : Outcome} (hrec : Reconciling E prev)
    (hstage : o'.lifeCycleStage ≠ lifeCycleStageRetired)
    (hsize : o'.channelDefinitions.size ≤ maxOutcomeChannelDefinitionsLength + 1)
    {R : ChannelDefinitions}
    (hsub : ∀ c d, R.find? c = some d → prev.channelDefinitions.find? c = some d)
    (hkeep : ∀ c ∈ E, R.find? c = prev.channelDefinitions.find? c)
    (hgone : ∀ c ∈ (staleChannels prev.channelDefinitions E).take
      maxObservationRemoveChannelIDsLength, c ∉ R)
    (hfind : ∀ c, o'.channelDefinitions.find? c =
      (R.find? c).or ((proposedChannels prev E).find? c)) :
    Reconciling E o' ∧
      missingChannels o'.channelDefinitions E =
        (missingChannels prev.channelDefinitions E).drop maxObservationAddChannelDefinitionsLength ∧
      (staleChannels o'.channelDefinitions E).length ≤
        (staleChannels prev.channelDefinitions E).length -
          maxObservationRemoveChannelIDsLength := by
  have hfrom : ∀ c d, o'.channelDefinitions.find? c = some d →
      R.find? c = some d ∨ (proposedChannels prev E).find? c = some d := fun c d hd => by
    rw [hfind c] at hd
    cases hR : R.find? c with
    | some d₀ => rw [hR] at hd; exact .inl hd
    | none => rw [hR] at hd; exact .inr hd
  obtain ⟨⟨-, hagree⟩, hstale⟩ := agreeing_of_edit hrec.agree hstage hsub hgone hfrom
  exact ⟨⟨hstage, hsize, hagree⟩, missingChannels_of_edit hkeep hfind, hstale⟩

/-- **A correct round keeps the outcome agreeing and lowers both differences.** The stale
channels are among all but the first five. The missing channels lose their first five, unless
the map ends over the cap: then fewer channels are missing than stale. -/
theorem CorrectRound.agreeing {seqNr : Nat} {prev : Outcome} {acc : List Observation}
    (h : CorrectRound p E seqNr prev acc) (hs : 1 < seqNr) (hf : 0 ≤ p.f)
    (hE : E.size ≤ maxOutcomeChannelDefinitionsLength) (hinj : HashInjective p E)
    (hrec : Agreeing E prev) {ord : OutcomeOrders} {o' : Outcome}
    (ho' : p.outcome ord ⟨seqNr, .encoded prev⟩ (acc.map .encoded) = .ok o') :
    Agreeing E o' ∧
      ((missingChannels o'.channelDefinitions E).length ≤
          (missingChannels prev.channelDefinitions E).length -
            maxObservationAddChannelDefinitionsLength ∨
        (missingChannels o'.channelDefinitions E).length <
          (staleChannels o'.channelDefinitions E).length) ∧
      (staleChannels o'.channelDefinitions E).length ≤
        (staleChannels prev.channelDefinitions E).length -
          maxObservationRemoveChannelIDsLength := by
  obtain ⟨hstage, R, hsub, hkeep, hgone, hfrom, hall⟩ := h.step ord hs hf hrec.notRetired hinj ho'
  obtain ⟨hrec', hstale⟩ := agreeing_of_edit hrec.agree hstage hsub hgone hfrom
  refine ⟨hrec', hall.imp (fun hfind => ?_) (length_missing_lt_stale_of_full hE), hstale⟩
  rw [missingChannels_of_edit hkeep hfind, List.length_drop]

/-- The measure of `CorrectRun.agreeing` drops by five a round: both differences were below it,
the stale channels lose five, and the missing ones lose five or are fewer than the stale ones. -/
theorem le_measure_succ {M n m s m' s' : Nat} (hm : m ≤ M - 5 * n) (hs : s ≤ M - 5 * n)
    (hm' : m' ≤ m - 5 ∨ m' < s') (hs' : s' ≤ s - 5) :
    m' ≤ M - 5 * (n + 1) ∧ s' ≤ M - 5 * (n + 1) := by
  omega

/-- **Along a correct run** the outcome keeps agreeing, and after `n` rounds both differences
hold at most `max(stale, missing) - 5n` channels. The measure drops by five a round: the stale
channels lose five, and the missing ones lose five unless the map runs over the cap, when fewer
channels are missing than stale. -/
theorem CorrectRun.agreeing (hf : 0 ≤ p.f) (hE : E.size ≤ maxOutcomeChannelDefinitionsLength)
    (hinj : HashInjective p E) {n : Nat} {O O' : Outcome} (hrun : CorrectRun p E n O O')
    (hO : Agreeing E O) :
    Agreeing E O' ∧
      (missingChannels O'.channelDefinitions E).length ≤ max (staleChannels O.channelDefinitions
        E).length (missingChannels O.channelDefinitions E).length - 5 * n ∧
      (staleChannels O'.channelDefinitions E).length ≤ max (staleChannels O.channelDefinitions
        E).length (missingChannels O.channelDefinitions E).length - 5 * n := by
  induction hrun with
  | refl O => exact ⟨hO, le_max_right _ _, le_max_left _ _⟩
  | step ord seqNr acc _ hs hround ho' ih =>
    obtain ⟨hrec, hmiss, hstale⟩ := ih hO
    obtain ⟨hrec', hmiss', hstale'⟩ := hround.agreeing hs hf hE hinj hrec ho'
    exact ⟨hrec', le_measure_succ hmiss hstale hmiss' hstale'⟩

/-- Along a correct run every expected channel keeps the definition the outcome had. -/
theorem CorrectRun.find?_of_mem (hf : 0 ≤ p.f) {c : ChannelID} (hc : c ∈ E)
    {d : ChannelDefinition} {n : Nat} {O O' : Outcome} (hrun : CorrectRun p E n O O')
    (hd : O.channelDefinitions.find? c = some d) : O'.channelDefinitions.find? c = some d := by
  induction hrun with
  | refl O => exact hd
  | step ord seqNr acc _ hs hround ho' ih => exact hround.find?_of_mem ord hs hf ho' hc (ih hd)

end Run

/-- The outcome's channel definitions are the expected ones when neither difference has a
channel and the two agree on every channel both define. -/
theorem eq_of_differences_nil {defs E : ChannelDefinitions}
    (hagree : ∀ c d d', defs.find? c = some d → E.find? c = some d' → d = d')
    (hmiss : missingChannels defs E = []) (hstale : staleChannels defs E = []) : defs = E :=
  GoMap.ext fun c => by
    by_cases hcE : c ∈ E
    · have hc : c ∈ defs := by_contra fun hc => by
        simpa [hmiss] using (show c ∈ missingChannels defs E from
          List.mem_filter.2 ⟨GoMap.mem_iff_mem_keys.1 hcE, by simpa using hc⟩)
      obtain ⟨d, hd⟩ := Option.isSome_iff_exists.1 (GoMap.mem_iff_isSome.1 hc)
      obtain ⟨d', hd'⟩ := Option.isSome_iff_exists.1 (GoMap.mem_iff_isSome.1 hcE)
      rw [hd, hd', hagree c d d' hd hd']
    · have hc : c ∉ defs := fun hc => by
        simpa [hstale] using (show c ∈ staleChannels defs E from
          List.mem_filter.2 ⟨GoMap.mem_iff_mem_keys.1 hc, by simpa using hcE⟩)
      rw [Option.not_isSome_iff_eq_none.1 (mt GoMap.mem_iff_isSome.2 hc),
        Option.not_isSome_iff_eq_none.1 (mt GoMap.mem_iff_isSome.2 hcE)]

/-- **Correct oracles reconcile the channel definitions**, when the outcome and the cache agree
on every channel both define. For every plugin with `f ≥ 0`, every outcome `O` that is not
retired, of any size, and every expected channel set `E` of at most
`MAX_OUTCOME_CHANNEL_DEFINITIONS_LENGTH` channels whose definitions `MakeChannelHash` tells apart
and which gives every channel `O` defines the definition `O` gives it: after any number of
correct rounds no smaller than `⌈max(|stale|, |missing|) / 5⌉` the outcome's channel definitions
are `E`. -/
theorem channelDefinitions_reconciled {p : LLOPlugin} (hf : 0 ≤ p.f) {E : ChannelDefinitions}
    {O : Outcome} (hO : O.lifeCycleStage ≠ lifeCycleStageRetired)
    (hE : E.size ≤ maxOutcomeChannelDefinitionsLength) (hinj : HashInjective p E)
    (hagree : ∀ c d d', O.channelDefinitions.find? c = some d → E.find? c = some d' → d = d')
    {n : Nat} {O' : Outcome}
    (hn : (max (staleChannels O.channelDefinitions E).length
      (missingChannels O.channelDefinitions E).length + 4) / 5 ≤ n)
    (hrun : CorrectRun p E n O O') : O'.channelDefinitions = E := by
  obtain ⟨hrec, hmiss, hstale⟩ := hrun.agreeing hf hE hinj ⟨hO, hagree⟩
  exact eq_of_differences_nil hrec.agree (List.eq_nil_of_length_eq_zero (by omega))
    (List.eq_nil_of_length_eq_zero (by omega))

/-! ### Runs on concrete plugins -/

/-- A cache that expects channel 5 with `conflictDefinition₂`. -/
def conflictExpectation : ChannelDefinitions := (∅ : ChannelDefinitions).insert 5 conflictDefinition₂

/-- A correct oracle at 2 s whose cache expects `E`, with an empty data source. -/
def quietEnv (E : ChannelDefinitions) : ObservationEnv :=
  ⟨2000000000, fun _ => .ok [], .ok false, E, fun _ => .ok ∅⟩

/-- The outcome after the first round that proposes `conflictDefinition₁` for channel 5. -/
def conflictOutcome : Outcome :=
  ⟨lifeCycleStageProduction, 1000000000, some ((∅ : ChannelDefinitions).insert 5 conflictDefinition₁),
    some ((∅ : GoMap ChannelID UInt32).insert 5 1), ∅⟩

theorem channelDefinitions_reconciled_fromInitial :
    0 ≤ (runPlugin 0 none rejectAll).f ∧
      (runPlugin 0 none rejectAll).initialOutcome.lifeCycleStage ≠ lifeCycleStageRetired ∧
      conflictExpectation.size ≤ maxOutcomeChannelDefinitionsLength ∧
      HashInjective (runPlugin 0 none rejectAll) conflictExpectation ∧
      (∀ c d d', (runPlugin 0 none rejectAll).initialOutcome.channelDefinitions.find? c = some d →
        conflictExpectation.find? c = some d' → d = d') ∧
      (max (staleChannels (runPlugin 0 none rejectAll).initialOutcome.channelDefinitions
          conflictExpectation).length
        (missingChannels (runPlugin 0 none rejectAll).initialOutcome.channelDefinitions
          conflictExpectation).length + 4) / 5 ≤ 1 ∧
      ∃ O', CorrectRun (runPlugin 0 none rejectAll) conflictExpectation 1
        (runPlugin 0 none rejectAll).initialOutcome O' ∧
        O'.channelDefinitions = conflictExpectation :=
  have hagree : ∀ c d d', (runPlugin 0 none rejectAll).initialOutcome.channelDefinitions.find? c =
      some d → conflictExpectation.find? c = some d' → d = d' := fun _ _ _ h => by cases h
  have hround : CorrectRound (runPlugin 0 none rejectAll) conflictExpectation 2
      (runPlugin 0 none rejectAll).initialOutcome
      [⟨[], false, 2000000000, ∅, conflictExpectation, ∅⟩] :=
    ⟨fun o ho => ⟨.ascending, quietEnv conflictExpectation, rfl, by rw [List.mem_singleton.1 ho]; rfl⟩,
      by decide, by decide, fun o ho h => absurd (by rw [List.mem_singleton.1 ho]) h⟩
  have hrun : CorrectRun (runPlugin 0 none rejectAll) conflictExpectation 1
      (runPlugin 0 none rejectAll).initialOutcome _ :=
    .step .ascending 2 _ (.refl _) (by decide) hround rfl
  ⟨by decide, by decide, by decide, hashInjective_singleton _ _ _, hagree, by decide,
    _, hrun, channelDefinitions_reconciled (by decide) (by decide) (by decide)
      (hashInjective_singleton _ _ _) hagree (by decide) hrun⟩

/-- **A channel the two sides define differently is never reconciled.** A reachable outcome
that defines channel 5 as `conflictDefinition₁`, and a cache that expects channel 5 as
`conflictDefinition₂`: neither difference has a channel, so `⌈max/5⌉ = 0`, correct rounds from
the outcome succeed, and yet the outcome's channel definitions differ from the expected ones
after every number of them. -/
theorem conflicting_definition_never_reconciled :
    ∃ O, Reachable (runPlugin 0 none rejectAll) O ∧
      O.lifeCycleStage = lifeCycleStageProduction ∧
      staleChannels O.channelDefinitions conflictExpectation = [] ∧
      missingChannels O.channelDefinitions conflictExpectation = [] ∧
      (∃ O', CorrectRun (runPlugin 0 none rejectAll) conflictExpectation 1 O O') ∧
      ∀ n O', CorrectRun (runPlugin 0 none rejectAll) conflictExpectation n O O' →
        O'.channelDefinitions ≠ conflictExpectation := by
  have hreach : Reachable (runPlugin 0 none rejectAll) conflictOutcome :=
    (Reachable.init (p := runPlugin 0 none rejectAll) .ascending ⟨1, .empty⟩ [.empty] le_rfl rfl).step
      .ascending 2
      (proposalRound 0 5 conflictDefinition₁) (by decide) rfl
  have hround : CorrectRound (runPlugin 0 none rejectAll) conflictExpectation 3 conflictOutcome
      [⟨[], false, 2000000000, ∅, ∅, ∅⟩] :=
    ⟨fun o ho => ⟨.ascending, quietEnv conflictExpectation, rfl, by rw [List.mem_singleton.1 ho]; rfl⟩,
      by decide, by decide, fun o ho h => absurd (by rw [List.mem_singleton.1 ho]) h⟩
  refine ⟨conflictOutcome, hreach, rfl, by decide, by decide,
    ⟨_, .step .ascending 3 _ (.refl _) (by decide) hround rfl⟩, fun n O' hrun heq => ?_⟩
  have hkept := hrun.find?_of_mem (by decide) (c := 5) (by decide) (d := conflictDefinition₁) rfl
  rw [heq] at hkept
  exact absurd hkept (by decide)

end LloPlugin
