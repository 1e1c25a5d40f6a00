import LloPlugin.FaultyMinority
import LloPlugin.Reconcile

/-!
# Reconciling the channel definitions despite a faulty minority

Correct oracles bring the outcome's channel definitions to the set `E` their cache expects
even when up to `f` of the attributed observations of every round are faulty. A round counts
every correct observation, and there are at least `f + 1` of them, since `Outcome` needs
`2f+1` observations. Every correct oracle lists the first five stale channels for removal and
proposes the first five missing ones, so each of these gets more than `f` votes. The faulty
observations cannot push anything else past `f` votes: a vote no correct oracle casts has at
most `f` of them. So the addition loop installs exactly the proposed channels, skipping the
faulty candidates, and the round takes five channels off both differences, as a round of
correct oracles alone does.

## Main definitions

* `LloPlugin.ObservationEnv.Expects` — an oracle whose cache expects `E`, which does not vote
  to retire, and whose attested retirement reports pass the check.
* `LloPlugin.FaultyRun` — `n` steps with a faulty minority.

## Main results

* `LloPlugin.addChannels_filter_votes` — the addition loop skips the candidates with at most
  `f` votes.
* `LloPlugin.FaultyRound.counted` — a round counts more than `f` correct observations.
* `LloPlugin.candidates_filter_perm` — the candidates with more than `f` votes are the proposed
  channels, each once.
* `LloPlugin.FaultyStep.reconciling` — a step keeps the invariant of `Reconciling` and shrinks
  both differences.
* `LloPlugin.channelDefinitions_reconciled_faulty` — after `⌈max(stale, missing)/5⌉` steps the
  outcome's channel definitions are `E`.
-/

set_option autoImplicit false

namespace LloPlugin

/-- What an oracle reconciling towards `E` answers in its call of `Observation`: its channel
definition cache holds `E`, its `ShouldRetireCache` answers `false`, and every attested report
its retirement report cache hands out passes the check. -/
structure ObservationEnv.Expects (p : LLOPlugin) (E : ChannelDefinitions)
    (env : ObservationEnv) : Prop where
  definitions_eq : env.definitions = E
  shouldRetire_eq : env.shouldRetire = .ok false
  attested_checks : env.AttestedChecks p

/-- `n` steps with a faulty minority from `O` to `O'`. -/
inductive FaultyRun (p : LLOPlugin) (C : ObservationEnv → Prop) : Nat → Outcome → Outcome → Prop
  | refl (O : Outcome) : FaultyRun p C 0 O O
  | tail {n : Nat} {O O' O'' : Outcome} :
      FaultyRun p C n O O' → p.FaultyStep C O' O'' → FaultyRun p C (n + 1) O O''

/-! ### The addition loop -/

/-- **The addition loop skips the candidates with at most `f` votes.** -/
theorem addChannels_filter_votes (f : Int) (votes : GoMap ChannelHash Nat) :
    ∀ (defs : ChannelDefinitions) (l : List (ChannelHash × ChannelDefinitionWithID)),
      addChannels f votes defs (l.filter fun e => f < votes.findD e.1 0) =
        addChannels f votes defs l
  | _, [] => rfl
  | defs, e :: l => by
    by_cases he : f < votes.findD e.1 0
    · rw [List.filter_cons, if_pos (decide_eq_true he)]
      exact addChannels_filter_votes f votes _ l
    · have hskip : addChannel f votes defs e = defs := if_pos (not_lt.1 he)
      rw [List.filter_cons, if_neg (by simpa using he)]
      show _ = addChannels f votes (addChannel f votes defs e) l
      rw [hskip]
      exact addChannels_filter_votes f votes defs l

section Candidates

variable {p : LLOPlugin} (ord : OutcomeOrders) {acc : List Observation}

/-- The votes for the hash of a proposed definition are the observations proposing it. -/
theorem addVotes_findD (hd : HashesDistinct p acc) {o₀ : Observation} (ho₀ : o₀ ∈ acc)
    {c : ChannelID} {d : ChannelDefinition} (hc : o₀.addChannelDefinitions.find? c = some d) :
    (acc.foldl (p.countObservation ord) Tally.init).addChannelVotesByHash.findD
        (p.makeChannelHash ⟨d, c⟩) 0 =
      acc.countP fun o => o.addChannelDefinitions.find? c = some d := by
  rw [foldl_countObservation_addVotes, addVotes_eq_countP hd ho₀ hc]
  exact Nat.zero_add _

/-- **The candidates with more than `f` votes are the definitions of `S`, each once**, when
more than `f` observations propose each definition of `S`, at most `f` propose any other, and
no two proposals share a hash. -/
theorem candidates_filter_perm (hf : 0 ≤ p.f) (hd : HashesDistinct p acc)
    {S : ChannelDefinitions}
    (hS : ∀ c d, S.find? c = some d →
      p.f < acc.countP fun o => o.addChannelDefinitions.find? c = some d)
    (hS' : ∀ c d, S.find? c ≠ some d →
      (acc.countP fun o => o.addChannelDefinitions.find? c = some d : Int) ≤ p.f) :
    (((ord.addChannelDefinitionsByHash.order
        (acc.foldl (p.countObservation ord) Tally.init).addChannelDefinitionsByHash.toList).filter
          fun e => p.f < (acc.foldl (p.countObservation ord) Tally.init).addChannelVotesByHash.findD
            e.1 0).map
      fun e => (e.2.channelID, e.2.channelDefinition)).Perm S.toList := by
  set T := acc.foldl (p.countObservation ord) Tally.init
  have hperm := ord.addChannelDefinitionsByHash.perm T.addChannelDefinitionsByHash.toList
  -- an entry filed under hash `k` has hash `k` and is proposed by a counted observation
  have hfiled : ∀ {k w}, T.addChannelDefinitionsByHash.find? k = some w →
      p.makeChannelHash w = k ∧ ∃ o ∈ acc,
        o.addChannelDefinitions.find? w.channelID = some w.channelDefinition := fun hw => by
    rcases foldl_countObservation_addDefinition p ord acc Tally.init hw with h₀ | h
    · simp [Tally.init] at h₀
    · exact h
  refine (List.perm_ext_iff_of_nodup ?_ (GoMap.toList_nodup _)).2 fun x =>
    ⟨fun hx => ?_, fun hx => ?_⟩
  · -- two candidates with one definition share their hash
    refine List.Nodup.map_on (fun x hx y hy hxy => ?_)
      ((hperm.nodup_iff.2 (GoMap.toList_nodup _)).filter _)
    have hx' := hfiled (GoMap.mem_toList_iff.1 (hperm.subset (List.mem_of_mem_filter hx)))
    have hy' := hfiled (GoMap.mem_toList_iff.1 (hperm.subset (List.mem_of_mem_filter hy)))
    have hw : x.2 = y.2 := by
      obtain ⟨k, ⟨d, c⟩⟩ := x
      obtain ⟨k', ⟨d', c'⟩⟩ := y
      simp only [Prod.mk.injEq] at hxy
      simp [hxy]
    exact Prod.ext (hx'.1.symm.trans (hw ▸ hy'.1)) hw
  · -- a candidate past `f` votes is a definition of `S`
    obtain ⟨⟨k, w⟩, hm, rfl⟩ := List.mem_map.1 hx
    obtain ⟨hm, hv⟩ := List.mem_filter.1 hm
    obtain ⟨hk, o₀, ho₀, hf₀⟩ := hfiled (GoMap.mem_toList_iff.1 (hperm.subset hm))
    have hv' := of_decide_eq_true hv
    rw [← hk, show w = ⟨w.channelDefinition, w.channelID⟩ from rfl,
      addVotes_findD ord hd ho₀ hf₀] at hv'
    refine GoMap.mem_toList_iff.2 (by_contra fun hne => ?_)
    have := hS' w.channelID w.channelDefinition hne
    omega
  · -- a definition of `S` is filed under its hash and has more than `f` votes
    have hxS := GoMap.mem_toList_iff.1 hx
    have hpos : 0 < acc.countP fun o => o.addChannelDefinitions.find? x.1 = some x.2 := by
      have := hS _ _ hxS
      omega
    obtain ⟨o₀, ho₀, hf₀⟩ := List.countP_pos_iff.1 hpos
    have hf₀' : o₀.addChannelDefinitions.find? x.1 = some x.2 := of_decide_eq_true hf₀
    have hk : p.makeChannelHash ⟨x.2, x.1⟩ ∈ T.addChannelDefinitionsByHash :=
      (mem_foldl_countObservation_addDefinitions p ord _ acc Tally.init).2
        (.inr ⟨o₀, ho₀, x, GoMap.mem_toList_iff.2 hf₀', rfl⟩)
    obtain ⟨w, hw⟩ := Option.isSome_iff_exists.1 (GoMap.mem_iff_isSome.1 hk)
    obtain ⟨hwk, o₁, ho₁, hf₁⟩ := hfiled hw
    have hwx : (w.channelID, w.channelDefinition) = x :=
      hd o₁ ho₁ o₀ ho₀ _ (GoMap.mem_toList_iff.2 hf₁) x (GoMap.mem_toList_iff.2 hf₀') hwk
    refine List.mem_map.2 ⟨_, List.mem_filter.2 ⟨hperm.symm.subset (GoMap.mem_toList_iff.2 hw),
      decide_eq_true ?_⟩, hwx⟩
    rw [addVotes_findD ord hd ho₀ hf₀']
    exact hS _ _ hxS

end Candidates

/-! ### The correct observations of a round -/

section CorrectOracle

variable {p : LLOPlugin} {oord : ObservationOrders} {env : ObservationEnv} {prev : Outcome}
  {o : Observation}

/-- A correct oracle lists the removal votes of `channelVotes`. -/
theorem removeChannelIDs_of_build (h : p.buildObservation oord env prev = .ok o) :
    o.removeChannelIDs = (channelVotes oord prev env.definitions).1 := by
  obtain ⟨_, _, _, -, -, -, ho⟩ := buildObservation_eq_ok h
  rw [ho]

/-- A correct oracle proposes the channels its cache has and the previous outcome lacks, the
same ones in every iteration order. -/
theorem addChannelDefinitions_of_build (h : p.buildObservation oord env prev = .ok o) :
    o.addChannelDefinitions = proposedChannels prev env.definitions := by
  obtain ⟨_, _, _, -, -, -, ho⟩ := buildObservation_eq_ok h
  rw [ho]
  exact GoMap.toList_injective (by
    simp only [channelVotes, proposedChannels, subtractChannelDefinitions_toList])

end CorrectOracle

/-- An `ok` result of `Outcome` had at least `2f+1` attributed observations. -/
theorem length_of_outcome_eq_ok {p : LLOPlugin} {ord : OutcomeOrders} {outctx : OutcomeContext}
    {aos : List (Payload Observation)} {o' : Outcome} (h : p.outcome ord outctx aos = .ok o') :
    2 * p.f + 1 ≤ aos.length := by
  by_contra hl
  rw [LLOPlugin.outcome, if_pos (by omega)] at h
  cases h

namespace FaultyRound

variable {p : LLOPlugin} {C : ObservationEnv → Prop} {seqNr : Nat} {prev : Outcome}
  {aos : List (Payload Observation)}

theorem f_nonneg (h : FaultyRound p C seqNr prev aos) : 0 ≤ p.f := by
  obtain ⟨-, faulty, -, hfaulty, -⟩ := h.split
  omega

/-- The correct entries of a round are the encodings of observations that correct oracles
built. -/
theorem built (h : FaultyRound p C seqNr prev aos) (hs : 1 < seqNr) :
    ∃ (correct : List Observation) (faulty : List (Payload Observation)),
      aos.Perm (correct.map .encoded ++ faulty) ∧ (faulty.length : Int) ≤ p.f ∧
      ∀ o ∈ correct, ∃ (oord : ObservationOrders) (env : ObservationEnv), C env ∧
        p.buildObservation oord env prev = .ok o := by
  obtain ⟨correctP, faulty, hsplit, hfaulty, hcorrect⟩ := h.split
  have hbuilt : ∀ ao ∈ correctP, ∃ o, ao = .encoded o ∧ ∃ (oord : ObservationOrders)
      (env : ObservationEnv), C env ∧ p.buildObservation oord env prev = .ok o :=
    fun ao hao => by
      obtain ⟨oord, env, hC, hobs⟩ := hcorrect ao hao
      obtain ⟨o, rfl, hb⟩ := observation_eq_ok_of_lt hs hobs
      exact ⟨o, rfl, oord, env, hC, hb⟩
  have hmap := map_encoded_decodedObservations fun ao hao =>
    (hbuilt ao hao).imp fun _ h => h.1
  refine ⟨decodedObservations correctP, faulty, hmap.symm ▸ hsplit, hfaulty, fun o ho => ?_⟩
  obtain ⟨ao, hao, hu⟩ := List.mem_filterMap.1 ho
  obtain ⟨o', rfl, hb⟩ := hbuilt ao hao
  cases hu
  exact hb

/-- **The correct observations are counted, more than `f` of them**, when their attested
reports pass the check and the round has `2f+1` attributed observations. -/
theorem counted (h : FaultyRound p C seqNr prev aos) (hs : 1 < seqNr)
    (hA : ∀ env, C env → env.AttestedChecks p) (hlen : 2 * p.f + 1 ≤ aos.length)
    {k : Option RetirementReport} {acc : List Observation}
    (hscreen : p.screenObservations none aos = .ok (k, acc)) :
    ∃ correct X : List Observation, acc.Perm (correct ++ X) ∧ p.f < correct.length ∧
      ∀ o ∈ correct, ∃ (oord : ObservationOrders) (env : ObservationEnv), C env ∧
        p.buildObservation oord env prev = .ok o := by
  obtain ⟨correct, faulty, hsplit, hfaulty, hcorrect⟩ := h.built hs
  obtain ⟨X, hacc, -⟩ := accepted_perm hsplit (fun o ho => by
    obtain ⟨oord, env, hC, hb⟩ := hcorrect o ho
    exact admissible_of_buildObservation (hA env hC) hb) hscreen
  refine ⟨correct, X, hacc, ?_, hcorrect⟩
  have hl := hsplit.length_eq
  rw [List.length_append, List.length_map] at hl
  omega

end FaultyRound

/-- More than `f` counted observations cast a vote that every correct one casts. -/
theorem lt_countP_of_correct {f : Int} {acc correct X : List Observation}
    (hacc : acc.Perm (correct ++ X)) (hlt : f < correct.length) {Q : Observation → Bool}
    (hQ : ∀ o ∈ correct, Q o = true) : f < acc.countP Q := by
  rw [hacc.countP_eq, List.countP_append, List.countP_eq_length.2 hQ]
  omega

/-! ### The channel edits of a round -/

namespace FaultyRound

variable {p : LLOPlugin} {E : ChannelDefinitions} {seqNr : Nat} {prev : Outcome}
  {aos : List (Payload Observation)} {k : Option RetirementReport} {acc : List Observation}
  (ord : OutcomeOrders)

/-- The removals keep every expected channel: only faulty observations vote for it. -/
theorem removeChannels_keep (h : FaultyRound p (ObservationEnv.Expects p E) seqNr prev aos)
    (hs : 1 < seqNr) (hscreen : p.screenObservations none aos = .ok (k, acc)) {c : ChannelID}
    (hc : c ∈ E) :
    (removeChannels p.f prev.channelDefinitions (ord.removeChannelVotesByID.order
      (acc.foldl (p.countObservation ord) Tally.init).removeChannelVotesByID.toList)).1.find? c =
      prev.channelDefinitions.find? c := by
  rw [removeChannels_find?, if_neg]
  intro hvote
  have h₀ := lt_findD_of_vote (ord.removeChannelVotesByID.perm _) hvote
  rw [removeVotes_eq_countP] at h₀
  have := h.countP_le hs (fun _ env _ henv hb => decide_eq_false
    (not_mem_removeChannelIDs_of_build hb (henv.definitions_eq ▸ hc))) hscreen
  omega

/-- The removals take the first five stale channels: every correct observation votes for
them. -/
theorem removeChannels_gone (h : FaultyRound p (ObservationEnv.Expects p E) seqNr prev aos)
    (hs : 1 < seqNr) (hlen : 2 * p.f + 1 ≤ aos.length)
    (hscreen : p.screenObservations none aos = .ok (k, acc)) {c : ChannelID}
    (hc : c ∈ (staleChannels prev.channelDefinitions E).take maxObservationRemoveChannelIDsLength) :
    c ∉ (removeChannels p.f prev.channelDefinitions (ord.removeChannelVotesByID.order
      (acc.foldl (p.countObservation ord) Tally.init).removeChannelVotesByID.toList)).1 := by
  have hf := h.f_nonneg
  obtain ⟨correct, X, hacc, hlt, hcorrect⟩ :=
    h.counted hs (fun _ henv => henv.attested_checks) hlen hscreen
  set T := acc.foldl (p.countObservation ord) Tally.init
  have hvotes : p.f < T.removeChannelVotesByID.findD c 0 := by
    rw [removeVotes_eq_countP]
    refine lt_countP_of_correct hacc hlt fun o ho => decide_eq_true ?_
    obtain ⟨oord, env, henv, hb⟩ := hcorrect o ho
    rw [removeChannelIDs_of_build hb, henv.definitions_eq]
    exact mem_channelVotes_removals E oord prev hc
  cases hv : T.removeChannelVotesByID.find? c with
  | none =>
    rw [GoMap.findD_eq, hv] at hvotes
    simp only [Option.getD_none, Nat.cast_zero] at hvotes
    omega
  | some n =>
    rw [GoMap.findD_eq, hv, Option.getD_some] at hvotes
    rw [GoMap.mem_iff_isSome, removeChannels_find?, if_pos ⟨(c, n),
      (ord.removeChannelVotesByID.perm _).mem_iff.2 (GoMap.mem_toList_iff.2 hv), rfl, hvotes⟩]
    simp

/-- **The channel edits of a round with a faulty minority**, in every iteration order, from a
reconciling outcome: the new map holds what the removals kept and the proposed channels. The
candidates past `f` votes are exactly the proposed channels, one per channel ID, and they fit
under the cap, so the addition loop installs them all. -/
theorem editChannelDefinitions_find? (hE : E.size ≤ maxOutcomeChannelDefinitionsLength)
    (hrec : Reconciling E prev) (h : FaultyRound p (ObservationEnv.Expects p E) seqNr prev aos)
    (hs : 1 < seqNr) (hlen : 2 * p.f + 1 ≤ aos.length)
    (hscreen : p.screenObservations none aos = .ok (k, acc)) {stage : LLOLifeCycleStage}
    (hstage : stage ≠ lifeCycleStageRetired) (k' : Option RetirementReport) (c : ChannelID) :
    (p.editChannelDefinitions ord prev { acc.foldl (p.countObservation ord) Tally.init with
        validPredecessorRetirementReport := k' } stage).1.find? c =
      ((removeChannels p.f prev.channelDefinitions (ord.removeChannelVotesByID.order
        (acc.foldl (p.countObservation ord) Tally.init).removeChannelVotesByID.toList)).1.find?
          c).or ((proposedChannels prev E).find? c) := by
  have hf := h.f_nonneg
  obtain ⟨correct, X, hacc, hlt, hcorrect⟩ :=
    h.counted hs (fun _ henv => henv.attested_checks) hlen hscreen
  set T := acc.foldl (p.countObservation ord) Tally.init
  set R := (removeChannels p.f prev.channelDefinitions
    (ord.removeChannelVotesByID.order T.removeChannelVotesByID.toList)).1
  have hsub : ∀ c d, R.find? c = some d → prev.channelDefinitions.find? c = some d :=
    fun c d hc => by
      rw [removeChannels_find?] at hc
      split_ifs at hc
      exact hc
  -- the candidates past `f` votes are the proposed channels
  have hperm := candidates_filter_perm ord hf (h.hashesDistinct hscreen)
    (S := proposedChannels prev E)
    (fun c d hd => lt_countP_of_correct hacc hlt fun o ho => decide_eq_true (by
      obtain ⟨oord, env, henv, hb⟩ := hcorrect o ho
      rw [addChannelDefinitions_of_build hb, henv.definitions_eq]
      exact hd))
    (fun c d hd => h.countP_le hs (fun _ env _ henv hb => decide_eq_false (by
      rw [addChannelDefinitions_of_build hb, henv.definitions_eq]
      exact hd)) hscreen)
  set good := (ord.addChannelDefinitionsByHash.order T.addChannelDefinitionsByHash.toList).filter
    fun e => p.f < T.addChannelVotesByHash.findD e.1 0
  have hvotes : ∀ e ∈ good, p.f < T.addChannelVotesByHash.findD e.1 0 := fun e he =>
    of_decide_eq_true (List.mem_filter.1 he).2
  have hnodup : (good.map (·.2.channelID)).Nodup := by
    have := (hperm.map Prod.fst).nodup_iff.2 (GoMap.keys_nodup (proposedChannels prev E))
    rwa [List.map_map] at this
  have hfresh : freshCandidates R good = good := List.filter_eq_self.2 fun e he => by
    have hmem : e.2.channelID ∈ proposedChannels prev E := GoMap.mem_iff_isSome.2 (by
      rw [GoMap.mem_toList_iff.1 (hperm.subset (List.mem_map_of_mem _ he))]
      rfl)
    simpa using fun hR => not_mem_of_mem_proposedChannels prev E hmem (mem_of_find?_imp hsub hR)
  have hroom : R.size + (freshCandidates R good).length ≤
      maxOutcomeChannelDefinitionsLength + 1 := by
    rw [hfresh, ← List.length_map good fun e => (e.2.channelID, e.2.channelDefinition),
      hperm.length_eq]
    exact size_add_size_proposedChannels_le (fun _ => mem_of_find?_imp hsub)
      (fun c hc => h.removeChannels_gone ord hs hlen hscreen hc) hrec.size_le hE
  obtain ⟨hfind, -⟩ := addChannels_of_room R good hvotes hnodup hroom
  rw [editChannelDefinitions_of_ne_retired hstage]
  exact (congrArg (fun m => GoMap.find? m c) (addChannels_filter_votes _ _ _ _).symm).trans
    ((hfind c).trans (congrArg _ (find?_candidates_of_perm hperm c)))

end FaultyRound

/-! ### Runs -/

section Run

variable {p : LLOPlugin} {E : ChannelDefinitions}

/-- **A step with a faulty minority keeps the invariant and shrinks both differences**, as a
correct round does: the missing channels lose their first five, and the stale channels are
among all but the first five. -/
theorem FaultyStep.reconciling (hE : E.size ≤ maxOutcomeChannelDefinitionsLength)
    {prev o' : Outcome} (hrec : Reconciling E prev)
    (h : p.FaultyStep (ObservationEnv.Expects p E) prev o') :
    Reconciling E o' ∧
      missingChannels o'.channelDefinitions E =
        (missingChannels prev.channelDefinitions E).drop maxObservationAddChannelDefinitionsLength ∧
      (staleChannels o'.channelDefinitions E).length ≤
        (staleChannels prev.channelDefinitions E).length - maxObservationRemoveChannelIDsLength := by
  have hstage : o'.lifeCycleStage ≠ lifeCycleStageRetired := fun hr =>
    hrec.notRetired (faultyStep_retired (fun _ henv => henv.shouldRetire_eq) h hr)
  obtain ⟨ord, seqNr, aos, hs, hround, ho'⟩ := h
  have hlen := length_of_outcome_eq_ok ho'
  obtain ⟨t, ht, hstep⟩ := outcomeStep_eq_ok (outcome_eq_outcomeStep hs ho')
  obtain ⟨k, acc, hscreen, rfl⟩ := tally_eq ht
  refine reconciling_of_edit hrec hstage
    ((step_channelDefinitions_size_le hs ho').trans (max_le hrec.size_le le_rfl))
    (fun c d hc => ?_) (fun c hc => hround.removeChannels_keep ord hs hscreen hc)
    (fun c hc => hround.removeChannels_gone ord hs hlen hscreen hc) fun c => ?_
  · rw [removeChannels_find?] at hc
    split_ifs at hc
    exact hc
  · rw [hstep.channelDefinitions]
    exact hround.editChannelDefinitions_find? ord hE hrec hs hlen hscreen hstage k c

/-- **Along a run with a faulty minority** the invariant holds and both differences shrink by
five channels a step. -/
theorem FaultyRun.reconciling (hE : E.size ≤ maxOutcomeChannelDefinitionsLength) {n : Nat}
    {O O' : Outcome} (hrun : FaultyRun p (ObservationEnv.Expects p E) n O O')
    (hO : Reconciling E O) :
    Reconciling E O' ∧
      (missingChannels O'.channelDefinitions E).length =
        (missingChannels O.channelDefinitions E).length - 5 * n ∧
      (staleChannels O'.channelDefinitions E).length ≤
        (staleChannels O.channelDefinitions E).length - 5 * n := by
  induction hrun with
  | refl O => exact ⟨hO, rfl, le_rfl⟩
  | @tail k O P Q _ hs ih =>
    obtain ⟨hrec, hmiss, hstale⟩ := ih hO
    obtain ⟨hrec', hmiss', hstale'⟩ := FaultyStep.reconciling hE hrec hs
    refine ⟨hrec', by rw [hmiss', List.length_drop, hmiss, Nat.sub_sub]; rfl, ?_⟩
    calc (staleChannels Q.channelDefinitions E).length
        ≤ (staleChannels P.channelDefinitions E).length - maxObservationRemoveChannelIDsLength :=
          hstale'
      _ ≤ (staleChannels O.channelDefinitions E).length - 5 * k - 5 :=
          Nat.sub_le_sub_right hstale _
      _ = (staleChannels O.channelDefinitions E).length - 5 * (k + 1) := by rw [Nat.sub_sub]; rfl

/-- **Correct oracles reconcile the channel definitions despite a faulty minority.** For every
plugin, every outcome `O` that is not retired and holds at most
`MAX_OUTCOME_CHANNEL_DEFINITIONS_LENGTH + 1` channels, and every expected channel set `E` of at
most `MAX_OUTCOME_CHANNEL_DEFINITIONS_LENGTH` channels that gives every channel `O` defines the
definition `O` gives it: after any number of steps no smaller than
`⌈max(|stale|, |missing|) / 5⌉`, in each of which at most `f` attributed observations are
faulty and the others come from oracles whose cache expects `E` and which do not vote to
retire, the outcome's channel definitions are `E`. -/
theorem channelDefinitions_reconciled_faulty {O : Outcome}
    (hO : O.lifeCycleStage ≠ lifeCycleStageRetired)
    (hOsize : O.channelDefinitions.size ≤ maxOutcomeChannelDefinitionsLength + 1)
    (hE : E.size ≤ maxOutcomeChannelDefinitionsLength)
    (hagree : ∀ c d d', O.channelDefinitions.find? c = some d → E.find? c = some d' → d = d')
    {n : Nat} {O' : Outcome}
    (hn : (max (staleChannels O.channelDefinitions E).length
      (missingChannels O.channelDefinitions E).length + 4) / 5 ≤ n)
    (hrun : FaultyRun p (ObservationEnv.Expects p E) n O O') : O'.channelDefinitions = E := by
  obtain ⟨hrec, hmiss, hstale⟩ := hrun.reconciling hE ⟨hO, hOsize, hagree⟩
  exact eq_of_differences_nil hrec.agree (List.eq_nil_of_length_eq_zero (by omega))
    (List.eq_nil_of_length_eq_zero (by omega))

end Run

/-- A cache that moves the channel of the window runs from ID 5 to ID 6. -/
def movedExpectation : ChannelDefinitions := (∅ : ChannelDefinitions).insert 6 windowDefinition

theorem channelDefinitions_reconciled_faulty_forged :
    ∃ O', windowStart.lifeCycleStage ≠ lifeCycleStageRetired ∧
      windowStart.channelDefinitions.size ≤ maxOutcomeChannelDefinitionsLength + 1 ∧
      movedExpectation.size ≤ maxOutcomeChannelDefinitionsLength ∧
      (∀ c d d', windowStart.channelDefinitions.find? c = some d →
        movedExpectation.find? c = some d' → d = d') ∧
      (max (staleChannels windowStart.channelDefinitions movedExpectation).length
        (missingChannels windowStart.channelDefinitions movedExpectation).length + 4) / 5 ≤ 1 ∧
      FaultyRun (runPlugin 1 none rejectAll)
        (ObservationEnv.Expects (runPlugin 1 none rejectAll) movedExpectation) 1 windowStart O' ∧
      O'.channelDefinitions = movedExpectation :=
  have hagree : ∀ c d d', windowStart.channelDefinitions.find? c = some d →
      movedExpectation.find? c = some d' → d = d' := fun c d d' h₁ h₂ => by
    simp only [windowStart, Outcome.channelDefinitions, movedExpectation, Option.getD_some,
      GoMap.find?_insert, GoMap.find?_empty, Option.ite_none_right_eq_some,
      Option.some.injEq] at h₁ h₂
    rw [h₁.1] at h₂
    exact absurd h₂.1 (by decide)
  have henv : (echoEnv movedExpectation).Expects (runPlugin 1 none rejectAll) movedExpectation :=
    ⟨rfl, rfl, fun _ _ h => by cases h⟩
  have hrun : FaultyRun (runPlugin 1 none rejectAll)
      (ObservationEnv.Expects (runPlugin 1 none rejectAll) movedExpectation) 1 windowStart _ :=
    .tail (.refl _) ⟨.ascending, 3,
      [.encoded ⟨[], false, 2000000000, (∅ : GoMap ChannelID Unit).insert 5 (), movedExpectation,
          (∅ : StreamValues).insert 7 ⟨some 1, true⟩⟩,
        .encoded ⟨[], false, 2000000000, (∅ : GoMap ChannelID Unit).insert 5 (), movedExpectation,
          (∅ : StreamValues).insert 7 ⟨some 1, true⟩⟩,
        .encoded forgedObservation], by decide,
      ⟨⟨_, [.encoded forgedObservation], List.Perm.refl _, by decide, fun ao hao =>
        ⟨.ascending, echoEnv movedExpectation, henv, by
          obtain rfl | rfl := List.mem_pair.1 hao <;> rfl⟩⟩,
        by unfold HashesDistinct; decide⟩, rfl⟩
  ⟨_, by decide, by decide, by decide, hagree, by decide, hrun,
    channelDefinitions_reconciled_faulty (by decide) (by decide) (by decide) hagree (by decide)
      hrun⟩

end LloPlugin
