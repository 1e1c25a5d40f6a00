import LloPlugin.Progress

/-!
# A faulty minority cannot edit the channel definitions or retire the instance

`Outcome` removes a channel only when more than `f` of the observations it counts list it for
removal, and installs a definition only when more than `f` of them propose exactly it. So when
at most `f` of the attributed observations are faulty, every change to the channel definitions
has a correct oracle behind it. A correct oracle builds its votes from what its channel
definition cache answers, `E`: it lists for removal only channels `E` lacks, and proposes only
definitions `E` holds. Along every run of such rounds, then, a channel `E` defines keeps the
definition it has, and every definition the outcome holds is one it started with or the one
`E` holds.

The faulty observations are arbitrary: they need not decode, pass `ValidateObservation` or
carry a valid attested retirement report. What the argument needs of them is that
`MakeChannelHash` tells their proposals apart from the others, so that the definition the
loop files under a hash is one a vote for that hash proposed.

The same count keeps a faulty minority from retiring the instance: a production instance
retires only on more than `f` votes to retire, so when every correct oracle's
`ShouldRetireCache` answers `false` the instance never retires.

## Main definitions

* `LloPlugin.FaultyRound` — the attributed observations of a round with at most `f` faulty
  ones, the others built by `Observation` for oracles whose surroundings meet a condition `C`.
* `LloPlugin.LLOPlugin.FaultyStep` — one `Outcome` step on such a round.

## Main results

* `LloPlugin.FaultyRound.countP_le` — at most `f` of the counted observations carry a vote no
  correct oracle casts.
* `LloPlugin.faultyStep_channelDefinitions` — one step keeps every channel the correct
  oracles' cache defines and installs only definitions it holds.
* `LloPlugin.channelDefinitions_faulty_run` — the same along every run.
* `LloPlugin.not_retired_faulty_run` — along every run the instance does not retire when the
  correct oracles do not vote to.
-/

set_option autoImplicit false

namespace LloPlugin

/-- The attributed observations of a round at sequence number `seqNr` after the outcome
`prev`, against an adversary that controls at most `f` oracles and finds no collision of
`MakeChannelHash`: at most `f` of them are faulty, each of the others is what `Observation`
returned to an oracle whose surroundings meet `C`, and `MakeChannelHash` tells apart the
definitions they propose. -/
structure FaultyRound (p : LLOPlugin) (C : ObservationEnv → Prop) (seqNr : Nat) (prev : Outcome)
    (aos : List (Payload Observation)) : Prop where
  split : ∃ correct faulty : List (Payload Observation), aos.Perm (correct ++ faulty) ∧
    (faulty.length : Int) ≤ p.f ∧ ∀ ao ∈ correct, ∃ (oord : ObservationOrders)
      (env : ObservationEnv), C env ∧ p.observation oord env ⟨seqNr, .encoded prev⟩ = .ok ao
  distinct : HashesDistinct p (decodedObservations aos)

/-- One step of a run with a faulty minority: an `ok` result of `Outcome` above sequence
number 1 on a `FaultyRound`. -/
def LLOPlugin.FaultyStep (p : LLOPlugin) (C : ObservationEnv → Prop) (o o' : Outcome) : Prop :=
  ∃ (ord : OutcomeOrders) (seqNr : Nat) (aos : List (Payload Observation)), 1 < seqNr ∧
    FaultyRound p C seqNr o aos ∧ p.outcome ord ⟨seqNr, .encoded o⟩ aos = .ok o'

variable {p : LLOPlugin} {C : ObservationEnv → Prop}

/-! ### Counting the faulty votes -/

namespace FaultyRound

variable {seqNr : Nat} {prev : Outcome} {aos : List (Payload Observation)}

/-- **At most `f` counted votes no correct oracle casts.** Of the observations the loop counts,
at most `f` satisfy a property that no observation a correct oracle builds has. -/
theorem countP_le (h : FaultyRound p C seqNr prev aos) (hs : 1 < seqNr)
    {Q : Observation → Bool} (hQ : ∀ (oord : ObservationOrders) (env : ObservationEnv) o,
      C env → p.buildObservation oord env prev = .ok o → Q o = false)
    {k : Option RetirementReport} {acc : List Observation}
    (hscreen : p.screenObservations none aos = .ok (k, acc)) : (acc.countP Q : Int) ≤ p.f := by
  obtain ⟨correct, faulty, hsplit, hfaulty, hcorrect⟩ := h.split
  obtain ⟨dropped, hperm, -⟩ := screenObservations_perm hscreen
  have hsplit' := hsplit.filterMap fun ao => ao.unmarshal.toOption
  rw [List.filterMap_append] at hsplit'
  have hdec : (acc ++ dropped).Perm (decodedObservations correct ++ decodedObservations faulty) :=
    hperm.symm.trans hsplit'
  -- no correct observation is counted
  have hc : (decodedObservations correct).countP Q = 0 := List.countP_eq_zero.2 fun o ho => by
    obtain ⟨ao, hao, hu⟩ := List.mem_filterMap.1 ho
    obtain ⟨oord, env, hE, hobs⟩ := hcorrect ao hao
    obtain ⟨o', rfl, hb⟩ := observation_eq_ok_of_lt hs hobs
    cases hu
    simpa using hQ oord env _ hE hb
  have hle : acc.countP Q ≤ faulty.length := calc
    acc.countP Q ≤ (acc ++ dropped).countP Q := by
      rw [List.countP_append]
      exact Nat.le_add_right _ _
    _ = (decodedObservations faulty).countP Q := by
      rw [hdec.countP_eq, List.countP_append, hc, Nat.zero_add]
    _ ≤ faulty.length := (List.countP_le_length _).trans (List.length_filterMap_le _ _)
  omega

/-- The counted observations tell their proposals apart. -/
theorem hashesDistinct (h : FaultyRound p C seqNr prev aos) {k : Option RetirementReport}
    {acc : List Observation} (hscreen : p.screenObservations none aos = .ok (k, acc)) :
    HashesDistinct p acc := by
  obtain ⟨dropped, hperm, -⟩ := screenObservations_perm hscreen
  have hsub : acc ⊆ decodedObservations aos := fun o ho =>
    hperm.symm.subset (List.mem_append_left _ ho)
  exact fun o₁ h₁ o₂ h₂ => h.distinct o₁ (hsub h₁) o₂ (hsub h₂)

end FaultyRound

/-! ### What a correct oracle votes -/

section CorrectVotes

variable {oord : ObservationOrders} {env : ObservationEnv} {prev : Outcome} {o : Observation}

/-- A correct oracle never lists a channel its cache defines for removal. -/
theorem not_mem_removeChannelIDs_of_build (h : p.buildObservation oord env prev = .ok o)
    {c : ChannelID} (hc : c ∈ env.definitions) : c ∉ o.removeChannelIDs := by
  obtain ⟨_, _, _, -, -, -, ho⟩ := buildObservation_eq_ok h
  rw [ho]
  exact fun hr => not_mem_of_mem_channelVotes_removals _ _ _ hr hc

/-- A correct oracle proposes only the definitions its cache holds. -/
theorem find?_addChannelDefinitions_of_build (h : p.buildObservation oord env prev = .ok o)
    {c : ChannelID} {d : ChannelDefinition} (hd : o.addChannelDefinitions.find? c = some d) :
    env.definitions.find? c = some d := by
  obtain ⟨_, _, _, -, -, -, ho⟩ := buildObservation_eq_ok h
  simp only [ho, channelVotes, find?_subtractChannelDefinitions] at hd
  split_ifs at hd
  exact hd

/-- A correct oracle votes to retire exactly when its `ShouldRetireCache` says so. -/
theorem shouldRetire_of_build (h : p.buildObservation oord env prev = .ok o) {b : Bool}
    (hb : env.shouldRetire = .ok b) : o.shouldRetire = b := by
  obtain ⟨_, _, _, -, hr, -, ho⟩ := buildObservation_eq_ok h
  rw [ho, hb] at *
  exact (Except.ok.inj hr).symm

end CorrectVotes

/-! ### Steps and runs -/

/-- **One step with a faulty minority.** A channel the correct oracles' cache defines keeps
the definition it has, and every definition the new outcome holds is the previous one or the
cache's. -/
theorem faultyStep_channelDefinitions {E : ChannelDefinitions}
    (hC : ∀ env, C env → env.definitions = E) {o o' : Outcome} (h : p.FaultyStep C o o') :
    (∀ c ∈ E, ∀ d, o.channelDefinitions.find? c = some d →
      o'.channelDefinitions.find? c = some d) ∧
    ∀ c d, o'.channelDefinitions.find? c = some d →
      o.channelDefinitions.find? c = some d ∨ E.find? c = some d := by
  obtain ⟨ord, seqNr, aos, hs, hround, h⟩ := h
  obtain ⟨t, ht, hstep⟩ := outcomeStep_eq_ok (outcome_eq_outcomeStep hs h)
  obtain ⟨k, acc, hscreen, rfl⟩ := tally_eq ht
  rw [hstep.channelDefinitions]
  by_cases hr : o'.lifeCycleStage = lifeCycleStageRetired
  · -- a retired outcome keeps the channel definitions
    rw [hr, editChannelDefinitions_retired]
    exact ⟨fun _ _ _ hd => hd, fun _ _ hd => .inl hd⟩
  rw [editChannelDefinitions_of_ne_retired hr]
  refine ⟨fun c hc d hd => by_contra fun hne => ?_, fun c d hd' => or_iff_not_imp_left.2
    fun hne => by_contra fun hE => ?_⟩
  · -- removing or changing `c` takes more than `f` votes, and only faulty ones can name it
    have hvotes := removal_voted (ord.removeChannelVotesByID.perm _) hd hne
    rw [removeVotes_eq_countP] at hvotes
    have hle := hround.countP_le hs (fun _ env o hEnv hb =>
      decide_eq_false (not_mem_removeChannelIDs_of_build hb (hC env hEnv ▸ hc))) hscreen
    omega
  · -- installing `d` takes more than `f` proposals of it, and only faulty ones propose it
    have hvotes := addition_voted (hround.hashesDistinct hscreen) hd' hne
    have hle := hround.countP_le hs (fun _ env o hEnv hb => decide_eq_false fun ho =>
      hE (hC env hEnv ▸ find?_addChannelDefinitions_of_build hb ho)) hscreen
    omega

/-- **A faulty minority cannot edit the channel definitions.** Along every run of steps in
which at most `f` attributed observations are faulty and the others come from oracles whose
channel definition cache answers `E`, a channel `E` defines keeps the definition it has at the
start, and every definition an outcome holds is the one it had at the start or the one `E`
holds. -/
theorem channelDefinitions_faulty_run {E : ChannelDefinitions}
    (hC : ∀ env, C env → env.definitions = E) {O O' : Outcome}
    (h : Relation.ReflTransGen (p.FaultyStep C) O O') :
    (∀ c ∈ E, ∀ d, O.channelDefinitions.find? c = some d →
      O'.channelDefinitions.find? c = some d) ∧
    ∀ c d, O'.channelDefinitions.find? c = some d →
      O.channelDefinitions.find? c = some d ∨ E.find? c = some d := by
  induction h with
  | refl => exact ⟨fun _ _ _ hd => hd, fun _ _ hd => .inl hd⟩
  | tail _ hs ih =>
    obtain ⟨hkeep, hfrom⟩ := ih
    obtain ⟨hkeep', hfrom'⟩ := faultyStep_channelDefinitions hC hs
    refine ⟨fun c hc d hd => hkeep' c hc d (hkeep c hc d hd), fun c d hd => ?_⟩
    rcases hfrom' c d hd with hd' | hE
    · exact hfrom c d hd'
    · exact .inr hE

/-- **One step with a faulty minority**, for the life cycle. When every correct oracle's
`ShouldRetireCache` answers `false`, the step retires the instance only if it was retired. -/
theorem faultyStep_retired (hC : ∀ env, C env → env.shouldRetire = .ok false) {o o' : Outcome}
    (h : p.FaultyStep C o o') (hr : o'.lifeCycleStage = lifeCycleStageRetired) :
    o.lifeCycleStage = lifeCycleStageRetired := by
  obtain ⟨ord, seqNr, aos, hs, hround, h⟩ := h
  obtain ⟨k, acc, hscreen, hstage⟩ := step_lifeCycleStage hs h
  have hle := hround.countP_le hs (Q := (·.shouldRetire))
    (fun _ env _ hEnv hb => shouldRetire_of_build hb (hC env hEnv)) hscreen
  rw [hstage] at hr
  rcases nextLifeCycleStage_cases p.f o.lifeCycleStage k (acc.countP (·.shouldRetire)) with
    ⟨he, -, -⟩ | ⟨-, -, hp | ⟨-, hlt⟩⟩ | ⟨-, hlt, -⟩
  · rwa [he] at hr
  · exact absurd (hp.symm.trans hr) (Ne.symm retired_ne_production)
  · omega
  · omega

/-- **A faulty minority cannot retire the instance.** Along every run of steps in which at most
`f` attributed observations are faulty and the others come from oracles whose
`ShouldRetireCache` answers `false`, an instance that is not retired at the start is never
retired. -/
theorem not_retired_faulty_run (hC : ∀ env, C env → env.shouldRetire = .ok false)
    {O O' : Outcome} (hO : O.lifeCycleStage ≠ lifeCycleStageRetired)
    (h : Relation.ReflTransGen (p.FaultyStep C) O O') :
    O'.lifeCycleStage ≠ lifeCycleStageRetired := by
  induction h with
  | refl => exact hO
  | tail _ hs ih => exact fun hr => ih (faultyStep_retired hC hs hr)

/-- A definition no correct oracle's cache holds in the runs below. -/
def forgedDefinition : ChannelDefinition := ⟨reportFormatJSON, knownSelector, [8]⟩

/-- A faulty observation: it votes to retire, lists channel 5 for removal and proposes the
forged definition for channels 5 and 6. -/
def forgedObservation : Observation :=
  ⟨[], true, 2000000000, (∅ : GoMap ChannelID Unit).insert 5 (),
    ((∅ : ChannelDefinitions).insert 5 forgedDefinition).insert 6 forgedDefinition, ∅⟩

/-- The correct oracles of the window runs: their cache holds channel 5, and their
`ShouldRetireCache` answers `false`. -/
def windowOracle (env : ObservationEnv) : Prop :=
  env.definitions = (∅ : ChannelDefinitions).insert 5 windowDefinition ∧
    env.shouldRetire = .ok false

/-- What a correct oracle of the window runs observes after `windowStart`: no channel votes,
and the value its data source answers for stream 7. -/
def windowEcho : Observation :=
  ⟨[], false, 2000000000, ∅, ∅, (∅ : StreamValues).insert 7 ⟨some 1, true⟩⟩

/-- The round after `windowStart` with two correct oracles and the forged observation. -/
theorem forgedRound_faultyStep :
    (runPlugin 1 none rejectAll).FaultyStep windowOracle windowStart
      ⟨lifeCycleStageProduction, 2000000000,
        some ((∅ : ChannelDefinitions).insert 5 windowDefinition),
        some ((∅ : GoMap ChannelID UInt32).insert 5 10),
        (∅ : GoMap StreamID (Option Int)).insert 7 (some 1)⟩ :=
  ⟨.ascending, 3, [.encoded windowEcho, .encoded windowEcho, .encoded forgedObservation],
    by decide, ⟨⟨[.encoded windowEcho, .encoded windowEcho], [.encoded forgedObservation],
      List.Perm.refl _, by decide, fun ao hao =>
        ⟨.ascending, echoEnv ((∅ : ChannelDefinitions).insert 5 windowDefinition), ⟨rfl, rfl⟩,
          by obtain rfl | rfl := List.mem_pair.1 hao <;> rfl⟩⟩,
      by unfold HashesDistinct; decide⟩, rfl⟩

theorem channelDefinitions_faulty_run_forged :
    (∀ env, windowOracle env →
      env.definitions = (∅ : ChannelDefinitions).insert 5 windowDefinition) ∧
    ∃ O', Relation.ReflTransGen ((runPlugin 1 none rejectAll).FaultyStep windowOracle)
        windowStart O' ∧
      (∀ c ∈ (∅ : ChannelDefinitions).insert 5 windowDefinition, ∀ d,
        windowStart.channelDefinitions.find? c = some d →
          O'.channelDefinitions.find? c = some d) ∧
      ∀ c d, O'.channelDefinitions.find? c = some d →
        windowStart.channelDefinitions.find? c = some d ∨
          ((∅ : ChannelDefinitions).insert 5 windowDefinition).find? c = some d :=
  ⟨fun _ h => h.1, _, .single forgedRound_faultyStep,
    channelDefinitions_faulty_run (fun _ h => h.1) (.single forgedRound_faultyStep)⟩

theorem not_retired_faulty_run_forged :
    (∀ env, windowOracle env → env.shouldRetire = .ok false) ∧
    windowStart.lifeCycleStage ≠ lifeCycleStageRetired ∧
    ∃ O', Relation.ReflTransGen ((runPlugin 1 none rejectAll).FaultyStep windowOracle)
        windowStart O' ∧ O'.lifeCycleStage ≠ lifeCycleStageRetired :=
  ⟨fun _ h => h.2, by decide, _, .single forgedRound_faultyStep,
    not_retired_faulty_run (fun _ h => h.2) (by decide) (.single forgedRound_faultyStep)⟩

end LloPlugin
