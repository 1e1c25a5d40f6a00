import LloPlugin.Observation
import LloPlugin.Channels

/-!
# What the validator lets through

`ValidateObservation` stands between the oracles and `Outcome`. This module looks at both of
its sides. On the producer's side, the observation of a correct oracle can fail it: `Observation`
asks its data source for every stream of the previous outcome's channels and forwards all the
values, while the validator rejects more than `MAX_OBSERVATION_STREAM_VALUES_LENGTH` of them,
and nothing bounds the streams of a channel. On the consumer's side, what the validator admits
is enough for `Outcome` never to panic: the `nil` predecessor config digest is dereferenced
only for an attested retirement report, which the validator rejects when there is no
predecessor, and the stream values it admits are never `nil` when marked valid, so the sort of a
stream's values never compares a `nil` pointer.

## Main definitions

* `LloPlugin.ObservationEnv.SoundSource` — the data source answers only for the streams asked
  for and never marks a `nil` value valid.
* `LloPlugin.bigDefinition`, `LloPlugin.echoEnv` — a channel with 1001 streams, and an oracle
  whose data source answers every stream.

## Main results

* `LloPlugin.validateObservation_observation` — an observation `Observation` produces passes
  the validator exactly when its data source answered with at most
  `MAX_OBSERVATION_STREAM_VALUES_LENGTH` values.
* `LloPlugin.observation_rejected_by_validator` — every instance without predecessor reaches
  an outcome from which a correct oracle's observation fails the validator.
* `LloPlugin.screenObservations_ok`, `LloPlugin.streamMedians_ok` — the observation loop and
  the median loop succeed on what the validator admits.
* `LloPlugin.validated_outcome_not_panic` — `Outcome` never panics on validated observations.
-/

set_option autoImplicit false

namespace LloPlugin

/-! ### A correct observation the validator rejects -/

/-- The data source answers only for the streams asked for and never marks a `nil` value
valid, as `DataSource.Observe` is specified to. -/
def ObservationEnv.SoundSource (env : ObservationEnv) : Prop :=
  ∀ streams values, env.observe streams = .ok values →
    (∀ s ∈ values, s ∈ streams) ∧ ∀ s r, values.find? s = some r → r.valid → r.val.isSome

/-- Stream IDs 0 to 1000. -/
def bigStreams : List StreamID := (List.range 1001).map UInt32.ofNat

/-- A channel with 1001 streams: neither the validator nor `Outcome` bounds the streams of a
definition. -/
def bigDefinition : ChannelDefinition := ⟨reportFormatJSON, knownSelector, bigStreams⟩

/-- An oracle whose cache expects `definitions` and whose data source answers a valid value
for every stream asked for. -/
def echoEnv (definitions : ChannelDefinitions) : ObservationEnv :=
  ⟨2000000000, fun _ => .ok [], .ok false, definitions,
    fun streams => .ok (streams.mapValues fun _ _ => ⟨some 1, true⟩)⟩

theorem echoEnv_soundSource (definitions : ChannelDefinitions) :
    (echoEnv definitions).SoundSource := by
  rintro streams values ⟨⟩
  refine ⟨fun s hs => (GoMap.mem_mapValues _).1 hs, fun s r hr _ => ?_⟩
  rw [GoMap.find?_mapValues, Option.map_eq_some'] at hr
  obtain ⟨_, -, rfl⟩ := hr
  rfl

/-- The streams of a single channel. -/
theorem channelStreams_singleton (c : ChannelID) (d : ChannelDefinition) :
    channelStreams ((∅ : ChannelDefinitions).insert c d) =
      GoMap.ofList (d.streamIDs.map fun s => (s, ())) := by
  rw [GoMap.ofList, List.foldl_map]
  rfl

theorem bigStreams_sorted :
    (bigStreams.map fun s => (s, ())).Pairwise (fun a b : StreamID × Unit => a.1 < b.1) := by
  simp only [bigStreams, List.pairwise_map]
  refine (List.pairwise_lt_range 1001).imp_of_mem fun ha hb hab => ?_
  rw [List.mem_range] at ha hb
  show (UInt32.ofNat _).toNat < (UInt32.ofNat _).toNat
  rwa [UInt32.toNat_ofNat_of_lt (by simp only [UInt32.size]; omega),
    UInt32.toNat_ofNat_of_lt (by simp only [UInt32.size]; omega)]

theorem size_channelStreams_bigDefinition (c : ChannelID) :
    (channelStreams ((∅ : ChannelDefinitions).insert c bigDefinition)).size = 1001 := by
  simp only [bigDefinition]
  rw [channelStreams_singleton, GoMap.size, GoMap.toList_ofList bigStreams_sorted,
    List.length_map, bigStreams, List.length_map, List.length_range]

/-- The validator's verdict on an observation that passes the first checks and carries too many
stream values. -/
theorem checkObservation_of_streamValues_gt {p : LLOPlugin}
    {ord : RangeOrder (StreamID × ObsResult)} {o : Observation}
    (ha : p.predecessorConfigDigest = none → o.attestedPredecessorRetirement = [])
    (hadd : o.addChannelDefinitions.size ≤ maxObservationAddChannelDefinitionsLength)
    (hrem : o.removeChannelIDs.size ≤ maxObservationRemoveChannelIDsLength)
    (hs : maxObservationStreamValuesLength < o.streamValues.size) :
    p.checkObservation ord o = .error ("StreamValues is too long: " ++
      toString o.streamValues.size ++ " vs " ++ toString maxObservationStreamValuesLength) := by
  rw [LLOPlugin.checkObservation, if_neg fun h => h.2 (ha h.1), if_neg (not_lt.2 hadd),
    if_neg (not_lt.2 hrem), if_pos hs]

section Producer

variable {p : LLOPlugin}

theorem buildObservation_echoEnv (hpcd : p.predecessorConfigDigest = none)
    (ord : ObservationOrders) (prev : Outcome) (definitions : ChannelDefinitions) :
    p.buildObservation ord (echoEnv definitions) prev = .ok ⟨[], false, 2000000000,
      (channelVotes ord prev definitions).1, (channelVotes ord prev definitions).2,
      (channelStreams prev.channelDefinitions).mapValues fun _ _ => ⟨some 1, true⟩⟩ := by
  simp only [LLOPlugin.buildObservation, LLOPlugin.observationRetirementReport, hpcd]
  rfl

/-- **A correct oracle's observation passes the validator exactly when its data source answered
with at most `MAX_OBSERVATION_STREAM_VALUES_LENGTH` values**, for a data source that never marks
a `nil` value valid: every other check the validator makes, `Observation` already ensures. -/
theorem validateObservation_observation {ord : ObservationOrders}
    {vord : RangeOrder (StreamID × ObsResult)} {env : ObservationEnv} {outctx : OutcomeContext}
    {ao : Payload Observation}
    (henv : ∀ streams values, env.observe streams = .ok values →
      ∀ s r, values.find? s = some r → r.valid → r.val.isSome)
    (h : p.observation ord env outctx = .ok ao) :
    p.validateObservation vord outctx ao = .ok () ↔
      ∀ o, ao = .encoded o → o.streamValues.size ≤ maxObservationStreamValuesLength := by
  rw [validateObservation_eq_ok]
  unfold LLOPlugin.observation at h
  split_ifs at h with h₀ h₁
  · cases h
    simp only [reduceCtorEq, false_and, exists_false, or_false, IsEmpty.forall_iff,
      implies_true]
  · split at h
    · cases h
    · rename_i prev _
      cases hb : p.buildObservation ord env prev with
      | error e => rw [hb] at h; cases h
      | ok o =>
        rw [hb] at h
        cases h
        have hs : 1 < outctx.seqNr := by omega
        simp [hs, ← buildObservation_wellFormed_iff henv hb]

/-- An oracle whose cache expects channel 5 and a new channel 6, on the outcome at 10 s that
added channel 5: its observation answers stream 7 and proposes channel 6, and passes the
validator. -/
theorem validateObservation_observation_windows :
    ∃ o₂ ao, (runPlugin 0 none rejectAll).outcome .ascending
        ⟨2, .encoded (runPlugin 0 none rejectAll).initialOutcome⟩
        [.encoded (windowObservation 10 true true [])] = .ok o₂ ∧
      (∀ streams values, (echoEnv (((∅ : ChannelDefinitions).insert 5 windowDefinition).insert 6
          windowDefinition)).observe streams = .ok values →
        ∀ s r, values.find? s = some r → r.valid → r.val.isSome) ∧
      (runPlugin 0 none rejectAll).observation .ascending
        (echoEnv (((∅ : ChannelDefinitions).insert 5 windowDefinition).insert 6 windowDefinition))
        ⟨3, .encoded o₂⟩ = .ok ao ∧
      (∃ o, ao = .encoded o ∧ o.streamValues.size = 1 ∧ o.addChannelDefinitions.size = 1) ∧
      ((runPlugin 0 none rejectAll).validateObservation .ascending ⟨3, .encoded o₂⟩ ao = .ok () ↔
        ∀ o, ao = .encoded o → o.streamValues.size ≤ maxObservationStreamValuesLength) := by
  have henv : ∀ streams values, (echoEnv (((∅ : ChannelDefinitions).insert 5
      windowDefinition).insert 6 windowDefinition)).observe streams = .ok values →
      ∀ s r, values.find? s = some r → r.valid → r.val.isSome :=
    fun streams values h => (echoEnv_soundSource _ streams values h).2
  refine ⟨_, ?_, rfl, henv, ?step, ?_, validateObservation_observation henv ?step⟩
  case step => exact rfl
  exact ⟨_, rfl, rfl, rfl⟩

/-- **A correct oracle's observation can fail the validator.** Every instance without
predecessor with `f ≥ 0` reaches, in two rounds, an outcome with a channel of 1001 streams.
From it, an oracle whose cache expects that channel and whose data source answers every
stream it is asked for builds an observation with 1001 stream values, for every iteration
order, and `ValidateObservation` rejects it. -/
theorem observation_rejected_by_validator (hpcd : p.predecessorConfigDigest = none)
    (hf : 0 ≤ p.f) (ord : ObservationOrders) (vord : RangeOrder (StreamID × ObsResult))
    {seqNr : Nat} (hs : 1 < seqNr) :
    ∃ prev env ao, Reachable p prev ∧ env.SoundSource ∧
      p.observation ord env ⟨seqNr, .encoded prev⟩ = .ok ao ∧
      p.validateObservation vord ⟨seqNr, .encoded prev⟩ ao =
        .error "StreamValues is too long: 1001 vs 1000" := by
  obtain ⟨prev, hstep, -, -, hdefs⟩ := @proposal_step p .ascending p.initialOutcome 0
    bigDefinition 2 0 hf (by decide) (by simp [LLOPlugin.initialOutcome, hpcd]) rfl
    GoMap.not_mem_empty (Nat.zero_le _)
  have hprev : Reachable p prev := (Reachable.init .ascending ⟨1, .empty⟩ _ le_rfl
    (outcome_initial (length_proposalRound hf 0 bigDefinition) le_rfl)).step .ascending 2 _
    (by decide) hstep
  refine ⟨prev, _, _, hprev, echoEnv_soundSource prev.channelDefinitions,
    by rw [observation_of_lt hs, buildObservation_echoEnv hpcd]; rfl, ?_⟩
  have hsize : ((channelStreams prev.channelDefinitions).mapValues
      fun _ _ => (⟨some 1, true⟩ : ObsResult)).size = 1001 := by
    rw [GoMap.size_mapValues, hdefs]
    exact size_channelStreams_bigDefinition 0
  rw [LLOPlugin.validateObservation, if_neg fun h => absurd h.1 (show ¬ seqNr ≤ 1 by omega)]
  rw [checkObservation_of_streamValues_gt (fun _ => rfl) (channelVotes_additions_le _ _ _)
    (channelVotes_removals_le _ _ _) (by rw [hsize]; decide), hsize]
  exact congrArg Except.error (by decide)

theorem observation_rejected_by_validator_standIn :
    (runPlugin 0 none rejectAll).predecessorConfigDigest = none ∧
      0 ≤ (runPlugin 0 none rejectAll).f ∧ 1 < 3 ∧
      ∃ prev env ao, Reachable (runPlugin 0 none rejectAll) prev ∧ env.SoundSource ∧
        (runPlugin 0 none rejectAll).observation .ascending env ⟨3, .encoded prev⟩ = .ok ao ∧
        (runPlugin 0 none rejectAll).validateObservation .ascending ⟨3, .encoded prev⟩ ao =
          .error "StreamValues is too long: 1001 vs 1000" :=
  ⟨rfl, by decide, by decide,
    observation_rejected_by_validator rfl (by decide) .ascending .ascending (by decide)⟩

end Producer

/-! ### `Outcome` on validated observations -/

section Consumer

variable {p : LLOPlugin}

/-- An observation whose decoded attested report is empty when there is no predecessor is
admitted or skipped, never with a panic, and an admitted one is what the string decodes to. -/
theorem admitObservation_ok {kept : Option RetirementReport} {ao : Payload Observation}
    (h : ∀ o, ao.unmarshal = .ok o → p.predecessorConfigDigest = none →
      o.attestedPredecessorRetirement = []) :
    ∃ r, p.admitObservation kept ao = .ok r ∧ ∀ o k, r = some (o, k) → ao.unmarshal = .ok o := by
  unfold LLOPlugin.admitObservation
  cases hu : ao.unmarshal with
  | error e => exact ⟨none, rfl, by simp⟩
  | ok o =>
    have hsome : ∀ k : Option RetirementReport, ∀ o' k', some (o, k) = some (o', k') →
        (Except.ok o : Except String Observation) = .ok o' :=
      fun k o' k' he => by
        simp only [Option.some.injEq, Prod.mk.injEq] at he
        rw [he.1]
    dsimp only
    split_ifs with ha
    · cases hpcd : p.predecessorConfigDigest with
      | none => exact absurd (h o hu hpcd) ha.1
      | some pcd =>
        cases hc : p.checkAttestedRetirementReport pcd o.attestedPredecessorRetirement with
        | error e => exact ⟨none, by simp only [hc], by simp⟩
        | ok R => exact ⟨some (o, some R), by simp only [hc], hsome _⟩
    · exact ⟨some (o, kept), rfl, hsome _⟩

/-- **The observation loop succeeds** on observations whose attested reports need no
predecessor config digest that is missing, and counts only decoded observations. -/
theorem screenObservations_ok :
    ∀ (aos : List (Payload Observation)) (kept : Option RetirementReport),
      (∀ ao ∈ aos, ∀ o, ao.unmarshal = .ok o → p.predecessorConfigDigest = none →
        o.attestedPredecessorRetirement = []) →
      ∃ k acc, p.screenObservations kept aos = .ok (k, acc) ∧
        ∀ o ∈ acc, ∃ ao ∈ aos, ao.unmarshal = .ok o
  | [], kept, _ => ⟨kept, [], rfl, by
    simp only [List.not_mem_nil, false_and, exists_false, imp_self, implies_true]⟩
  | ao :: aos, kept, h => by
    have htail := fun kept => screenObservations_ok aos kept
      fun ao' hao' => h ao' (List.mem_cons_of_mem _ hao')
    obtain ⟨r, hr, hdec⟩ := @admitObservation_ok p kept ao (h ao (List.mem_cons_self _ _))
    rcases r with _ | ⟨o, k'⟩
    · obtain ⟨k, acc, hs, hacc⟩ := htail kept
      refine ⟨k, acc, by simp only [LLOPlugin.screenObservations, hr, hs], fun o ho => ?_⟩
      obtain ⟨ao', hao', hu⟩ := hacc o ho
      exact ⟨ao', List.mem_cons_of_mem _ hao', hu⟩
    · obtain ⟨k, acc, hs, hacc⟩ := htail k'
      refine ⟨k, o :: acc, by simp only [LLOPlugin.screenObservations, hr, hs]; rfl,
        fun o' ho' => ?_⟩
      rcases List.mem_cons.1 ho' with rfl | ho'
      · exact ⟨ao, List.mem_cons_self _ _, hdec o' k' rfl⟩
      · obtain ⟨ao', hao', hu⟩ := hacc o' ho'
        exact ⟨ao', List.mem_cons_of_mem _ hao', hu⟩

/-- Sorting values none of which is `nil` never dereferences `nil`. -/
theorem sortObservations_ok {l : List (Option Int)} (h : ∀ v ∈ l, v.isSome) :
    ∃ l', sortObservations l = .ok l' :=
  ⟨_, by rw [sortObservations, if_pos (List.all_eq_true.2 h)]⟩

/-- The body of the median loop succeeds on a stream without `nil` values, when `f ≥ 0`: a
stream with more than `f` values has one at index `len/2`. -/
theorem addStreamMedian_ok {f : Int} (hf : 0 ≤ f) (medians : GoMap StreamID (Option Int))
    {e : StreamID × List (Option Int)} (h : ∀ v ∈ e.2, v.isSome) :
    ∃ m, addStreamMedian f medians e = .ok m := by
  obtain ⟨l, hl⟩ := sortObservations_ok h
  by_cases hlen : (l.length : Int) ≤ f
  · exact ⟨medians, by simp [addStreamMedian, hl, hlen]⟩
  · have hidx : l.length / 2 < l.length := Nat.div_lt_self (by omega) (by decide)
    exact ⟨medians.insert e.1 l[l.length / 2],
      by simp [addStreamMedian, hl, hlen, goIndex, List.getElem?_eq_getElem hidx]⟩

/-- **The median loop succeeds** on streams without `nil` values, when `f ≥ 0`. -/
theorem streamMedians_ok {f : Int} (hf : 0 ≤ f) :
    ∀ (entries : List (StreamID × List (Option Int))) (medians : GoMap StreamID (Option Int)),
      (∀ e ∈ entries, ∀ v ∈ e.2, v.isSome) →
        ∃ m, entries.foldlM (addStreamMedian f) medians = .ok m
  | [], medians, _ => ⟨medians, rfl⟩
  | e :: entries, medians, h => by
    obtain ⟨m, hm⟩ := addStreamMedian_ok hf medians (h e (List.mem_cons_self _ _))
    rw [List.foldlM_cons, hm, GoResult.ok_bind]
    exact streamMedians_ok hf entries m fun e' he' => h e' (List.mem_cons_of_mem _ he')

/-- The values the observation loop collects for a stream are never `nil`, when no counted
observation marks a `nil` value valid. -/
theorem streamObservations_isSome (ord : OutcomeOrders) {acc : List Observation}
    (h : ∀ o ∈ acc, ∀ s r, o.streamValues.find? s = some r → r.valid → r.val.isSome)
    {e : StreamID × List (Option Int)}
    (he : e ∈ (acc.foldl (p.countObservation ord) Tally.init).streamObservations.toList) :
    ∀ v ∈ e.2, v.isSome := by
  intro v hv
  have hfind := GoMap.mem_toList_iff.1 he
  have hvals := foldl_countObservation_streamObservations p ord e.1 acc Tally.init
  rw [GoMap.findD_eq, hfind, Option.getD_some] at hvals
  rw [hvals] at hv
  simp only [Tally.init, GoMap.findD_eq, GoMap.find?_empty, Option.getD_none, List.nil_append,
    List.mem_flatten, List.mem_map] at hv
  obtain ⟨_, ⟨o, ho, rfl⟩, hv⟩ := hv
  unfold Observation.validValues at hv
  split at hv
  · rename_i r hr
    split_ifs at hv with hvalid
    · rw [List.mem_singleton.1 hv]
      exact h o ho _ r hr hvalid
    · cases hv
  · cases hv

theorem baseValidAfterSeconds_not_panic (ord : OutcomeOrders) (prev : Outcome) (t : Tally)
    (defs : ChannelDefinitions) : ¬ (p.baseValidAfterSeconds ord prev t defs).IsPanic := by
  unfold LLOPlugin.baseValidAfterSeconds LLOPlugin.carriedValidAfterSeconds
  split
  · exact id
  · split <;> exact id

/-- The step from a decoded previous outcome never panics on validated observations. -/
theorem outcomeStep_not_panic (hf : 0 ≤ p.f) (ord : OutcomeOrders) (prev : Outcome)
    {aos : List (Payload Observation)}
    (hw : ∀ ao ∈ aos, ∀ o, ao.unmarshal = .ok o → o.WellFormed p) :
    ¬ (p.outcomeStep ord prev aos).IsPanic := by
  obtain ⟨k, acc, hscreen, hacc⟩ := screenObservations_ok aos none
    fun ao hao o hu => (hw ao hao o hu).attested
  have hvals : ∀ o ∈ acc, ∀ s r, o.streamValues.find? s = some r → r.valid → r.val.isSome :=
    fun o ho => by
      obtain ⟨ao, hao, hu⟩ := hacc o ho
      exact (hw ao hao o hu).val_isSome
  set t : Tally := { acc.foldl (p.countObservation ord) Tally.init with
    validPredecessorRetirementReport := k }
  have ht : aos.foldlM (p.tallyObservation ord) Tally.init = .ok t := by
    rw [foldlM_tallyObservation, show Tally.init.validPredecessorRetirementReport = none from rfl,
      hscreen]
    rfl
  simp only [LLOPlugin.outcomeStep, ht, GoResult.ok_bind]
  split_ifs with hne
  · exact id
  obtain ⟨ns, -, hns⟩ := medianTimestamp_ok hne
  rw [hns, GoResult.ok_bind]
  refine GoResult.not_isPanic_bind (baseValidAfterSeconds_not_panic ord prev t _) fun vas _ => ?_
  split
  · exact id
  · obtain ⟨m, hm⟩ := streamMedians_ok hf _ ∅ fun e he =>
      streamObservations_isSome ord hvals ((ord.streamObservations.perm _).subset he)
    rw [streamMedians, hm]
    exact id

/-- **`Outcome` never panics on validated observations.** For every plugin with `f ≥ 0`, every
outcome context and every list of attributed observations that `ValidateObservation` accepts,
`Outcome` returns an outcome or an error: it dereferences the predecessor config digest only
when it is set, sorts only stream values that are not `nil`, and indexes both medians within
bounds. -/
theorem validated_outcome_not_panic (hf : 0 ≤ p.f) (ord : OutcomeOrders)
    (vord : RangeOrder (StreamID × ObsResult)) (outctx : OutcomeContext)
    (aos : List (Payload Observation))
    (hv : ∀ ao ∈ aos, p.validateObservation vord outctx ao = .ok ()) :
    ¬ (p.outcome ord outctx aos).IsPanic := by
  unfold LLOPlugin.outcome
  split_ifs
  · exact id
  · exact id
  · split
    · exact id
    · exact outcomeStep_not_panic hf ord _ fun ao hao o hu =>
        wellFormed_of_validateObservation (hv ao hao) hu

theorem validated_outcome_not_panic_reAdd :
    0 ≤ (runPlugin 0 none rejectAll).f ∧
      (∀ ao ∈ [Payload.encoded reAddChannel], (runPlugin 0 none rejectAll).validateObservation
        .ascending ⟨2, .encoded (runPlugin 0 none rejectAll).initialOutcome⟩ ao = .ok ()) ∧
      ¬ ((runPlugin 0 none rejectAll).outcome .ascending
        ⟨2, .encoded (runPlugin 0 none rejectAll).initialOutcome⟩
        [.encoded reAddChannel]).IsPanic :=
  have hv : ∀ ao ∈ [Payload.encoded reAddChannel], (runPlugin 0 none rejectAll).validateObservation
      .ascending ⟨2, .encoded (runPlugin 0 none rejectAll).initialOutcome⟩ ao = .ok () :=
    fun ao hao => by rw [List.mem_singleton.1 hao]; rfl
  ⟨by decide, hv, validated_outcome_not_panic (by decide) .ascending .ascending _ _ hv⟩

end Consumer

end LloPlugin
