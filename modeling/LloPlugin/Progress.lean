import LloPlugin.ObservationOrder
import LloPlugin.Validation
import LloPlugin.Windows

/-!
# Progress

Two things keep a protocol instance moving. A round whose observations pass
`ValidateObservation` and come from a quorum of correct oracles always yields an outcome: the
loop counts every correct observation, the timestamp median lies between two correct
timestamps and so fits into `uint32` seconds, and no value the median loop sorts is `nil`.
What `Observation` returns to an oracle whose clock, caches and data source behave is such a
correct observation, and it passes the validator as long as the channels use at most
`MAX_OBSERVATION_STREAM_VALUES_LENGTH` streams.
And a channel whose streams a quorum keeps observing stays reportable: when more than `f` of
the counted observations carry a value for each of its streams, at most `f` vote to remove it
or to retire, and the clock moves on by a second, the step keeps its definition, publishes a
median for each of its streams, and leaves its window start at or below the previous timestamp,
so `Reports` emits a report for it in every such round.

## Main definitions

* `LloPlugin.ObservationEnv.Correct` — what a correct oracle's clock, caches and data source
  answer.
* `LloPlugin.LLOPlugin.Sustains` — what the counted observations of a round must give a channel.
* `LloPlugin.LLOPlugin.SustainingStep` — a step whose observations sustain a channel and whose
  timestamp passes the previous one.

## Main results

* `LloPlugin.outcome_ok_of_admissible` — a validated round with a quorum of admissible
  observations yields an outcome.
* `LloPlugin.outcome_ok_of_correct` — in a round in which a quorum of correct oracles ran
  `Observation`, every correct observation is valid and `Outcome` yields an outcome.
* `LloPlugin.reportable_step` — one sustaining step leaves the channel reportable.
* `LloPlugin.reportable_run` — along a run of sustaining steps the channel is reported in every
  round.
-/

set_option autoImplicit false

namespace LloPlugin

variable {p : LLOPlugin} {ord : OutcomeOrders}

/-! ### Correct rounds yield an outcome -/

/-- A timestamp between two that fit into `uint32` seconds fits too. -/
theorem timestampSeconds_ok_of_le {a b m : Int} {sa sb : UInt32}
    (ha : timestampSeconds a = .ok sa) (hb : timestampSeconds b = .ok sb) (ham : a ≤ m)
    (hmb : m ≤ b) : ∃ s, timestampSeconds m = .ok s := by
  unfold timestampSeconds at ha hb ⊢
  dsimp only at ha hb ⊢
  split_ifs at ha hb with h₁ h₂
  have h₃ : a / 1000000000 ≤ m / 1000000000 := Int.ediv_le_ediv (by decide) ham
  have h₄ : m / 1000000000 ≤ b / 1000000000 := Int.ediv_le_ediv (by decide) hmb
  exact ⟨_, if_pos ⟨h₁.1.trans h₃, lt_of_le_of_lt h₄ h₂.2⟩⟩

/-- **When a step succeeds**, read off its tally: the tally has a timestamp, the median of the
timestamps fits into `uint32` seconds, and neither `ValidAfterSeconds` nor the stream medians
fail. -/
theorem outcomeStep_ok_of_median {prev : Outcome} {aos : List (Payload Observation)} {t : Tally}
    (ht : aos.foldlM (p.tallyObservation ord) Tally.init = .ok t)
    (hne : t.timestampsNanoseconds ≠ [])
    (hfit : ∀ ns, medianTimestamp t.timestampsNanoseconds = .ok ns →
      ∃ s, timestampSeconds ns = .ok s)
    (hvas : ∀ stage, ∃ vas, p.baseValidAfterSeconds ord prev t
      (p.editChannelDefinitions ord prev t stage).1 = .ok vas)
    (hmed : ∃ m, streamMedians p.f (ord.streamObservations.order t.streamObservations.toList) =
      .ok m) :
    ∃ o', p.outcomeStep ord prev aos = .ok o' := by
  obtain ⟨ns, -, hns⟩ := medianTimestamp_ok hne
  obtain ⟨s, hs⟩ := hfit ns hns
  obtain ⟨vas, hvas⟩ := hvas (nextLifeCycleStage p.f prev.lifeCycleStage
    t.validPredecessorRetirementReport t.shouldRetireVotes)
  obtain ⟨m, hm⟩ := hmed
  simp only [LLOPlugin.outcomeStep, ht, GoResult.ok_bind, if_neg hne, hns, hvas, hs, hm]
  exact ⟨_, rfl⟩

/-- **A quorum of admissible observations moves the instance on.** Above sequence number 1,
from a previous outcome whose timestamp fits (as every outcome `Outcome` returns does), on at
least `2f+1` attributed observations that `ValidateObservation` accepts, of which at most `f`
are faulty and the others are admissible observations with timestamps that fit into `uint32`
seconds, `Outcome` returns an outcome: none of its error branches is taken, whatever the faulty
entries hold. -/
theorem outcome_ok_of_admissible {seqNr : Nat} (hs : 1 < seqNr) (hf : 0 ≤ p.f) {prev : Outcome}
    {s₀ : UInt32} (hprev : prev.observationsTimestampSeconds = .ok s₀)
    {aos : List (Payload Observation)} {correct : List Observation}
    {faulty : List (Payload Observation)} (hsplit : aos.Perm (correct.map .encoded ++ faulty))
    (hlen : 2 * p.f + 1 ≤ aos.length) (hfaulty : (faulty.length : Int) ≤ p.f)
    (hcorrect : ∀ o ∈ correct,
      p.Admissible o ∧ ∃ s, timestampSeconds o.unixTimestampNanoseconds = .ok s)
    (vord : RangeOrder (StreamID × ObsResult))
    (hv : ∀ ao ∈ aos, p.validateObservation vord ⟨seqNr, .encoded prev⟩ ao = .ok ()) :
    ∃ o', p.outcome ord ⟨seqNr, .encoded prev⟩ aos = .ok o' := by
  rw [outcome_step hlen hs]
  have hw : ∀ ao ∈ aos, ∀ o, ao.unmarshal = .ok o → o.WellFormed p := fun ao hao _ hu =>
    wellFormed_of_validateObservation (hv ao hao) hu
  obtain ⟨k, acc, hscreen, hdec⟩ := screenObservations_ok aos none
    fun ao hao o hu => (hw ao hao o hu).attested
  obtain ⟨X, hacc, hX⟩ := accepted_perm hsplit (fun o ho => (hcorrect o ho).1) hscreen
  have hCX : X.length < correct.length := by
    have hl := hsplit.length_eq
    rw [List.length_append, List.length_map] at hl
    omega
  set t : Tally := { acc.foldl (p.countObservation ord) Tally.init with
    validPredecessorRetirementReport := k }
  have hts : t.timestampsNanoseconds = acc.map (·.unixTimestampNanoseconds) :=
    foldl_countObservation_timestampsNanoseconds p ord acc Tally.init
  have htsp : t.timestampsNanoseconds.Perm
      (correct.map (·.unixTimestampNanoseconds) ++ X.map (·.unixTimestampNanoseconds)) := by
    rw [hts, ← List.map_append]
    exact hacc.map _
  refine outcomeStep_ok_of_median (foldlM_tallyObservation_of_screen hscreen) ?_ ?_
    (fun _ => baseValidAfterSeconds_ok hprev _ _) ?_
  · -- the correct timestamps are counted
    intro h
    have hl := htsp.length_eq
    rw [h, List.length_nil, List.length_append, List.length_map, List.length_map] at hl
    omega
  · -- the median lies between two correct timestamps, which fit
    intro ns hns
    rw [medianTimestamp, goIndex_eq_ok] at hns
    obtain ⟨⟨a, ha, ham⟩, ⟨b, hb, hmb⟩⟩ := exists_le_median_le htsp (by simpa using hCX) hns
    obtain ⟨oa, hoa, rfl⟩ := List.mem_map.1 ha
    obtain ⟨ob, hob, rfl⟩ := List.mem_map.1 hb
    obtain ⟨sa, hsa⟩ := (hcorrect oa hoa).2
    obtain ⟨sb, hsb⟩ := (hcorrect ob hob).2
    exact timestampSeconds_ok_of_le hsa hsb ham hmb
  · -- no counted value is `nil`
    exact streamMedians_ok hf _ ∅ fun e he => streamObservations_isSome ord
      (fun o ho => by
        obtain ⟨ao, hao, hu⟩ := hdec o ho
        exact (hw ao hao o hu).val_isSome)
      ((ord.streamObservations.perm _).subset he)

/-! ### A round of correct oracles -/

/-- A map whose keys all belong to another has at most its size. -/
theorem GoMap.size_le_of_subset {K V W : Type} [LinearOrder K] {m₁ : GoMap K V}
    {m₂ : GoMap K W} (h : ∀ k ∈ m₁, k ∈ m₂) : m₁.size ≤ m₂.size := by
  have hsub : m₁.keys.Subperm m₂.keys := List.subperm_of_subset m₁.keys_nodup fun k hk =>
    GoMap.mem_iff_mem_keys.1 (h k (GoMap.mem_iff_mem_keys.2 hk))
  simpa only [GoMap.keys, List.length_map] using hsub.length_le

/-- Every attested retirement report the oracle's cache hands out passes
`CheckAttestedRetirementReport`. -/
def ObservationEnv.AttestedChecks (p : LLOPlugin) (env : ObservationEnv) : Prop :=
  ∀ pcd a, p.predecessorConfigDigest = some pcd → env.attestedRetirementReport pcd = .ok a →
    a ≠ [] → ∃ r, p.checkAttestedRetirementReport pcd a = .ok r

/-- What a correct oracle's surroundings answer in its call of `Observation`: the data source
behaves as `DataSource.Observe` is specified to, the clock fits into `uint32` seconds, and every
attested report the retirement report cache hands out passes `CheckAttestedRetirementReport`. -/
structure ObservationEnv.Correct (p : LLOPlugin) (env : ObservationEnv) : Prop where
  sound : env.SoundSource
  now_fits : ∃ s, timestampSeconds env.nowNanoseconds = .ok s
  attested_checks : env.AttestedChecks p

section CorrectOracle

variable {oord : ObservationOrders} {env : ObservationEnv} {prev : Outcome}

/-- Above sequence number 1 `Observation` returns an encoded observation it built. -/
theorem observation_eq_ok_of_lt {seqNr : Nat} (hs : 1 < seqNr) {ao : Payload Observation}
    (h : p.observation oord env ⟨seqNr, .encoded prev⟩ = .ok ao) :
    ∃ o, ao = .encoded o ∧ p.buildObservation oord env prev = .ok o := by
  rw [observation_of_lt hs] at h
  cases hb : p.buildObservation oord env prev <;> rw [hb] at h <;> cases h
  exact ⟨_, rfl, rfl⟩

/-- An observation built with a cache whose attested reports pass the check is admissible. -/
theorem admissible_of_buildObservation (hatt : env.AttestedChecks p) {o : Observation}
    (h : p.buildObservation oord env prev = .ok o) : p.Admissible o := by
  obtain ⟨a, -, -, ha, -, -, rfl⟩ := buildObservation_eq_ok h
  by_cases ha₀ : a = []
  · exact .inl ha₀
  unfold LLOPlugin.observationRetirementReport at ha
  split at ha
  · rename_i pcd hp
    split_ifs at ha
    · cases hr : env.attestedRetirementReport pcd <;> rw [hr] at ha <;> cases ha
      obtain ⟨r, hr'⟩ := hatt pcd a hp hr ha₀
      exact .inr ⟨pcd, r, hp, hr'⟩
    · cases ha
      exact absurd rfl ha₀
  · cases ha
    exact absurd rfl ha₀

/-- An observation is stamped with the oracle's clock. -/
theorem unixTimestampNanoseconds_of_buildObservation {o : Observation}
    (h : p.buildObservation oord env prev = .ok o) :
    o.unixTimestampNanoseconds = env.nowNanoseconds := by
  obtain ⟨_, _, _, -, -, -, ho⟩ := buildObservation_eq_ok h
  rw [ho]

/-- A correct oracle's observation passes `ValidateObservation` when the channels of the
previous outcome use at most `MAX_OBSERVATION_STREAM_VALUES_LENGTH` streams. -/
theorem validateObservation_of_correct (henv : env.Correct p) {seqNr : Nat} (hs : 1 < seqNr)
    (hstreams : (channelStreams prev.channelDefinitions).size ≤ maxObservationStreamValuesLength)
    (vord : RangeOrder (StreamID × ObsResult)) {ao : Payload Observation}
    (h : p.observation oord env ⟨seqNr, .encoded prev⟩ = .ok ao) :
    p.validateObservation vord ⟨seqNr, .encoded prev⟩ ao = .ok () := by
  obtain ⟨o, rfl, hb⟩ := observation_eq_ok_of_lt hs h
  have hsize : o.streamValues.size ≤ maxObservationStreamValuesLength := by
    obtain ⟨-, -, values, -, -, hv, rfl⟩ := buildObservation_eq_ok hb
    exact (GoMap.size_le_of_subset (henv.sound _ _ hv).1).trans hstreams
  exact validateObservation_eq_ok.2 (.inr ⟨_, rfl, hs,
    (buildObservation_wellFormed_iff (fun _ _ hv => (henv.sound _ _ hv).2) hb).2 hsize⟩)

end CorrectOracle

/-- Entries that are all encoded are the encodings of what they decode to. -/
theorem map_encoded_decodedObservations :
    ∀ {l : List (Payload Observation)}, (∀ ao ∈ l, ∃ o, ao = .encoded o) →
      (decodedObservations l).map .encoded = l
  | [], _ => rfl
  | ao :: l, h => by
    obtain ⟨o, rfl⟩ := h ao (List.mem_cons_self _ _)
    rw [decodedObservations_cons_ok (show (Payload.encoded o).unmarshal = .ok o from rfl),
      List.map_cons, map_encoded_decodedObservations fun ao' hao' =>
        h ao' (List.mem_cons_of_mem _ hao')]

/-- **A round of correct oracles moves the instance on.** Above sequence number 1, from a
previous outcome whose timestamp fits and whose channels use at most
`MAX_OBSERVATION_STREAM_VALUES_LENGTH` streams, on at least `2f+1` attributed observations of
which at most `f` are faulty ones that passed `ValidateObservation` and the others are what
`Observation` returned to correct oracles, every correct observation passes
`ValidateObservation`, and in any iteration orders `Outcome` returns an outcome. -/
theorem outcome_ok_of_correct {seqNr : Nat} (hs : 1 < seqNr) (hf : 0 ≤ p.f) {prev : Outcome}
    {s₀ : UInt32} (hprev : prev.observationsTimestampSeconds = .ok s₀)
    (hstreams : (channelStreams prev.channelDefinitions).size ≤ maxObservationStreamValuesLength)
    {aos correct faulty : List (Payload Observation)} (hsplit : aos.Perm (correct ++ faulty))
    (hlen : 2 * p.f + 1 ≤ aos.length) (hfaulty : (faulty.length : Int) ≤ p.f)
    (hcorrect : ∀ ao ∈ correct, ∃ (oord : ObservationOrders) (env : ObservationEnv),
      env.Correct p ∧ p.observation oord env ⟨seqNr, .encoded prev⟩ = .ok ao)
    (vord : RangeOrder (StreamID × ObsResult))
    (hv : ∀ ao ∈ faulty, p.validateObservation vord ⟨seqNr, .encoded prev⟩ ao = .ok ()) :
    (∀ ao ∈ correct, p.validateObservation vord ⟨seqNr, .encoded prev⟩ ao = .ok ()) ∧
      ∃ o', p.outcome ord ⟨seqNr, .encoded prev⟩ aos = .ok o' := by
  have hvalid : ∀ ao ∈ correct, p.validateObservation vord ⟨seqNr, .encoded prev⟩ ao = .ok () :=
    fun ao hao => by
      obtain ⟨oord, env, henv, h⟩ := hcorrect ao hao
      exact validateObservation_of_correct henv hs hstreams vord h
  have hbuilt : ∀ ao ∈ correct, ∃ o, ao = .encoded o ∧ p.Admissible o ∧
      ∃ s, timestampSeconds o.unixTimestampNanoseconds = .ok s := fun ao hao => by
    obtain ⟨oord, env, henv, h⟩ := hcorrect ao hao
    obtain ⟨o, rfl, hb⟩ := observation_eq_ok_of_lt hs h
    exact ⟨o, rfl, admissible_of_buildObservation henv.attested_checks hb, by
      rw [unixTimestampNanoseconds_of_buildObservation hb]
      exact henv.now_fits⟩
  have hmap := map_encoded_decodedObservations fun ao hao =>
    (hbuilt ao hao).imp fun _ h => h.1
  refine ⟨hvalid, outcome_ok_of_admissible hs hf hprev (hmap.symm ▸ hsplit) hlen hfaulty
    (fun o ho => ?_) vord fun ao hao => ?_⟩
  · -- the correct observations are admissible
    obtain ⟨ao, hao, hu⟩ := List.mem_filterMap.1 ho
    obtain ⟨o', rfl, ho'⟩ := hbuilt ao hao
    cases hu
    exact ho'
  · -- every entry passed `ValidateObservation`
    exact (List.mem_append.1 (hsplit.subset hao)).elim (hvalid ao) (hv ao)

/-- A round at 2 s after an outcome at 1 s that holds channel 5, with `f = 1`: two oracles whose
caches expect channel 5 answer stream 7 with 1, and a faulty entry answers it with 1000. -/
theorem outcome_ok_of_correct_windows :
    ∃ o₁, (runPlugin 1 none rejectAll).outcome .ascending
        ⟨2, .encoded (runPlugin 1 none rejectAll).initialOutcome⟩
        (List.replicate 3 (.encoded (windowObservation 1 true true []))) = .ok o₁ ∧
      1 < 3 ∧ 0 ≤ (runPlugin 1 none rejectAll).f ∧ o₁.observationsTimestampSeconds = .ok 1 ∧
      (channelStreams o₁.channelDefinitions).size ≤ maxObservationStreamValuesLength ∧
      [Payload.encoded ⟨[], false, 2000000000, ∅, ∅, stream7 1⟩,
          .encoded (valuesObservation (stream7 1000)),
          .encoded ⟨[], false, 2000000000, ∅, ∅, stream7 1⟩].Perm
        ([.encoded ⟨[], false, 2000000000, ∅, ∅, stream7 1⟩,
          .encoded ⟨[], false, 2000000000, ∅, ∅, stream7 1⟩] ++
          [.encoded (valuesObservation (stream7 1000))]) ∧
      2 * (runPlugin 1 none rejectAll).f + 1 ≤ 3 ∧
      (([.encoded (valuesObservation (stream7 1000))] : List (Payload Observation)).length : Int) ≤
        (runPlugin 1 none rejectAll).f ∧
      (∀ ao ∈ [Payload.encoded ⟨[], false, 2000000000, ∅, ∅, stream7 1⟩,
          .encoded ⟨[], false, 2000000000, ∅, ∅, stream7 1⟩],
        ∃ (oord : ObservationOrders) (env : ObservationEnv),
          env.Correct (runPlugin 1 none rejectAll) ∧
          (runPlugin 1 none rejectAll).observation oord env ⟨3, .encoded o₁⟩ = .ok ao) ∧
      (∀ ao ∈ [Payload.encoded (valuesObservation (stream7 1000))],
        (runPlugin 1 none rejectAll).validateObservation .ascending ⟨3, .encoded o₁⟩ ao =
          .ok ()) ∧
      (∀ ao ∈ [Payload.encoded ⟨[], false, 2000000000, ∅, ∅, stream7 1⟩,
          .encoded ⟨[], false, 2000000000, ∅, ∅, stream7 1⟩],
        (runPlugin 1 none rejectAll).validateObservation .ascending ⟨3, .encoded o₁⟩ ao =
          .ok ()) ∧
      ∃ o', (runPlugin 1 none rejectAll).outcome .ascending ⟨3, .encoded o₁⟩
        [.encoded ⟨[], false, 2000000000, ∅, ∅, stream7 1⟩,
          .encoded (valuesObservation (stream7 1000)),
          .encoded ⟨[], false, 2000000000, ∅, ∅, stream7 1⟩] = .ok o' := by
  have henv : (echoEnv ((∅ : ChannelDefinitions).insert 5 windowDefinition)).Correct
      (runPlugin 1 none rejectAll) :=
    ⟨echoEnv_soundSource _, ⟨2, rfl⟩, fun _ _ h => by cases h⟩
  have hsplit : [Payload.encoded ⟨[], false, 2000000000, ∅, ∅, stream7 1⟩,
      .encoded (valuesObservation (stream7 1000)),
      .encoded ⟨[], false, 2000000000, ∅, ∅, stream7 1⟩].Perm
      ([.encoded ⟨[], false, 2000000000, ∅, ∅, stream7 1⟩,
        .encoded ⟨[], false, 2000000000, ∅, ∅, stream7 1⟩] ++
        [.encoded (valuesObservation (stream7 1000))]) :=
    .cons _ (.swap _ _ _)
  refine ⟨_, rfl, by decide, by decide, ?hprev, ?hstreams, hsplit, by decide, by decide, ?hc, ?hv,
    outcome_ok_of_correct (by decide) (by decide) ?hprev ?hstreams hsplit (by decide) (by decide)
      ?hc .ascending ?hv⟩
  case hprev => exact rfl
  case hstreams => decide
  case hc =>
    intro ao hao
    obtain rfl | rfl := List.mem_pair.1 hao <;> exact ⟨.ascending, _, henv, rfl⟩
  case hv =>
    intro ao hao
    rw [List.mem_singleton.1 hao]
    rfl

/-! ### Channels stay reportable -/

/-- What the counted observations of a round must give channel `c` with definition `d` to keep
it reportable: at most `f` of them vote to retire or to remove `c`, and more than `f` carry a
valid value that is not `nil` for each stream of `c`. -/
def LLOPlugin.Sustains (p : LLOPlugin) (c : ChannelID) (d : ChannelDefinition)
    (acc : List Observation) : Prop :=
  acc.countP (·.shouldRetire) ≤ p.f ∧ acc.countP (fun o => c ∈ o.removeChannelIDs) ≤ p.f ∧
    ∀ s ∈ d.streamIDs, p.f < acc.countP fun o => (o.validValues s).any Option.isSome

/-- A step publishes a median that is not `nil` for a stream with more than `f ≥ 0` counted
values that are not `nil`. -/
theorem streamMedian_isSome {prev o' : Outcome} {k : Option RetirementReport}
    {acc : List Observation} (hf : 0 ≤ p.f)
    (hstep : StepOf p ord prev
      { acc.foldl (p.countObservation ord) Tally.init with validPredecessorRetirementReport := k }
      o')
    {s : StreamID} (hs : p.f < acc.countP fun o => (o.validValues s).any Option.isSome) :
    ((o'.streamMedians.find? s).join).isSome := by
  set vals := (acc.map (·.validValues s)).flatten
  have hlen : p.f < vals.length := by
    have hmono : acc.countP (fun o => (o.validValues s).any Option.isSome) ≤
        acc.countP fun o => o.validValues s ≠ [] :=
      List.countP_mono_left fun o _ h => by
        obtain ⟨x, hx, -⟩ := List.any_eq_true.1 h
        exact decide_eq_true (List.ne_nil_of_mem hx)
    rw [length_flatten_validValues]
    omega
  have hpos : 0 < acc.countP fun o => (o.validValues s).any Option.isSome := by omega
  obtain ⟨o, ho, hsome⟩ := List.countP_pos_iff.1 hpos
  obtain ⟨x, hx, hxs⟩ := List.any_eq_true.1 hsome
  have hxv : x ∈ vals := List.mem_flatten.2 ⟨_, List.mem_map.2 ⟨o, ho, rfl⟩, hx⟩
  have hfind : (acc.foldl (p.countObservation ord) Tally.init).streamObservations.find? s =
      some vals := by
    refine GoMap.find?_of_findD_ne ?_ (List.ne_nil_of_mem hxv)
    rw [foldl_countObservation_streamObservations]
    rfl
  obtain ⟨m, -, hmed⟩ := find?_foldlM_addStreamMedian_median
    (((ord.streamObservations.perm _).map Prod.fst).nodup_iff.2 (GoMap.keys_nodup _))
    ((ord.streamObservations.perm _).mem_iff.2 (GoMap.mem_toList_iff.2 hfind))
    hstep.streamMedians_eq ⟨x, hxv, hxs⟩ hlen
  rw [hmed]
  rfl

/-- **One round keeps a channel reportable.** In a step from a production outcome in which
channel `c` has definition `d` with a chain selector that resolves and a `ValidAfterSeconds`
entry, when the counted observations sustain `c` and the new timestamp in seconds passes the
previous one, the new outcome is in production, keeps `d` and an entry for `c`, and `c` is
reportable in it. -/
theorem reportable_step (hf : 0 ≤ p.f) {seqNr : Nat} (hs : 1 < seqNr) {prev o' : Outcome}
    {aos : List (Payload Observation)} {c : ChannelID} {d : ChannelDefinition}
    (h : p.outcome ord ⟨seqNr, .encoded prev⟩ aos = .ok o')
    (hstage : prev.lifeCycleStage = lifeCycleStageProduction)
    (hd : prev.channelDefinitions.find? c = some d) (hv : c ∈ prev.validAfterSeconds)
    (hcs : ∃ id, p.chainIdFromSelector d.chainSelector = .ok id)
    (hacc : ∀ k acc, p.screenObservations none aos = .ok (k, acc) → p.Sustains c d acc)
    (hts : ∀ s s', prev.observationsTimestampSeconds = .ok s →
      o'.observationsTimestampSeconds = .ok s' → s < s') :
    o'.lifeCycleStage = lifeCycleStageProduction ∧ o'.channelDefinitions.find? c = some d ∧
      c ∈ o'.validAfterSeconds ∧ o'.isReportable p.chainIdFromSelector c = .ok () := by
  obtain ⟨t, ht, hstep⟩ := outcomeStep_eq_ok (outcome_eq_outcomeStep hs h)
  obtain ⟨k, acc, hscreen, rfl⟩ := tally_eq ht
  obtain ⟨hret, hrem, hmed⟩ := hacc k acc hscreen
  have hc : c ∈ prev.channelDefinitions := GoMap.mem_iff_isSome.2 (by rw [hd]; rfl)
  -- the stage stays production
  have hprod : o'.lifeCycleStage = lifeCycleStageProduction := by
    rw [hstep.lifeCycleStage_eq, hstage, foldl_countObservation_shouldRetireVotes]
    simp only [nextLifeCycleStage, production_ne_staging, false_and, ↓reduceIte, true_and,
      Tally.init, Nat.zero_add, not_lt.2 hret]
  -- the definition stays
  obtain ⟨-, hdef⟩ := editChannelDefinitions_keep ord k o'.lifeCycleStage hc hrem
  have hd' : o'.channelDefinitions.find? c = some d := by
    rw [hstep.channelDefinitions, hdef, hd]
  -- the window starts at or below the previous timestamp
  obtain ⟨v, hv⟩ := Option.isSome_iff_exists.1 hv
  obtain ⟨ts, hts₀, hfind⟩ := validAfterSeconds_carried hs h
    (fun _ _ _ => if_neg (by rw [hstage]; exact production_ne_staging)) hc hv
    (fun k' acc' h' => by
      cases hscreen.symm.trans h'
      exact hrem)
  have hle : carriedValue (prev.isReportable p.chainIdFromSelector) ts c v ≤ ts := by
    unfold carriedValue
    split
    · exact le_refl _
    · rename_i hr
      obtain ⟨-, ts', d', v', hts', -, -, -, hv', hlt⟩ := Outcome.isReportable_eq_ok.1 hr
      rw [hts₀] at hts'
      rw [hv] at hv'
      cases hts'
      cases hv'
      exact hlt.le
  obtain ⟨-, ts', -, hts', -⟩ := hstep.validAfterSeconds
  refine ⟨hprod, hd', GoMap.mem_iff_isSome.2 (by rw [hfind]; rfl),
    Outcome.isReportable_eq_ok.2 ⟨by rw [hprod]; exact Ne.symm retired_ne_production, ts', d, _,
      hts', hd', hcs, fun s hsd => streamMedian_isSome hf hstep (hmed s hsd), hfind,
      lt_of_le_of_lt hle (hts ts ts' hts₀ hts')⟩⟩

/-- A step whose counted observations sustain channel `c` with definition `d`, and whose
timestamp in seconds passes the previous one. -/
def LLOPlugin.SustainingStep (p : LLOPlugin) (c : ChannelID) (d : ChannelDefinition)
    (o o' : Outcome) : Prop :=
  ∃ (ord : OutcomeOrders) (seqNr : Nat) (aos : List (Payload Observation)), 1 < seqNr ∧
    p.outcome ord ⟨seqNr, .encoded o⟩ aos = .ok o' ∧
    (∀ k acc, p.screenObservations none aos = .ok (k, acc) → p.Sustains c d acc) ∧
    ∀ s s', o.observationsTimestampSeconds = .ok s → o'.observationsTimestampSeconds = .ok s' →
      s < s'

/-- **A sustained channel is reported in every round.** From a production outcome in which
channel `c` has definition `d`, whose chain selector resolves, and a `ValidAfterSeconds` entry,
every outcome a run of sustaining steps reaches is in production, keeps `d`, and lists `c`
among its reportable channels, so `Reports` emits a report for `c` from it. -/
theorem reportable_run (hf : 0 ≤ p.f) {c : ChannelID} {d : ChannelDefinition}
    (hcs : ∃ id, p.chainIdFromSelector d.chainSelector = .ok id) {O O' : Outcome}
    (hstage : O.lifeCycleStage = lifeCycleStageProduction)
    (hd : O.channelDefinitions.find? c = some d) (hv : c ∈ O.validAfterSeconds)
    (h : Relation.TransGen (p.SustainingStep c d) O O') :
    O'.lifeCycleStage = lifeCycleStageProduction ∧ O'.channelDefinitions.find? c = some d ∧
      c ∈ O'.reportableChannels p.chainIdFromSelector := by
  have hstep : ∀ {o o'}, o.lifeCycleStage = lifeCycleStageProduction →
      o.channelDefinitions.find? c = some d → c ∈ o.validAfterSeconds →
      p.SustainingStep c d o o' →
      o'.lifeCycleStage = lifeCycleStageProduction ∧ o'.channelDefinitions.find? c = some d ∧
        c ∈ o'.validAfterSeconds ∧ o'.isReportable p.chainIdFromSelector c = .ok () :=
    fun hstage hd hv ⟨_, _, _, hs, ho, hacc, hts⟩ =>
      reportable_step hf hs ho hstage hd hv hcs hacc hts
  suffices H : O'.lifeCycleStage = lifeCycleStageProduction ∧
      O'.channelDefinitions.find? c = some d ∧ c ∈ O'.validAfterSeconds ∧
      O'.isReportable p.chainIdFromSelector c = .ok () from
    ⟨H.1, H.2.1, Outcome.mem_reportableChannels.2 H.2.2.2⟩
  induction h with
  | single hs => exact hstep hstage hd hv hs
  | tail _ hs ih =>
    obtain ⟨hstage', hd', hv', -⟩ := ih
    exact hstep hstage' hd' hv' hs

/-- The outcome after the round at 10 s of the window runs: channel 5 defined, valid after
10 s, and a median for stream 7. -/
def windowStart : Outcome :=
  ⟨lifeCycleStageProduction, 10000000000,
    some ((∅ : ChannelDefinitions).insert 5 windowDefinition),
    some ((∅ : GoMap ChannelID UInt32).insert 5 10),
    (∅ : GoMap StreamID (Option Int)).insert 7 (some 10)⟩

/-- A round of the window runs sustains channel 5: its one observation carries stream 7. -/
theorem windowObservation_sustains (seconds : Int) :
    ∀ k acc, (runPlugin 0 none rejectAll).screenObservations none
      [.encoded (windowObservation seconds false true [])] = .ok (k, acc) →
      (runPlugin 0 none rejectAll).Sustains 5 windowDefinition acc := fun k acc h => by
  cases h
  refine ⟨?_, ?_, fun s hs => ?_⟩
  · simp [windowObservation, runPlugin]
  · simp [windowObservation, runPlugin]
  · rw [List.mem_singleton.1 hs]
    simp [windowObservation, runPlugin, Observation.validValues]

theorem reportable_run_windows :
    (runPlugin 0 none rejectAll).outcome .ascending
        ⟨2, .encoded (runPlugin 0 none rejectAll).initialOutcome⟩
        [.encoded (windowObservation 10 true true [])] = .ok windowStart ∧
    ∃ O', 0 ≤ (runPlugin 0 none rejectAll).f ∧
      (∃ id, (runPlugin 0 none rejectAll).chainIdFromSelector windowDefinition.chainSelector =
        .ok id) ∧
      windowStart.lifeCycleStage = lifeCycleStageProduction ∧
      windowStart.channelDefinitions.find? 5 = some windowDefinition ∧
      5 ∈ windowStart.validAfterSeconds ∧
      Relation.TransGen ((runPlugin 0 none rejectAll).SustainingStep 5 windowDefinition)
        windowStart O' ∧
      O'.lifeCycleStage = lifeCycleStageProduction ∧
      O'.channelDefinitions.find? 5 = some windowDefinition ∧
      5 ∈ O'.reportableChannels (runPlugin 0 none rejectAll).chainIdFromSelector :=
  have hrun : Relation.TransGen ((runPlugin 0 none rejectAll).SustainingStep 5 windowDefinition)
      windowStart _ :=
    .tail (.single ⟨.ascending, 3, [.encoded (windowObservation 20 false true [])], by decide,
        rfl, windowObservation_sustains 20, fun s s' h₁ h₂ => by cases h₁; cases h₂; decide⟩)
      ⟨.ascending, 4, [.encoded (windowObservation 30 false true [])], by decide, rfl,
        windowObservation_sustains 30, fun s s' h₁ h₂ => by cases h₁; cases h₂; decide⟩
  ⟨rfl, _, by decide, ⟨1, rfl⟩, rfl, rfl, rfl, hrun,
    reportable_run (p := runPlugin 0 none rejectAll) (d := windowDefinition) (O := windowStart)
      (by decide) ⟨1, rfl⟩ rfl rfl rfl hrun⟩

end LloPlugin
