import LloPlugin.FaultyReconcile

/-!
# What correct oracles achieve despite a faulty minority

`FaultyMinority` shows what up to `f` faulty oracles cannot do: edit the channel definitions or
retire the instance. This module shows what the correct ones can, whatever the faulty
observations contain. Votes that every correct oracle casts reach more than `f` of the counted
observations, since a round counts every correct observation and has `2f+1` of them.

When every correct oracle's `ShouldRetireCache` answers `true`, a production instance retires
in the next round, and that round already leaves the channel definitions as they were. When the
retirement report caches of the correct oracles of a successor in staging hand out an attested
report that passes the check, the next round keeps a report (a correct observation carries one,
and the loop keeps the first that passes), promotes the instance, and installs the validity
starts of the report for every channel the oracles expect. When
the correct oracles expect the channels `E` and their data sources answer every stream, every
channel of `E` becomes reportable and stays reportable: the channel definitions reach `E` after
`⌈missing/5⌉` rounds (`FaultyReconcile`), the round that installs a channel gives it a
`ValidAfterSeconds` entry, and from then on every round publishes a median for each of its
streams and keeps its window start below its timestamp. That timestamp moves forward as long as
the correct oracles' clocks pass the second of the previous one: the median of the counted
timestamps lies at or above a correct one.

## Main definitions

* `LloPlugin.ObservationEnv.ObservesAll` — a data source that answers every stream it is asked
  for with a valid value that is not `nil`.
* `LloPlugin.ObservationEnv.Serves` — an oracle that expects `E` and whose data source observes
  every stream.
* `LloPlugin.ObservationEnv.ServesAfter` — such an oracle whose clock has passed the second of
  the previous outcome's timestamp.
* `LloPlugin.LLOPlugin.LiveStep` — a step with a faulty minority of such oracles.
* `LloPlugin.LiveRun` — `n` such steps.

## Main results

* `LloPlugin.mem_channelStreams` — `Observation` asks the data source for the streams of every
  channel of the previous outcome.
* `LloPlugin.FaultyRound.sustains` — the counted observations of a round of oracles that serve
  `E` sustain every channel of `E` the previous outcome defines.
* `LloPlugin.FaultyRound.clock_le_timestamp` — the timestamp of a round with a faulty minority
  lies at or above some correct oracle's clock.
* `LloPlugin.retired_of_correct_votes` — correct votes to retire retire a production instance.
* `LloPlugin.screenObservations_unattested_of_none` — a loop that keeps no retirement report
  counted no observation with an attested one.
* `LloPlugin.promoted_of_correct_reports` — correct oracles that hold the predecessor's
  attested retirement report promote a staging instance with the report's validity starts.
* `LloPlugin.reportable_live_run` — every channel of `E` is reportable after
  `max ⌈missing/5⌉ 1 + 1` steps and in every step after that.
* `LloPlugin.timestamp_advances_live_run` — along a liveness run the timestamp in seconds
  advances by at least one a step.
-/

set_option autoImplicit false

namespace LloPlugin

variable {p : LLOPlugin}

/-! ### The streams an oracle observes -/

theorem mem_foldl_insert_streams {s : StreamID} :
    ∀ (ids : List StreamID) (m : GoMap StreamID Unit),
      s ∈ ids.foldl (fun m i => m.insert i ()) m ↔ s ∈ m ∨ s ∈ ids
  | [], m => by simp
  | i :: ids, m => by
    rw [List.foldl_cons, mem_foldl_insert_streams ids, GoMap.mem_insert, List.mem_cons]
    exact or_assoc.trans or_left_comm

/-- `Observation` asks the data source for the streams of every channel of the previous
outcome. -/
theorem mem_channelStreams {defs : ChannelDefinitions} {s : StreamID} :
    s ∈ channelStreams defs ↔ ∃ e ∈ defs.toList, s ∈ e.2.streamIDs := by
  have h : ∀ (l : List (ChannelID × ChannelDefinition)) (m : GoMap StreamID Unit),
      s ∈ l.foldl (fun m e => e.2.streamIDs.foldl (fun m i => m.insert i ()) m) m ↔
        s ∈ m ∨ ∃ e ∈ l, s ∈ e.2.streamIDs := fun l => by
    induction l with
    | nil => simp
    | cons e l ih =>
      intro m
      rw [List.foldl_cons, ih, mem_foldl_insert_streams, List.exists_mem_cons_iff, or_assoc]
  rw [channelStreams, h, or_iff_right GoMap.not_mem_empty]

/-! ### The oracles of the liveness runs -/

/-- A data source that answers every stream it is asked for with a valid value that is not
`nil`. -/
def ObservationEnv.ObservesAll (env : ObservationEnv) : Prop :=
  ∀ streams values, env.observe streams = .ok values →
    ∀ s ∈ streams, ∃ v, values.find? s = some ⟨some v, true⟩

/-- An oracle of the liveness runs: it expects `E`, does not vote to retire, its attested
reports pass the check, and its data source observes every stream. -/
structure ObservationEnv.Serves (p : LLOPlugin) (E : ChannelDefinitions)
    (env : ObservationEnv) : Prop where
  expects : env.Expects p E
  observesAll : env.ObservesAll

/-- An oracle of the liveness runs in the round after `o`: it serves `E`, and its clock has
passed the second of `o`'s timestamp. -/
structure ObservationEnv.ServesAfter (p : LLOPlugin) (E : ChannelDefinitions) (o : Outcome)
    (env : ObservationEnv) : Prop where
  serves : env.Serves p E
  clock : ∀ s, o.observationsTimestampSeconds = .ok s →
    ((s.toNat : Int) + 1) * 1000000000 ≤ env.nowNanoseconds

/-- One step of the liveness runs: a step with a faulty minority whose correct oracles serve
`E` and whose clocks have passed the second of the previous timestamp. -/
def LLOPlugin.LiveStep (p : LLOPlugin) (E : ChannelDefinitions) (o o' : Outcome) : Prop :=
  p.FaultyStep (ObservationEnv.ServesAfter p E o) o o'

/-- `n` steps of the liveness runs from `O` to `O'`. -/
inductive LiveRun (p : LLOPlugin) (E : ChannelDefinitions) : Nat → Outcome → Outcome → Prop
  | refl (O : Outcome) : LiveRun p E 0 O O
  | tail {n : Nat} {O O' O'' : Outcome} :
      LiveRun p E n O O' → p.LiveStep E O' O'' → LiveRun p E (n + 1) O O''

/-- A round of oracles that meet `C` is one of oracles that meet every weaker condition. -/
theorem FaultyRound.mono {C C' : ObservationEnv → Prop} (hC : ∀ env, C env → C' env)
    {seqNr : Nat} {prev : Outcome} {aos : List (Payload Observation)}
    (h : FaultyRound p C seqNr prev aos) : FaultyRound p C' seqNr prev aos := by
  obtain ⟨correct, faulty, hsplit, hfaulty, hcorrect⟩ := h.split
  exact ⟨⟨correct, faulty, hsplit, hfaulty, fun ao hao =>
    (hcorrect ao hao).imp fun _ => Exists.imp fun _ h => ⟨hC _ h.1, h.2⟩⟩, h.distinct⟩

/-- A liveness run is a run with a faulty minority of oracles that expect `E`. -/
theorem LiveRun.faultyRun {E : ChannelDefinitions} {n : Nat} {O O' : Outcome}
    (h : LiveRun p E n O O') : FaultyRun p (ObservationEnv.Expects p E) n O O' := by
  induction h with
  | refl O => exact .refl O
  | tail _ hs ih =>
    obtain ⟨ord, seqNr, aos, hs, hround, ho⟩ := hs
    exact .tail ih ⟨ord, seqNr, aos, hs, hround.mono fun _ henv => henv.serves.expects, ho⟩

/-! ### One round -/

section Round

variable {C : ObservationEnv → Prop} {seqNr : Nat} {prev : Outcome}
  {aos : List (Payload Observation)} {k : Option RetirementReport} {acc : List Observation}

/-- **Correct votes to retire retire the instance.** For every plugin, every production outcome
and every round in which at most `f` attributed observations are faulty and the others come
from oracles whose `ShouldRetireCache` answers `true` and whose attested reports pass the check,
the step's outcome is retired, and the retiring step already leaves the channel definitions as
they were. -/
theorem retired_of_correct_votes
    (hC : ∀ env, C env → env.shouldRetire = .ok true ∧ env.AttestedChecks p) (hs : 1 < seqNr)
    (hprod : prev.lifeCycleStage = lifeCycleStageProduction)
    (hround : FaultyRound p C seqNr prev aos) {ord : OutcomeOrders} {o' : Outcome}
    (h : p.outcome ord ⟨seqNr, .encoded prev⟩ aos = .ok o') :
    o'.lifeCycleStage = lifeCycleStageRetired ∧
      o'.channelDefinitions = prev.channelDefinitions := by
  obtain ⟨k, acc, hscreen, hstage⟩ := step_lifeCycleStage hs h
  obtain ⟨correct, X, hacc, hlt, hcorrect⟩ := hround.counted hs (fun env henv => (hC env henv).2)
    (length_of_outcome_eq_ok h) hscreen
  have hvotes : p.f < acc.countP (·.shouldRetire) := lt_countP_of_correct hacc hlt fun o ho => by
    obtain ⟨_, env, henv, hb⟩ := hcorrect o ho
    exact shouldRetire_of_build hb (hC env henv).1
  have hretired : o'.lifeCycleStage = lifeCycleStageRetired := by
    rw [hstage, hprod]
    simp only [nextLifeCycleStage, production_ne_staging, false_and, ↓reduceIte, true_and, hvotes]
  obtain ⟨t, -, hstep⟩ := outcomeStep_eq_ok (outcome_eq_outcomeStep hs h)
  rw [hstep.channelDefinitions, hretired, editChannelDefinitions_retired]
  exact ⟨rfl, rfl⟩

/-- The channel of the window runs, as the caches of the liveness runs hold it. -/
def windowExpectation : ChannelDefinitions := (∅ : ChannelDefinitions).insert 5 windowDefinition

/-- What a correct oracle that expects `windowExpectation` and whose `ShouldRetireCache` answers
`true` observes at 2 s after `windowStart`. -/
def retireEcho : Observation :=
  ⟨[], true, 2000000000, ∅, ∅, (∅ : StreamValues).insert 7 ⟨some 1, true⟩⟩

/-- Two correct votes to retire and a faulty observation. -/
def retireRound : List (Payload Observation) :=
  [.encoded retireEcho, .encoded retireEcho, .encoded forgedObservation]

theorem retired_of_correct_votes_window :
    ∃ o', FaultyRound (runPlugin 1 none rejectAll)
        (fun env => env.shouldRetire = .ok true ∧ env.AttestedChecks (runPlugin 1 none rejectAll))
        3 windowStart retireRound ∧
      (runPlugin 1 none rejectAll).outcome .ascending ⟨3, .encoded windowStart⟩ retireRound =
        .ok o' ∧
      o'.lifeCycleStage = lifeCycleStageRetired ∧
      o'.channelDefinitions = windowStart.channelDefinitions := by
  have hround : FaultyRound (runPlugin 1 none rejectAll)
      (fun env => env.shouldRetire = .ok true ∧ env.AttestedChecks (runPlugin 1 none rejectAll))
      3 windowStart retireRound :=
    ⟨⟨[.encoded retireEcho, .encoded retireEcho], [.encoded forgedObservation], List.Perm.refl _,
      by decide, fun ao hao => ⟨.ascending,
        { echoEnv windowExpectation with shouldRetire := .ok true },
        ⟨rfl, fun _ _ h => by cases h⟩, by obtain rfl | rfl := List.mem_pair.1 hao <;> rfl⟩⟩,
      by unfold HashesDistinct; decide⟩
  obtain ⟨o', ho'⟩ : ∃ o', (runPlugin 1 none rejectAll).outcome .ascending
      ⟨3, .encoded windowStart⟩ retireRound = .ok o' := ⟨_, rfl⟩
  exact ⟨o', hround, ho', retired_of_correct_votes (fun _ h => h) (by decide) rfl hround ho'⟩

variable {E : ChannelDefinitions}

/-- **The rounds of the liveness runs sustain the expected channels.** Of the counted
observations, at most `f` vote to retire or list a channel of `E` for removal, and more than `f`
carry a valid value that is not `nil` for each stream of every channel the previous outcome
defines. -/
theorem FaultyRound.sustains (hround : FaultyRound p (ObservationEnv.Serves p E) seqNr prev aos)
    (hs : 1 < seqNr) (hlen : 2 * p.f + 1 ≤ aos.length)
    (hscreen : p.screenObservations none aos = .ok (k, acc)) {c : ChannelID} {d : ChannelDefinition}
    (hd : prev.channelDefinitions.find? c = some d) (hc : c ∈ E) : p.Sustains c d acc := by
  obtain ⟨correct, X, hacc, hlt, hcorrect⟩ := hround.counted hs
    (fun _ henv => henv.expects.attested_checks) hlen hscreen
  refine ⟨hround.countP_le hs (fun _ env _ henv hb =>
      shouldRetire_of_build hb henv.expects.shouldRetire_eq) hscreen,
    hround.countP_le hs (fun _ env _ henv hb => decide_eq_false
      (not_mem_removeChannelIDs_of_build hb (henv.expects.definitions_eq ▸ hc))) hscreen,
    fun s hsd => lt_countP_of_correct hacc hlt fun o ho => ?_⟩
  -- a correct oracle asks for the streams of `c` and gets a valid value for each
  obtain ⟨_, env, henv, hb⟩ := hcorrect o ho
  obtain ⟨_, _, values, -, -, hobs, ho'⟩ := buildObservation_eq_ok hb
  obtain ⟨v, hv⟩ := henv.observesAll _ _ hobs s
    (mem_channelStreams.2 ⟨(c, d), GoMap.mem_toList_iff.2 hd, hsd⟩)
  rw [ho']
  simp only [Observation.validValues, hv, ↓reduceIte, List.any_cons, Option.isSome_some,
    Bool.true_or]

/-- **Some correct oracle's clock lies at or below the step's timestamp.** The correct
observations outnumber the faulty ones among those counted, so the median of the counted
timestamps has a correct one at or below it. -/
theorem FaultyRound.clock_le_timestamp (hround : FaultyRound p C seqNr prev aos) (hs : 1 < seqNr)
    (hA : ∀ env, C env → env.AttestedChecks p) {ord : OutcomeOrders} {o' : Outcome}
    (h : p.outcome ord ⟨seqNr, .encoded prev⟩ aos = .ok o') :
    ∃ env, C env ∧ env.nowNanoseconds ≤ o'.observationsTimestampNanoseconds := by
  obtain ⟨correct, faulty, hsplit, hfaulty, hcorrect⟩ := hround.built hs
  obtain ⟨k, acc, X, hstep, hacc, hX, hfc⟩ := step_accepted hs hsplit hfaulty (fun o ho => by
    obtain ⟨oord, env, henv, hb⟩ := hcorrect o ho
    exact admissible_of_buildObservation (hA env henv) hb) h
  have hmed := hstep.medianTimestamp_eq
  simp only [foldl_countObservation_timestampsNanoseconds, Tally.init, List.nil_append,
    medianTimestamp, goIndex_eq_ok] at hmed
  obtain ⟨⟨c, hc, hle⟩, -⟩ := exists_le_median_le
    (by simpa only [List.map_append] using hacc.map (·.unixTimestampNanoseconds))
    (by simpa only [List.length_map] using lt_of_le_of_lt hX hfc) hmed
  obtain ⟨o, ho, rfl⟩ := List.mem_map.1 hc
  obtain ⟨oord, env, henv, hb⟩ := hcorrect o ho
  exact ⟨env, henv, unixTimestampNanoseconds_of_buildObservation hb ▸ hle⟩

end Round

/-! ### Steps -/

/-- A channel that at most `f` counted observations list for removal is not among the channels
a step removes. -/
theorem not_mem_editChannelDefinitions_snd (ord : OutcomeOrders) (prev : Outcome)
    (k : Option RetirementReport) (stage : LLOLifeCycleStage) {acc : List Observation}
    {c : ChannelID} (hnr : (acc.countP fun o => c ∈ o.removeChannelIDs : Int) ≤ p.f) :
    c ∉ (p.editChannelDefinitions ord prev
      { acc.foldl (p.countObservation ord) Tally.init with validPredecessorRetirementReport := k }
      stage).2 := by
  by_cases hr : stage = lifeCycleStageRetired
  · rw [hr, editChannelDefinitions_retired]
    exact List.not_mem_nil _
  · rw [editChannelDefinitions_of_ne_retired hr, mem_removeChannels_removed]
    intro hrem
    have := lt_findD_of_vote (ord.removeChannelVotesByID.perm _) hrem
    rw [removeVotes_eq_countP] at this
    omega

section Step

variable {E : ChannelDefinitions} {o o' : Outcome}

/-- A liveness step keeps a production instance in production. -/
theorem LLOPlugin.LiveStep.production (h : p.LiveStep E o o')
    (hprod : o.lifeCycleStage = lifeCycleStageProduction) :
    o'.lifeCycleStage = lifeCycleStageProduction := by
  obtain ⟨ord, seqNr, aos, hs, hround, ho⟩ := h
  obtain ⟨k, acc, hscreen, hstage⟩ := step_lifeCycleStage hs ho
  have hle := hround.countP_le hs (Q := (·.shouldRetire))
    (fun _ env _ henv hb => shouldRetire_of_build hb henv.serves.expects.shouldRetire_eq) hscreen
  rw [hstage, hprod]
  simp only [nextLifeCycleStage, production_ne_staging, false_and, ↓reduceIte, true_and,
    not_lt.2 hle]

/-- A liveness step moves the timestamp in seconds forward: the new timestamp lies at or above
a correct oracle's clock, which has passed the previous second. -/
theorem LLOPlugin.LiveStep.timestamp_lt (h : p.LiveStep E o o') {s s' : UInt32}
    (hs₀ : o.observationsTimestampSeconds = .ok s)
    (hs₁ : o'.observationsTimestampSeconds = .ok s') : s < s' := by
  obtain ⟨ord, seqNr, aos, hs, hround, ho⟩ := h
  obtain ⟨env, henv, hle⟩ := hround.clock_le_timestamp hs
    (fun _ henv => henv.serves.expects.attested_checks) ho
  have hsec : (s.toNat : Int) + 1 ≤ o'.observationsTimestampNanoseconds / 1000000000 :=
    Int.le_ediv_of_mul_le (by decide) ((henv.clock s hs₀).trans hle)
  unfold Outcome.observationsTimestampSeconds timestampSeconds at hs₁
  dsimp only at hs₁
  split_ifs at hs₁ with hfit
  cases hs₁
  show s.toNat < (UInt32.ofNat _).toNat
  rw [UInt32.toNat_ofNat_of_lt (by simp only [UInt32.size]; omega)]
  omega

/-- A liveness step gives its outcome a timestamp in seconds, past the previous one. -/
theorem LLOPlugin.LiveStep.exists_timestamp_gt (h : p.LiveStep E o o') {s : UInt32}
    (hs : o.observationsTimestampSeconds = .ok s) :
    ∃ s', o'.observationsTimestampSeconds = .ok s' ∧ s < s' := by
  have ⟨_, _, _, _, _, ho⟩ := h
  obtain ⟨s', hs'⟩ := observationsTimestampSeconds_of_outcome ho
  exact ⟨s', hs', h.timestamp_lt hs hs'⟩

/-- A liveness step gives every expected channel it defines a `ValidAfterSeconds` entry: at most
`f` observations list the channel for removal, so the step does not drop its entry. -/
theorem LLOPlugin.LiveStep.mem_validAfterSeconds (h : p.LiveStep E o o') {c : ChannelID}
    (hc : c ∈ E) (hdef : c ∈ o'.channelDefinitions) : c ∈ o'.validAfterSeconds := by
  obtain ⟨ord, seqNr, aos, hs, hround, ho⟩ := h
  obtain ⟨t, ht, hstep⟩ := outcomeStep_eq_ok (outcome_eq_outcomeStep hs ho)
  obtain ⟨k, acc, hscreen, rfl⟩ := tally_eq ht
  have hnr := hround.countP_le hs (fun _ env _ henv hb => decide_eq_false
    (not_mem_removeChannelIDs_of_build hb (henv.serves.expects.definitions_eq ▸ hc))) hscreen
  obtain ⟨vas, ts, -, -, hvas⟩ := hstep.validAfterSeconds
  rw [hstep.channelDefinitions] at hdef
  rw [hvas, mem_finishValidAfterSeconds]
  exact ⟨not_mem_editChannelDefinitions_snd ord o k _ hnr, .inr hdef⟩

/-- A liveness step makes reportable every expected channel that the production outcome it
starts from defines with a `ValidAfterSeconds` entry and a chain selector that resolves. -/
theorem LLOPlugin.LiveStep.reportable (h : p.LiveStep E o o')
    (hprod : o.lifeCycleStage = lifeCycleStageProduction) {c : ChannelID} {d : ChannelDefinition}
    (hd : o.channelDefinitions.find? c = some d) (hv : c ∈ o.validAfterSeconds) (hc : c ∈ E)
    (hcs : ∃ id, p.chainIdFromSelector d.chainSelector = .ok id) :
    o'.isReportable p.chainIdFromSelector c = .ok () := by
  obtain ⟨ord, seqNr, aos, hs, hround, ho⟩ := h
  exact (reportable_step hround.f_nonneg hs ho hprod hd hv hcs
    (fun _ _ hscreen => (hround.mono fun _ henv => henv.serves).sustains hs
      (length_of_outcome_eq_ok ho) hscreen hd hc)
    fun _ _ h₀ h₁ => LLOPlugin.LiveStep.timestamp_lt ⟨ord, seqNr, aos, hs, hround, ho⟩ h₀ h₁).2.2.2

end Step

/-! ### Promotion -/

section Promotion

variable {C : ObservationEnv → Prop} {seqNr : Nat} {prev : Outcome}
  {aos : List (Payload Observation)} {E : ChannelDefinitions}

/-- An observation that the loop admits while no report is kept, and after which none is kept,
carries no attested retirement report. -/
theorem admitObservation_unattested {ao : Payload Observation} {o : Observation}
    (h : p.admitObservation none ao = .ok (some (o, none))) :
    o.attestedPredecessorRetirement = [] := by
  unfold LLOPlugin.admitObservation at h
  cases hu : ao.unmarshal with
  | error e => simp [hu] at h
  | ok obs =>
    simp only [hu] at h
    split_ifs at h with ha
    · cases hpcd : p.predecessorConfigDigest with
      | none => simp [hpcd] at h
      | some pcd =>
        cases hR : p.checkAttestedRetirementReport pcd obs.attestedPredecessorRetirement <;>
          simp [hpcd, hR] at h
    · simp only [GoResult.ok.injEq, Option.some.injEq, Prod.mk.injEq] at h
      obtain ⟨rfl, -⟩ := h
      simpa using ha

/-- A loop that ends without a retirement report counted only observations without an attested
one. -/
theorem screenObservations_unattested_of_none :
    ∀ {aos : List (Payload Observation)} {acc : List Observation},
      p.screenObservations none aos = .ok (none, acc) →
        ∀ o ∈ acc, o.attestedPredecessorRetirement = []
  | [], acc, h => by
    cases h
    exact fun _ h => absurd h (List.not_mem_nil _)
  | ao :: aos, acc, h => by
    unfold LLOPlugin.screenObservations at h
    split at h
    · exact screenObservations_unattested_of_none h
    · rename_i o k hadmit
      rw [GoResult.bind_eq_ok] at h
      obtain ⟨⟨r₁, r₂⟩, hr, h⟩ := h
      simp only [GoResult.pure_eq, GoResult.ok.injEq, Prod.mk.injEq] at h
      obtain ⟨rfl, rfl⟩ := h
      cases k with
      | some K =>
        rw [screenObservations_of_kept K] at hr
        cases hr
      | none =>
        intro o' ho'
        rcases List.mem_cons.1 ho' with rfl | ho'
        · exact admitObservation_unattested hadmit
        · exact screenObservations_unattested_of_none hr o' ho'
    · cases h
    · cases h

/-- A correct oracle of a successor in staging attaches the attested report its retirement
report cache hands out. -/
theorem attested_of_build {pcd : ConfigDigest} (hpcd : p.predecessorConfigDigest = some pcd)
    (hstaging : prev.lifeCycleStage = lifeCycleStageStaging) {oord : ObservationOrders}
    {env : ObservationEnv} {o : Observation} {a : List UInt8}
    (ha : env.attestedRetirementReport pcd = .ok a) (h : p.buildObservation oord env prev = .ok o) :
    o.attestedPredecessorRetirement = a := by
  obtain ⟨a', _, _, ha', -, -, ho⟩ := buildObservation_eq_ok h
  simp only [LLOPlugin.observationRetirementReport, hpcd, hstaging, ↓reduceIte, ha,
    Except.mapError, Except.ok.injEq] at ha'
  rw [ho, ha']

/-- A round whose correct oracles all attach an attested report keeps a report: it counts a
correct observation, and a loop that keeps none counts only observations without one. -/
theorem FaultyRound.keeps_report (hround : FaultyRound p C seqNr prev aos) (hs : 1 < seqNr)
    {pcd : ConfigDigest} (hpcd : p.predecessorConfigDigest = some pcd)
    (hC : ∀ env, C env →
      env.AttestedChecks p ∧ ∃ a, env.attestedRetirementReport pcd = .ok a ∧ a ≠ [])
    (hstaging : prev.lifeCycleStage = lifeCycleStageStaging) (hlen : 2 * p.f + 1 ≤ aos.length)
    {k : Option RetirementReport} {acc : List Observation}
    (hscreen : p.screenObservations none aos = .ok (k, acc)) : k.isSome := by
  cases k with
  | some R => rfl
  | none =>
    have hf := hround.f_nonneg
    obtain ⟨correct, X, hacc, hlt, hcorrect⟩ :=
      hround.counted hs (fun env henv => (hC env henv).1) hlen hscreen
    obtain ⟨o, ho⟩ := List.exists_mem_of_length_pos (by omega : 0 < correct.length)
    obtain ⟨_, env, henv, hb⟩ := hcorrect o ho
    obtain ⟨a, ha, ha₀⟩ := (hC env henv).2
    exact absurd ((attested_of_build hpcd hstaging ha hb).symm.trans
      (screenObservations_unattested_of_none hscreen o
        (hacc.mem_iff.2 (List.mem_append_left _ ho)))) ha₀

/-- A step from staging that accepted the report `R` starts `ValidAfterSeconds` from the map
`R` carries. -/
theorem baseValidAfterSeconds_promoted (hstaging : prev.lifeCycleStage = lifeCycleStageStaging)
    {R : RetirementReport} {m : GoMap ChannelID UInt32} (hR : R.validAfterSeconds? = some m)
    (ord : OutcomeOrders) {t : Tally} (ht : t.validPredecessorRetirementReport = some R)
    (defs : ChannelDefinitions) : p.baseValidAfterSeconds ord prev t defs = .ok m := by
  simp only [LLOPlugin.baseValidAfterSeconds, promotedValidAfterSeconds, hstaging, ↓reduceIte,
    ht, Option.some_bind, hR]

/-- The last two loops of a step keep the entry of a channel that the map already holds and
the step does not remove. -/
theorem find?_finishValidAfterSeconds_of_mem (ord : OutcomeOrders) (ts : UInt32)
    {vas : GoMap ChannelID UInt32} (defs : ChannelDefinitions) {removed : List ChannelID}
    {c : ChannelID} (hr : c ∉ removed) (hc : c ∈ vas) :
    (finishValidAfterSeconds ord ts vas defs removed).find? c = vas.find? c := by
  rw [finishValidAfterSeconds, find?_foldl_erase_of_not_mem c hr,
    find?_addNewChannels_of_mem c ts _ hc]

/-- **Correct oracles that hold the predecessor's retirement promote the instance.** For every
plugin with a predecessor, every staging outcome and every round in which at most `f`
attributed observations are faulty and the others come from oracles that expect `E`, do not
vote to retire, whose attested reports pass the check and whose retirement report cache hands
out an attested report: the step's outcome is in production, it accepted a retirement report
`R` from one of the attributed observations, and every channel of `E` that `R` gives a
validity start has that start in the new outcome. -/
theorem promoted_of_correct_reports {pcd : ConfigDigest}
    (hpcd : p.predecessorConfigDigest = some pcd)
    (hC : ∀ env, C env →
      env.Expects p E ∧ ∃ a, env.attestedRetirementReport pcd = .ok a ∧ a ≠ [])
    (hs : 1 < seqNr) (hstaging : prev.lifeCycleStage = lifeCycleStageStaging)
    (hround : FaultyRound p C seqNr prev aos) {ord : OutcomeOrders} {o' : Outcome}
    (h : p.outcome ord ⟨seqNr, .encoded prev⟩ aos = .ok o') :
    o'.lifeCycleStage = lifeCycleStageProduction ∧ ∃ R, AcceptedRetirement p aos R ∧
      ∀ c ∈ E, ∀ v, (R.validAfterSeconds?.getD ∅).find? c = some v →
        o'.validAfterSeconds.find? c = some v := by
  obtain ⟨t, ht, hstep⟩ := outcomeStep_eq_ok (outcome_eq_outcomeStep hs h)
  obtain ⟨k, acc, hscreen, rfl⟩ := tally_eq ht
  -- the loop keeps a report, and at most `f` counted observations vote to retire
  obtain ⟨R, rfl⟩ := Option.isSome_iff_exists.1 (hround.keeps_report hs hpcd
    (fun env henv => ⟨(hC env henv).1.attested_checks, (hC env henv).2⟩) hstaging
    (length_of_outcome_eq_ok h) hscreen)
  have hretire := hround.countP_le hs (Q := (·.shouldRetire))
    (fun _ env _ henv hb => shouldRetire_of_build hb (hC env henv).1.shouldRetire_eq) hscreen
  refine ⟨?_, R, (screenObservations_report hscreen).resolve_left (by simp),
    fun c hc v hv => ?_⟩
  · rw [hstep.lifeCycleStage_eq, hstaging]
    simp [nextLifeCycleStage, foldl_countObservation_shouldRetireVotes, Tally.init,
      not_lt.2 hretire]
  -- the promotion installs the report's map, and the step keeps the entry of `c`
  obtain ⟨m, hR⟩ : ∃ m, R.validAfterSeconds? = some m :=
    Option.ne_none_iff_exists'.1 fun hR => by simp [hR] at hv
  rw [hR, Option.getD_some] at hv
  obtain ⟨vas, ts, hvas, -, hfin⟩ := hstep.validAfterSeconds
  cases (baseValidAfterSeconds_promoted hstaging hR ord rfl _).symm.trans hvas
  have hnr := hround.countP_le hs (fun _ env _ henv hb => decide_eq_false
    (not_mem_removeChannelIDs_of_build hb ((hC env henv).1.definitions_eq ▸ hc))) hscreen
  rw [hfin, find?_finishValidAfterSeconds_of_mem ord ts _
    (not_mem_editChannelDefinitions_snd ord prev _ _ hnr)
    (GoMap.mem_iff_isSome.2 (by rw [hv]; rfl)), hv]

/-- A correct oracle of the handover run: its cache expects `windowExpectation`, and its
retirement report cache hands out the attested report `[1]` that `handoverCheck` accepts. -/
def handoverEnv : ObservationEnv :=
  { echoEnv windowExpectation with attestedRetirementReport := fun _ => .ok [1] }

/-- What `handoverEnv` observes after the first outcome of a successor: the attested report,
and a vote to add channel 5. -/
def handoverEcho : Observation := ⟨[1], false, 2000000000, ∅, windowExpectation, ∅⟩

/-- Two correct observations that hand over `handoverReport`, and a faulty one. -/
def handoverRound : List (Payload Observation) :=
  [.encoded handoverEcho, .encoded handoverEcho, .encoded forgedObservation]

theorem promoted_of_correct_reports_handover :
    ∃ o', FaultyRound (runPlugin 1 (some []) handoverCheck)
        (fun env => env.Expects (runPlugin 1 (some []) handoverCheck) windowExpectation ∧
          ∃ a, env.attestedRetirementReport [] = .ok a ∧ a ≠ [])
        2 (runPlugin 1 (some []) handoverCheck).initialOutcome handoverRound ∧
      (runPlugin 1 (some []) handoverCheck).initialOutcome.lifeCycleStage =
        lifeCycleStageStaging ∧
      (runPlugin 1 (some []) handoverCheck).outcome .ascending
        ⟨2, .encoded (runPlugin 1 (some []) handoverCheck).initialOutcome⟩ handoverRound = .ok o' ∧
      o'.lifeCycleStage = lifeCycleStageProduction ∧
      ∃ R, AcceptedRetirement (runPlugin 1 (some []) handoverCheck) handoverRound R ∧
        ∀ c ∈ windowExpectation, ∀ v, (R.validAfterSeconds?.getD ∅).find? c = some v →
          o'.validAfterSeconds.find? c = some v := by
  have hround : FaultyRound (runPlugin 1 (some []) handoverCheck)
      (fun env => env.Expects (runPlugin 1 (some []) handoverCheck) windowExpectation ∧
        ∃ a, env.attestedRetirementReport [] = .ok a ∧ a ≠ [])
      2 (runPlugin 1 (some []) handoverCheck).initialOutcome handoverRound :=
    ⟨⟨[.encoded handoverEcho, .encoded handoverEcho], [.encoded forgedObservation],
      List.Perm.refl _, by decide, fun ao hao => ⟨.ascending, handoverEnv,
        ⟨⟨rfl, rfl, fun _ _ _ ha _ => ⟨handoverReport, by cases ha; rfl⟩⟩, [1], rfl, by decide⟩,
        by obtain rfl | rfl := List.mem_pair.1 hao <;> rfl⟩⟩,
      by unfold HashesDistinct; decide⟩
  obtain ⟨o', ho'⟩ : ∃ o', (runPlugin 1 (some []) handoverCheck).outcome .ascending
      ⟨2, .encoded (runPlugin 1 (some []) handoverCheck).initialOutcome⟩ handoverRound =
        .ok o' := ⟨_, rfl⟩
  exact ⟨o', hround, rfl, ho',
    promoted_of_correct_reports rfl (fun _ h => h) (by decide) rfl hround ho'⟩

end Promotion

/-! ### Runs -/

section Run

variable {E : ChannelDefinitions} {O : Outcome}

/-- A liveness run keeps a production instance in production. -/
theorem LiveRun.production (hprod : O.lifeCycleStage = lifeCycleStageProduction) {n : Nat}
    {O' : Outcome} (h : LiveRun p E n O O') : O'.lifeCycleStage = lifeCycleStageProduction := by
  induction h with
  | refl => exact hprod
  | tail _ hs ih => exact hs.production (ih hprod)

/-- Once `⌈missing/5⌉` steps have installed the missing channels, an outcome of a liveness run
from a reconciling outcome gives every expected channel its expected definition. -/
theorem LiveRun.find?_of_le (hE : E.size ≤ maxOutcomeChannelDefinitionsLength)
    (hO : Reconciling E O) {n : Nat} {O' : Outcome} (h : LiveRun p E n O O')
    (hn : ((missingChannels O.channelDefinitions E).length + 4) / 5 ≤ n) {c : ChannelID}
    {d : ChannelDefinition} (hc : E.find? c = some d) : O'.channelDefinitions.find? c = some d := by
  obtain ⟨hrec, hmiss, -⟩ := h.faultyRun.reconciling hE hO
  have hnil : missingChannels O'.channelDefinitions E = [] :=
    List.eq_nil_of_length_eq_zero (by omega)
  have hmem : c ∈ O'.channelDefinitions := by_contra fun hno => by
    simpa [hnil] using (show c ∈ missingChannels O'.channelDefinitions E from
      List.mem_filter.2 ⟨GoMap.mem_iff_mem_keys.1 (GoMap.mem_iff_isSome.2 (by rw [hc]; rfl)),
        by simpa using hno⟩)
  obtain ⟨d', hd'⟩ := Option.isSome_iff_exists.1 (GoMap.mem_iff_isSome.1 hmem)
  rw [hd', hrec.agree c d' d hd' hc]

/-- **Every expected channel becomes reportable and stays reportable.** For every plugin, every
expected channel set `E` of at most `MAX_OUTCOME_CHANNEL_DEFINITIONS_LENGTH` channels, every
reconciling production outcome `O` and every channel `c` that `E` defines as `d` with a chain
selector that resolves: after every run of at least `max ⌈missing/5⌉ 1 + 1` steps in each of
which at most `f` attributed observations are faulty, the others come from oracles that expect
`E`, whose data sources answer every stream and whose clocks have passed the second of the
previous timestamp, the outcome is in production, defines `c` as `d`, and lists `c` among its
reportable channels, so `Reports` emits a report for `c`. -/
theorem reportable_live_run (hE : E.size ≤ maxOutcomeChannelDefinitionsLength)
    (hO : Reconciling E O) (hprod : O.lifeCycleStage = lifeCycleStageProduction) {c : ChannelID}
    {d : ChannelDefinition} (hc : E.find? c = some d)
    (hcs : ∃ id, p.chainIdFromSelector d.chainSelector = .ok id) {n : Nat} {O' : Outcome}
    (hn : max (((missingChannels O.channelDefinitions E).length + 4) / 5) 1 + 1 ≤ n)
    (h : LiveRun p E n O O') :
    O'.lifeCycleStage = lifeCycleStageProduction ∧ O'.channelDefinitions.find? c = some d ∧
      c ∈ O'.reportableChannels p.chainIdFromSelector := by
  have hcE : c ∈ E := GoMap.mem_iff_isSome.2 (by rw [hc]; rfl)
  -- the last step starts from an outcome that defines `c` ...
  obtain ⟨n₁, rfl⟩ : ∃ n₁, n = n₁ + 1 := ⟨n - 1, by omega⟩
  cases h with
  | tail h₁ hs₁ =>
  rename_i P
  have hP := h₁.find?_of_le hE hO (by omega) hc
  -- ... with an entry for `c`, given by the step before it
  obtain ⟨n₂, rfl⟩ : ∃ n₂, n₁ = n₂ + 1 := ⟨n₁ - 1, by omega⟩
  have hv : c ∈ P.validAfterSeconds := by
    cases h₁ with
    | tail _ hs₂ => exact hs₂.mem_validAfterSeconds hcE (GoMap.mem_iff_isSome.2 (by rw [hP]; rfl))
  exact ⟨(h₁.tail hs₁).production hprod, (h₁.tail hs₁).find?_of_le hE hO (by omega) hc,
    Outcome.mem_reportableChannels.2
      (hs₁.reportable (h₁.production hprod) hP hv hcE hcs)⟩

/-- A correct oracle of the liveness runs at `seconds`: its cache holds `windowExpectation`,
it does not vote to retire, and its data source answers every stream with 1. -/
def liveEnv (seconds : Int) : ObservationEnv :=
  { echoEnv windowExpectation with nowNanoseconds := seconds * 1000000000 }

/-- What `liveEnv seconds` observes after an outcome that defines channel 5 as
`windowExpectation` does. -/
def liveEcho (seconds : Int) : Observation :=
  ⟨[], false, seconds * 1000000000, ∅, ∅, (∅ : StreamValues).insert 7 ⟨some 1, true⟩⟩

/-- Two correct observations at `seconds` and a faulty one. -/
def liveRound (seconds : Int) : List (Payload Observation) :=
  [.encoded (liveEcho seconds), .encoded (liveEcho seconds), .encoded forgedObservation]

theorem liveEnv_serves (seconds : Int) :
    (liveEnv seconds).Serves (runPlugin 1 none rejectAll) windowExpectation :=
  ⟨⟨rfl, rfl, fun _ _ h => by cases h⟩, by
    rintro streams values ⟨⟩ s hs
    obtain ⟨u, hu⟩ := Option.isSome_iff_exists.1 (GoMap.mem_iff_isSome.1 hs)
    exact ⟨1, by rw [GoMap.find?_mapValues, hu]; rfl⟩⟩

/-- Two steps of the liveness runs from `windowStart`, at 20 s and at 30 s. -/
theorem windowStart_liveRun :
    ∃ O', LiveRun (runPlugin 1 none rejectAll) windowExpectation 2 windowStart O' :=
  ⟨_,
    .tail (.tail (.refl _) ⟨.ascending, 3, liveRound 20, by decide,
        ⟨⟨[.encoded (liveEcho 20), .encoded (liveEcho 20)], [.encoded forgedObservation],
          List.Perm.refl _, by decide, fun ao hao => ⟨.ascending, liveEnv 20,
            ⟨liveEnv_serves 20, fun s hs => by cases hs; decide⟩,
            by obtain rfl | rfl := List.mem_pair.1 hao <;> rfl⟩⟩,
          by unfold HashesDistinct; decide⟩, rfl⟩)
      ⟨.ascending, 4, liveRound 30, by decide,
        ⟨⟨[.encoded (liveEcho 30), .encoded (liveEcho 30)], [.encoded forgedObservation],
          List.Perm.refl _, by decide, fun ao hao => ⟨.ascending, liveEnv 30,
            ⟨liveEnv_serves 30, fun s hs => by cases hs; decide⟩,
            by obtain rfl | rfl := List.mem_pair.1 hao <;> rfl⟩⟩,
          by unfold HashesDistinct; decide⟩, rfl⟩⟩

theorem reportable_live_run_window :
    ∃ O', windowExpectation.size ≤ maxOutcomeChannelDefinitionsLength ∧
      Reconciling windowExpectation windowStart ∧
      windowStart.lifeCycleStage = lifeCycleStageProduction ∧
      windowExpectation.find? 5 = some windowDefinition ∧
      (∃ id, (runPlugin 1 none rejectAll).chainIdFromSelector windowDefinition.chainSelector =
        .ok id) ∧
      max (((missingChannels windowStart.channelDefinitions windowExpectation).length + 4) / 5) 1
        + 1 ≤ 2 ∧
      LiveRun (runPlugin 1 none rejectAll) windowExpectation 2 windowStart O' ∧
      O'.lifeCycleStage = lifeCycleStageProduction ∧
      O'.channelDefinitions.find? 5 = some windowDefinition ∧
      5 ∈ O'.reportableChannels (runPlugin 1 none rejectAll).chainIdFromSelector := by
  have hrec : Reconciling windowExpectation windowStart :=
    ⟨by decide, by decide, fun _ _ _ h₁ h₂ => Option.some.inj (h₁.symm.trans h₂)⟩
  obtain ⟨_, hrun⟩ := windowStart_liveRun
  exact ⟨_, by decide, hrec, rfl, rfl, ⟨1, rfl⟩, by decide, hrun,
    reportable_live_run (c := 5) (d := windowDefinition) (by decide) hrec rfl rfl ⟨1, rfl⟩
      (by decide) hrun⟩

/-- **Along a liveness run the timestamp advances by at least a second a step.** For every
plugin, every expected channel set `E` and every outcome `O` whose timestamp in seconds is `s`:
after every run of `n` steps in each of which at most `f` attributed observations are faulty and
the others come from oracles that serve `E` and whose clocks have passed the second of the
previous timestamp, the outcome's timestamp in seconds is at least `s + n`. -/
theorem timestamp_advances_live_run {n : Nat} {O' : Outcome} (h : LiveRun p E n O O')
    {s : UInt32} (hs : O.observationsTimestampSeconds = .ok s) :
    ∃ s', O'.observationsTimestampSeconds = .ok s' ∧ s.toNat + n ≤ s'.toNat := by
  induction h with
  | refl => exact ⟨s, hs, le_refl _⟩
  | tail _ hstep ih =>
    obtain ⟨s₁, hs₁, hle⟩ := ih hs
    obtain ⟨s₂, hs₂, hlt⟩ := hstep.exists_timestamp_gt hs₁
    exact ⟨s₂, hs₂, Nat.succ_le_of_lt (Nat.lt_of_le_of_lt hle hlt)⟩

theorem timestamp_advances_live_run_window :
    ∃ O', windowStart.observationsTimestampSeconds = .ok 10 ∧
      LiveRun (runPlugin 1 none rejectAll) windowExpectation 2 windowStart O' ∧
      ∃ s', O'.observationsTimestampSeconds = .ok s' ∧ (10 : UInt32).toNat + 2 ≤ s'.toNat := by
  obtain ⟨O', hrun⟩ := windowStart_liveRun
  exact ⟨O', rfl, hrun, timestamp_advances_live_run hrun rfl⟩

end Run

end LloPlugin
