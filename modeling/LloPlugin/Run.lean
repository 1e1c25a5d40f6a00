import LloPlugin.Tally

/-!
# Runs of one protocol instance

A protocol instance starts from the outcome `Outcome` returns at sequence number 1 and moves,
round after round, to an `ok` result of `Outcome` at a higher sequence number, which the
consensus engine hands the previous outcome's bytes. `Reachable` is the set of outcomes such
runs pass through, for every choice of observations and of Go's map iteration orders.

The inversion lemma `outcomeStep_eq_ok` says once what an `ok` step consists of; the proofs
about runs read the new outcome's fields off it and never unfold `Outcome` again.

## Main definitions

* `LloPlugin.StepOf` — how every field of a step's result is computed from the loop's tally.
* `LloPlugin.Reachable` — the outcomes of the runs of one instance.

## Main results

* `LloPlugin.outcomeStep_eq_ok` — an `ok` step, read off field by field.
* `LloPlugin.outcome_eq_outcomeStep`, `LloPlugin.outcome_of_seqNr_le_one` — the two branches
  of `Outcome`.
* `LloPlugin.tally_eq` — the loop's tally from the accepted observations.
-/

set_option autoImplicit false

namespace LloPlugin

variable (p : LLOPlugin) (ord : OutcomeOrders)

/-- How each field of an `ok` result `o'` of the step from `prev` is computed from the tally
`t` of the observation loop. -/
structure StepOf (prev : Outcome) (t : Tally) (o' : Outcome) : Prop where
  timestamps_ne_nil : t.timestampsNanoseconds ≠ []
  lifeCycleStage_eq : o'.lifeCycleStage = nextLifeCycleStage p.f prev.lifeCycleStage
    t.validPredecessorRetirementReport t.shouldRetireVotes
  medianTimestamp_eq : medianTimestamp t.timestampsNanoseconds =
    .ok o'.observationsTimestampNanoseconds
  channelDefinitions_eq : o'.channelDefinitions? =
    some (p.editChannelDefinitions ord prev t o'.lifeCycleStage).1
  validAfterSeconds_eq : ∃ vas ts,
    p.baseValidAfterSeconds ord prev t (p.editChannelDefinitions ord prev t o'.lifeCycleStage).1
      = .ok vas ∧
    timestampSeconds o'.observationsTimestampNanoseconds = .ok ts ∧
    o'.validAfterSeconds? = some (finishValidAfterSeconds ord ts vas
      (p.editChannelDefinitions ord prev t o'.lifeCycleStage).1
      (p.editChannelDefinitions ord prev t o'.lifeCycleStage).2)
  streamMedians_eq : streamMedians p.f (ord.streamObservations.order t.streamObservations.toList) =
    .ok o'.streamMedians

variable {p ord}

/-- **What an `ok` step consists of.** -/
theorem outcomeStep_eq_ok {prev o' : Outcome} {aos : List (Payload Observation)}
    (h : p.outcomeStep ord prev aos = .ok o') :
    ∃ t, aos.foldlM (p.tallyObservation ord) Tally.init = .ok t ∧ StepOf p ord prev t o' := by
  simp only [LLOPlugin.outcomeStep, GoResult.bind_eq_ok] at h
  obtain ⟨t, ht, h⟩ := h
  split_ifs at h with hts
  rw [GoResult.bind_eq_ok] at h
  obtain ⟨ns, hns, h⟩ := h
  rw [GoResult.bind_eq_ok] at h
  obtain ⟨vas, hvas, h⟩ := h
  split at h
  · cases h
  · rename_i ts hts'
    rw [GoResult.bind_eq_ok] at h
    obtain ⟨med, hmed, h⟩ := h
    cases h
    exact ⟨t, ht, hts, rfl, hns, rfl, ⟨vas, ts, hvas, hts', rfl⟩, hmed⟩

namespace StepOf

variable {prev : Outcome} {t : Tally} {o' : Outcome}

/-- A step's channel definitions, as Go reads them. -/
theorem channelDefinitions (h : StepOf p ord prev t o') :
    o'.channelDefinitions = (p.editChannelDefinitions ord prev t o'.lifeCycleStage).1 := by
  rw [Outcome.channelDefinitions, h.channelDefinitions_eq]
  rfl

/-- A step's `ValidAfterSeconds`, as Go reads it. -/
theorem validAfterSeconds (h : StepOf p ord prev t o') :
    ∃ vas ts,
      p.baseValidAfterSeconds ord prev t (p.editChannelDefinitions ord prev t o'.lifeCycleStage).1
        = .ok vas ∧
      timestampSeconds o'.observationsTimestampNanoseconds = .ok ts ∧
      o'.validAfterSeconds = finishValidAfterSeconds ord ts vas
        (p.editChannelDefinitions ord prev t o'.lifeCycleStage).1
        (p.editChannelDefinitions ord prev t o'.lifeCycleStage).2 := by
  obtain ⟨vas, ts, hvas, hts, h⟩ := h.validAfterSeconds_eq
  exact ⟨vas, ts, hvas, hts, by rw [Outcome.validAfterSeconds, h]; rfl⟩

end StepOf

/-- The median timestamp of a non-empty list is one of its timestamps. -/
theorem medianTimestamp_ok {ts : List Int} (h : ts ≠ []) :
    ∃ ns ∈ ts, medianTimestamp ts = .ok ns := by
  have hlen : ts.length / 2 < (ts.insertionSort (· ≤ ·)).length := by
    rw [List.length_insertionSort]
    exact Nat.div_lt_self (List.length_pos.2 h) (by decide)
  refine ⟨_, (List.perm_insertionSort _ ts).subset (List.getElem_mem hlen), ?_⟩
  simp [medianTimestamp, goIndex, List.getElem?_eq_getElem hlen]

/-- `ValidAfterSeconds` is computed whenever the previous outcome's timestamp fits. -/
theorem baseValidAfterSeconds_ok {prev : Outcome} {s : UInt32}
    (h : prev.observationsTimestampSeconds = .ok s) (t : Tally) (defs : ChannelDefinitions) :
    ∃ vas, p.baseValidAfterSeconds ord prev t defs = .ok vas := by
  unfold LLOPlugin.baseValidAfterSeconds
  split
  · exact ⟨_, rfl⟩
  · simp only [LLOPlugin.carriedValidAfterSeconds, h]
    exact ⟨_, rfl⟩

/-- **When a step succeeds.** The tally has a timestamp, the timestamps fit into `uint32`
seconds, and neither `ValidAfterSeconds` nor the stream medians fail. -/
theorem outcomeStep_ok {prev : Outcome} {aos : List (Payload Observation)} {t : Tally}
    (ht : aos.foldlM (p.tallyObservation ord) Tally.init = .ok t)
    (hne : t.timestampsNanoseconds ≠ [])
    (hts : ∀ ns ∈ t.timestampsNanoseconds, ∃ s, timestampSeconds ns = .ok s)
    (hvas : ∃ vas, p.baseValidAfterSeconds ord prev t (p.editChannelDefinitions ord prev t
      (nextLifeCycleStage p.f prev.lifeCycleStage t.validPredecessorRetirementReport
        t.shouldRetireVotes)).1 = .ok vas)
    (hmed : ∃ m, streamMedians p.f (ord.streamObservations.order t.streamObservations.toList) =
      .ok m) :
    ∃ o', p.outcomeStep ord prev aos = .ok o' ∧ StepOf p ord prev t o' := by
  obtain ⟨ns, hns, hmedian⟩ := medianTimestamp_ok hne
  obtain ⟨s, hs⟩ := hts ns hns
  obtain ⟨vas, hvas⟩ := hvas
  obtain ⟨m, hm⟩ := hmed
  let stage := nextLifeCycleStage p.f prev.lifeCycleStage t.validPredecessorRetirementReport
    t.shouldRetireVotes
  let edited := p.editChannelDefinitions ord prev t stage
  have h : p.outcomeStep ord prev aos = .ok ⟨stage, ns, some edited.1,
      some (finishValidAfterSeconds ord s vas edited.1 edited.2), m⟩ := by
    simp only [LLOPlugin.outcomeStep, ht, GoResult.ok_bind, if_neg hne, hmedian, hvas, hs, hm]
    rfl
  obtain ⟨t', ht', hstep⟩ := outcomeStep_eq_ok h
  cases ht.symm.trans ht'
  exact ⟨_, h, hstep⟩

/-- Above sequence number 1, `Outcome` is the step from the decoded previous outcome. -/
theorem outcome_eq_outcomeStep {seqNr : Nat} {prev : Outcome} {aos : List (Payload Observation)}
    {o' : Outcome} (hs : 1 < seqNr) (h : p.outcome ord ⟨seqNr, .encoded prev⟩ aos = .ok o') :
    p.outcomeStep ord prev aos = .ok o' := by
  unfold LLOPlugin.outcome at h
  split_ifs at h with hl hs'
  · exact absurd hs' (by simpa using hs)
  · exact h

/-- At sequence number 1, `Outcome` returns the initial outcome. -/
theorem outcome_of_seqNr_le_one {outctx : OutcomeContext} {aos : List (Payload Observation)}
    {o : Outcome} (hs : outctx.seqNr ≤ 1) (h : p.outcome ord outctx aos = .ok o) :
    o = p.initialOutcome := by
  unfold LLOPlugin.outcome at h
  split_ifs at h
  cases h
  rfl

/-- With at least `2f+1` observations, `Outcome` at sequence number 1 returns the initial
outcome. -/
theorem outcome_initial {outctx : OutcomeContext} {aos : List (Payload Observation)}
    (hl : 2 * p.f + 1 ≤ aos.length) (hs : outctx.seqNr ≤ 1) :
    p.outcome ord outctx aos = .ok p.initialOutcome := by
  rw [LLOPlugin.outcome, if_neg (not_lt.2 hl), if_pos hs]

/-- With at least `2f+1` observations, `Outcome` above sequence number 1 is the step. -/
theorem outcome_step {seqNr : Nat} {prev : Outcome} {aos : List (Payload Observation)}
    (hl : 2 * p.f + 1 ≤ aos.length) (hs : 1 < seqNr) :
    p.outcome ord ⟨seqNr, .encoded prev⟩ aos = p.outcomeStep ord prev aos := by
  rw [LLOPlugin.outcome, if_neg (not_lt.2 hl), if_neg (by simpa using hs)]
  rfl

/-- The tally of the observation loop, from the accepted observations and the kept report. -/
theorem tally_eq {aos : List (Payload Observation)} {t : Tally}
    (h : aos.foldlM (p.tallyObservation ord) Tally.init = .ok t) :
    ∃ k acc, p.screenObservations none aos = .ok (k, acc) ∧
      t = { acc.foldl (p.countObservation ord) Tally.init with
        validPredecessorRetirementReport := k } := by
  rw [foldlM_tallyObservation, GoResult.bind_eq_ok] at h
  obtain ⟨⟨k, acc⟩, hs, h⟩ := h
  exact ⟨k, acc, hs, (GoResult.ok.inj h).symm⟩

/-- The outcomes of one protocol instance's runs: the outcome `Outcome` returns at sequence
number 1, and every `ok` result of `Outcome` at a higher sequence number whose previous
outcome is one of them, for any observations and any map iteration orders. -/
inductive Reachable (p : LLOPlugin) : Outcome → Prop
  | init {o : Outcome} (ord : OutcomeOrders) (outctx : OutcomeContext)
      (aos : List (Payload Observation)) :
      outctx.seqNr ≤ 1 → p.outcome ord outctx aos = .ok o → Reachable p o
  | step {o o' : Outcome} (ord : OutcomeOrders) (seqNr : Nat) (aos : List (Payload Observation)) :
      Reachable p o → 1 < seqNr → p.outcome ord ⟨seqNr, .encoded o⟩ aos = .ok o' →
      Reachable p o'

/-! ### Concrete plugins -/

/-- A selector the `chain-selectors` table resolves, to chain ID 1. -/
def knownSelector : UInt64 := 5009297550715157269

/-- A chain table that knows `knownSelector` only; the real table agrees with it there. -/
def knownChains (selector : UInt64) : Except String UInt64 :=
  if selector = knownSelector then .ok 1 else .error "unknown chain selector"

/-- A stand-in for SHA-256 in concrete runs: the bytes read as a big-endian number behind a
leading `1`, which tells any two byte strings apart. -/
def sum256StandIn (b : List UInt8) : ChannelHash :=
  b.foldl (fun acc x => acc * 256 + x.toNat) 1

/-- A stand-in for the tables of `strconv.IsPrint`: every rune above U+00FF is printable. No
error of the concrete runs quotes such a rune. -/
def isPrintTableStandIn (_ : Nat) : Bool := true

/-- The plugin of the concrete runs: `f` faulty oracles, predecessor digest `pcd` and its
retirement-report check `check`, no codecs, and the stand-ins above for the libraries. -/
def runPlugin (f : Int) (pcd : Option ConfigDigest)
    (check : ConfigDigest → List UInt8 → Except String RetirementReport) : LLOPlugin :=
  ⟨pcd, List.replicate 32 0, check, f, fun _ => none, sum256StandIn, knownChains,
    isPrintTableStandIn⟩

/-- The check of an instance without predecessor, which `Outcome` never calls. -/
def rejectAll (_ : ConfigDigest) (_ : List UInt8) : Except String RetirementReport :=
  .error "no predecessor"

/-- A stand-in for a report codec: the report's window, as two big-endian `uint32`s. -/
def windowCodec : ReportCodec :=
  ⟨fun r => .ok (bigEndian 4 r.validAfterSeconds.toNat ++ bigEndian 4 r.validUntilSeconds.toNat)⟩

/-- `runPlugin 0 none rejectAll` with `windowCodec` for every report format. -/
def reportingPlugin : LLOPlugin :=
  { runPlugin 0 none rejectAll with codecs := fun _ => some windowCodec }

/-! ### Concrete runs -/

/-- Channel 5 of the concrete runs: one stream, 7. -/
def windowDefinition : ChannelDefinition := ⟨reportFormatJSON, knownSelector, [7]⟩

/-- An observation at `seconds` with value 10 for stream 7 when `values` holds, proposing
channel 5 when `add` holds, and carrying the attested retirement report `attested`. -/
def windowObservation (seconds : Int) (add values : Bool) (attested : List UInt8) :
    Observation :=
  ⟨attested, false, seconds * 1000000000, ∅,
    if add then (∅ : ChannelDefinitions).insert 5 windowDefinition else ∅,
    if values then (∅ : StreamValues).insert 7 ⟨some 10, true⟩ else ∅⟩

/-- The retirement report of the handover run: channel 5 is valid after 5 s. -/
def handoverReport : RetirementReport := ⟨some ((∅ : GoMap ChannelID UInt32).insert 5 5)⟩

/-- The predecessor's check of the handover run: it accepts the attested report `[1]`. -/
def handoverCheck (_ : ConfigDigest) (attested : List UInt8) : Except String RetirementReport :=
  if attested = [1] then .ok handoverReport else .error "invalid attested retirement report"

end LloPlugin
