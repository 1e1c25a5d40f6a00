import LloPlugin.Basic

/-!
# The `Outcome` transition

`LLOPlugin.Outcome` maps the previous outcome and the round's attributed observations to the
next outcome. It is written here loop by loop as the source has it: the observation loop
fills the accumulators of a `Tally`; then come the lifecycle stage, the median timestamp, the
removal and addition of channels, `ValidAfterSeconds`, and the stream medians.

Every `range` over a map visits it in an order the caller chooses (`OutcomeOrders`), since Go
leaves that order to the run time and picks it afresh each time a `range` statement runs. The
three `range` statements inside the observation loop run once per counted observation, so they
get one order per run. The previous outcome's channel definitions are shared, not
copied: `outcome.ChannelDefinitions = previousOutcome.ChannelDefinitions` makes both names
point at one map, so the later call `previousOutcome.IsReportable` sees the channels as this
round has already edited them (`previousAsEdited`). A `nil` map is not shared: it is replaced
by a fresh one for the new outcome only.

## Main definitions

* `LloPlugin.OutcomeOrders` — one `RangeOrder` per run of a `range` over a map in `Outcome`.
* `LloPlugin.Tally`, `LloPlugin.LLOPlugin.admitObservation`,
  `LloPlugin.LLOPlugin.tallyObservation` — the observation loop.
* `LloPlugin.removeChannels`, `LloPlugin.addChannel`, `LloPlugin.addChannels` — the
  channel-definition loops.
* `LloPlugin.carriedValue`, `LloPlugin.carryValidAfterSeconds`, `LloPlugin.addNewChannels` —
  the `ValidAfterSeconds` loops.
* `LloPlugin.LLOPlugin.outcomeStep`, `LloPlugin.LLOPlugin.outcome` — the transition.
-/

set_option autoImplicit false

namespace LloPlugin

/-- `ocr3types.OutcomeContext`, as far as `Outcome` reads it. -/
structure OutcomeContext where
  seqNr : Nat
  previousOutcome : Payload Outcome

/-- The order of every `range` over a map in `Outcome`, in source order. The three inside the
observation loop run once per counted observation, each run in an order of its own: they are
indexed by the run, the number of observations counted before it. -/
structure OutcomeOrders where
  removeChannelIDs : Nat → RangeOrder ChannelID
  addChannelDefinitions : Nat → RangeOrder (ChannelID × ChannelDefinition)
  streamValues : Nat → RangeOrder (StreamID × ObsResult)
  removeChannelVotesByID : RangeOrder (ChannelID × Nat)
  addChannelDefinitionsByHash : RangeOrder (ChannelHash × ChannelDefinitionWithID)
  previousValidAfterSeconds : RangeOrder (ChannelID × UInt32)
  channelDefinitions : RangeOrder ChannelID
  streamObservations : RangeOrder (StreamID × List (Option Int))

/-- Every `range` in ascending key order. -/
def OutcomeOrders.ascending : OutcomeOrders :=
  ⟨fun _ => .ascending, fun _ => .ascending, fun _ => .ascending, .ascending, .ascending,
    .ascending, .ascending, .ascending⟩

/-- `slice[i]`: out of range, Go panics. -/
def goIndex {α : Type} (l : List α) (i : Nat) : GoResult α :=
  match l[i]? with
  | some a => .ok a
  | none => .panic "index out of range"

/-! ### The observation loop -/

/-- The accumulators of the observation loop. -/
structure Tally where
  validPredecessorRetirementReport : Option RetirementReport
  shouldRetireVotes : Nat
  timestampsNanoseconds : List Int
  removeChannelVotesByID : GoMap ChannelID Nat
  addChannelVotesByHash : GoMap ChannelHash Nat
  addChannelDefinitionsByHash : GoMap ChannelHash ChannelDefinitionWithID
  streamObservations : GoMap StreamID (List (Option Int))

/-- The accumulators before the first observation. -/
def Tally.init : Tally := ⟨none, 0, [], ∅, ∅, ∅, ∅⟩

/-- `for channelID := range observation.RemoveChannelIDs`: one vote per listed ID. -/
def countRemoveVotes (votes : GoMap ChannelID Nat) (ids : List ChannelID) :
    GoMap ChannelID Nat :=
  ids.foldl (fun votes c => votes.insert c (votes.findD c 0 + 1)) votes

/-- `for channelID, channelDefinition := range observation.AddChannelDefinitions`: one vote for
the definition's hash, and the definition filed under it. -/
def LLOPlugin.countAddVotes (p : LLOPlugin)
    (acc : GoMap ChannelHash Nat × GoMap ChannelHash ChannelDefinitionWithID)
    (defs : List (ChannelID × ChannelDefinition)) :
    GoMap ChannelHash Nat × GoMap ChannelHash ChannelDefinitionWithID :=
  defs.foldl (fun acc e =>
    let defWithID : ChannelDefinitionWithID := ⟨e.2, e.1⟩
    let channelHash := p.makeChannelHash defWithID
    (acc.1.insert channelHash (acc.1.findD channelHash 0 + 1),
      acc.2.insert channelHash defWithID)) acc

/-- `for id, obsResult := range observation.StreamValues`: append every valid value. -/
def collectStreamValues (obs : GoMap StreamID (List (Option Int)))
    (values : List (StreamID × ObsResult)) : GoMap StreamID (List (Option Int)) :=
  values.foldl (fun obs e =>
    if e.2.valid then obs.insert e.1 (obs.findD e.1 [] ++ [e.2.val]) else obs) obs

/-- The accumulation part of the loop body, once an observation is accepted. Its `range`
statements take the orders of the run `len(timestampsNanoseconds)`, the number of observations
counted before. -/
def LLOPlugin.countObservation (p : LLOPlugin) (ord : OutcomeOrders) (t : Tally)
    (observation : Observation) : Tally :=
  let run := t.timestampsNanoseconds.length
  let adds := p.countAddVotes (t.addChannelVotesByHash, t.addChannelDefinitionsByHash)
    ((ord.addChannelDefinitions run).order observation.addChannelDefinitions.toList)
  { t with
    shouldRetireVotes :=
      if observation.shouldRetire then t.shouldRetireVotes + 1 else t.shouldRetireVotes
    timestampsNanoseconds := t.timestampsNanoseconds ++ [observation.unixTimestampNanoseconds]
    removeChannelVotesByID := countRemoveVotes t.removeChannelVotesByID
      ((ord.removeChannelIDs run).order observation.removeChannelIDs.keys)
    addChannelVotesByHash := adds.1
    addChannelDefinitionsByHash := adds.2
    streamObservations := collectStreamValues t.streamObservations
      ((ord.streamValues run).order observation.streamValues.toList) }

/-- The loop body's verdict on one attributed observation, given the retirement report kept so
far: skip it (`none`), or count it and keep the report it leaves. An observation that does not
decode is skipped, and so is one whose attested retirement report fails the check; the first
report that passes it is kept. Dereferencing a `nil` `PredecessorConfigDigest` panics. -/
def LLOPlugin.admitObservation (p : LLOPlugin) (kept : Option RetirementReport)
    (ao : Payload Observation) : GoResult (Option (Observation × Option RetirementReport)) :=
  match ao.unmarshal with
  | .error _ => .ok none
  | .ok observation =>
    if observation.attestedPredecessorRetirement ≠ [] ∧ kept = none then
      match p.predecessorConfigDigest with
      | none => .panic "invalid memory address or nil pointer dereference"
      | some pcd =>
        match p.checkAttestedRetirementReport pcd observation.attestedPredecessorRetirement with
        | .error _ => .ok none
        | .ok retirementReport => .ok (some (observation, some retirementReport))
    else .ok (some (observation, kept))

/-- The body of `for _, ao := range aos`. -/
def LLOPlugin.tallyObservation (p : LLOPlugin) (ord : OutcomeOrders) (t : Tally)
    (ao : Payload Observation) : GoResult Tally :=
  match p.admitObservation t.validPredecessorRetirementReport ao with
  | .ok none => .ok t
  | .ok (some (observation, kept)) =>
    .ok (p.countObservation ord { t with validPredecessorRetirementReport := kept } observation)
  | .error e => .error e
  | .panic e => .panic e

/-! ### Lifecycle and timestamp -/

/-- The lifecycle stage of the new outcome: a staging instance with a valid retirement report
is promoted, and a production instance with more than `f` retire votes retires. -/
def nextLifeCycleStage (f : Int) (previous : LLOLifeCycleStage)
    (validPredecessorRetirementReport : Option RetirementReport) (shouldRetireVotes : Nat) :
    LLOLifeCycleStage :=
  let stage := if previous = lifeCycleStageStaging ∧ validPredecessorRetirementReport.isSome
    then lifeCycleStageProduction else previous
  if stage = lifeCycleStageProduction ∧ f < shouldRetireVotes then lifeCycleStageRetired
  else stage

/-- The `ValidAfterSeconds` a promotion installs: the retirement report's map, which may be
`nil`; `none` also when there is no promotion. -/
def promotedValidAfterSeconds (previous : LLOLifeCycleStage)
    (validPredecessorRetirementReport : Option RetirementReport) :
    Option (GoMap ChannelID UInt32) :=
  if previous = lifeCycleStageStaging then
    validPredecessorRetirementReport.bind RetirementReport.validAfterSeconds?
  else none

/-- `sort.Slice` of the timestamps, then the element at index `len/2`. -/
def medianTimestamp (timestampsNanoseconds : List Int) : GoResult Int :=
  goIndex (timestampsNanoseconds.insertionSort (· ≤ ·)) (timestampsNanoseconds.length / 2)

/-! ### Channel definitions -/

/-- The removal loop: every channel with more than `f` removal votes is deleted and listed,
in the order visited. -/
def removeChannels (f : Int) (defs : ChannelDefinitions) :
    List (ChannelID × Nat) → ChannelDefinitions × List ChannelID
  | [] => (defs, [])
  | e :: votes =>
    if (e.2 : Int) ≤ f then removeChannels f defs votes
    else
      let rest := removeChannels f (defs.erase e.1) votes
      (rest.1, e.1 :: rest.2)

/-- The body of the addition loop: a definition with more than `f` votes is added unless its
channel ID is taken or the map already holds more than `MAX_OUTCOME_CHANNEL_DEFINITIONS_LENGTH`
channels. -/
def addChannel (f : Int) (votes : GoMap ChannelHash Nat) (defs : ChannelDefinitions)
    (e : ChannelHash × ChannelDefinitionWithID) : ChannelDefinitions :=
  if (votes.findD e.1 0 : Int) ≤ f then defs
  else if e.2.channelID ∈ defs then defs
  else if defs.size > maxOutcomeChannelDefinitionsLength then defs
  else defs.insert e.2.channelID e.2.channelDefinition

/-- The addition loop, over the candidates in the order visited. -/
def addChannels (f : Int) (votes : GoMap ChannelHash Nat) (defs : ChannelDefinitions)
    (candidates : List (ChannelHash × ChannelDefinitionWithID)) : ChannelDefinitions :=
  candidates.foldl (addChannel f votes) defs

/-- Both loops over the channel definitions: the edited map and the removed IDs. A retired
outcome's votes are dropped (`removeChannelVotesByID, addChannelDefinitionsByHash = nil, nil`). -/
def LLOPlugin.editChannelDefinitions (p : LLOPlugin) (ord : OutcomeOrders)
    (previousOutcome : Outcome) (t : Tally) (lifeCycleStage : LLOLifeCycleStage) :
    ChannelDefinitions × List ChannelID :=
  let retired := lifeCycleStage = lifeCycleStageRetired
  let removed := removeChannels p.f previousOutcome.channelDefinitions
    (ord.removeChannelVotesByID.order (if retired then [] else t.removeChannelVotesByID.toList))
  (addChannels p.f t.addChannelVotesByHash removed.1
    (ord.addChannelDefinitionsByHash.order
      (if retired then [] else t.addChannelDefinitionsByHash.toList)), removed.2)

/-! ### `ValidAfterSeconds` -/

/-- The value the loop over the previous outcome's `ValidAfterSeconds` gives a channel with
previous value `v`: the previous timestamp when `IsReportable` fails, `v` when it succeeds. -/
def carriedValue (isReportable : ChannelID → Except String Unit)
    (previousObservationsTimestampSeconds : UInt32) (channelID : ChannelID) (v : UInt32) :
    UInt32 :=
  match isReportable channelID with
  | .error _ => previousObservationsTimestampSeconds
  | .ok _ => v

/-- The loop over the previous outcome's `ValidAfterSeconds`. -/
def carryValidAfterSeconds (isReportable : ChannelID → Except String Unit)
    (previousObservationsTimestampSeconds : UInt32) (entries : List (ChannelID × UInt32)) :
    GoMap ChannelID UInt32 :=
  entries.foldl (fun vas e =>
    vas.insert e.1 (carriedValue isReportable previousObservationsTimestampSeconds e.1 e.2)) ∅

/-- `for channelID := range outcome.ChannelDefinitions`: a channel without an entry gets the
new timestamp. -/
def addNewChannels (observationsTimestampSeconds : UInt32) (vas : GoMap ChannelID UInt32)
    (ids : List ChannelID) : GoMap ChannelID UInt32 :=
  ids.foldl (fun vas c => if c ∈ vas then vas else vas.insert c observationsTimestampSeconds) vas

/-- The last two loops over `ValidAfterSeconds`: entries for new channels, then the explicit
removals. -/
def finishValidAfterSeconds (ord : OutcomeOrders) (observationsTimestampSeconds : UInt32)
    (vas : GoMap ChannelID UInt32) (channelDefinitions : ChannelDefinitions)
    (removedChannelIDs : List ChannelID) : GoMap ChannelID UInt32 :=
  removedChannelIDs.foldl GoMap.erase (addNewChannels observationsTimestampSeconds vas
    (ord.channelDefinitions.order channelDefinitions.keys))

/-- The previous outcome as `IsReportable` sees it in the `ValidAfterSeconds` loop: its channel
definitions are the map this round edited, unless they were `nil`. -/
def previousAsEdited (previousOutcome : Outcome) (channelDefinitions : ChannelDefinitions) :
    Outcome :=
  if previousOutcome.channelDefinitions?.isSome then
    { previousOutcome with channelDefinitions? := some channelDefinitions }
  else previousOutcome

/-- `ValidAfterSeconds` when no promotion installed one. -/
def LLOPlugin.carriedValidAfterSeconds (p : LLOPlugin) (ord : OutcomeOrders)
    (previousOutcome : Outcome) (channelDefinitions : ChannelDefinitions) :
    GoResult (GoMap ChannelID UInt32) :=
  match previousOutcome.observationsTimestampSeconds with
  | .error e => .error ("error getting previous outcome's observations timestamp: " ++ e)
  | .ok previousObservationsTimestampSeconds =>
    .ok (carryValidAfterSeconds
      ((previousAsEdited previousOutcome channelDefinitions).isReportable p.chainIdFromSelector)
      previousObservationsTimestampSeconds
      (ord.previousValidAfterSeconds.order previousOutcome.validAfterSeconds.toList))

/-- `ValidAfterSeconds` before the entries for new channels: the map a promotion installed,
or, when it is `nil`, the one carried over from the previous outcome. -/
def LLOPlugin.baseValidAfterSeconds (p : LLOPlugin) (ord : OutcomeOrders)
    (previousOutcome : Outcome) (t : Tally) (channelDefinitions : ChannelDefinitions) :
    GoResult (GoMap ChannelID UInt32) :=
  match promotedValidAfterSeconds previousOutcome.lifeCycleStage
      t.validPredecessorRetirementReport with
  | some vas => .ok vas
  | none => p.carriedValidAfterSeconds ord previousOutcome channelDefinitions

/-! ### Stream medians -/

/-- `sort.Slice` of a stream's values by `Cmp`. `Cmp` of a `nil` and a non-`nil` `*big.Int`
dereferences `nil`; of two `nil`s it returns at once, as they are the same pointer. -/
def sortObservations (observations : List (Option Int)) : GoResult (List (Option Int)) :=
  if observations.all Option.isSome then
    .ok (((observations.filterMap id).insertionSort (· ≤ ·)).map some)
  else if observations.all Option.isNone then .ok observations
  else .panic "invalid memory address or nil pointer dereference"

/-- The body of the median loop: a stream with more than `f` values gets the element at
`len/2` of its sorted values. -/
def addStreamMedian (f : Int) (medians : GoMap StreamID (Option Int))
    (e : StreamID × List (Option Int)) : GoResult (GoMap StreamID (Option Int)) := do
  let observations ← sortObservations e.2
  if (observations.length : Int) ≤ f then pure medians
  else do
    let median ← goIndex observations (observations.length / 2)
    pure (medians.insert e.1 median)

/-- The median loop. -/
def streamMedians (f : Int) (entries : List (StreamID × List (Option Int))) :
    GoResult (GoMap StreamID (Option Int)) :=
  entries.foldlM (addStreamMedian f) ∅

/-! ### The transition -/

/-- `Outcome` for `seqNr > 1`, from the decoded previous outcome. -/
def LLOPlugin.outcomeStep (p : LLOPlugin) (ord : OutcomeOrders) (previousOutcome : Outcome)
    (aos : List (Payload Observation)) : GoResult Outcome := do
  let t ← aos.foldlM (p.tallyObservation ord) Tally.init
  if t.timestampsNanoseconds = [] then GoResult.error "no valid observations" else
  let lifeCycleStage := nextLifeCycleStage p.f previousOutcome.lifeCycleStage
    t.validPredecessorRetirementReport t.shouldRetireVotes
  let observationsTimestampNanoseconds ← medianTimestamp t.timestampsNanoseconds
  let edited := p.editChannelDefinitions ord previousOutcome t lifeCycleStage
  let validAfterSeconds ← p.baseValidAfterSeconds ord previousOutcome t edited.1
  match timestampSeconds observationsTimestampNanoseconds with
  | .error e => GoResult.error ("error getting outcome's observations timestamp: " ++ e)
  | .ok observationsTimestampSeconds =>
    let medians ← streamMedians p.f (ord.streamObservations.order t.streamObservations.toList)
    pure ⟨lifeCycleStage, observationsTimestampNanoseconds, some edited.1,
      some (finishValidAfterSeconds ord observationsTimestampSeconds validAfterSeconds edited.1
        edited.2), medians⟩

/-- The outcome of the first round: straight to production without a predecessor, staging
with one. -/
def LLOPlugin.initialOutcome (p : LLOPlugin) : Outcome :=
  ⟨if p.predecessorConfigDigest.isNone then lifeCycleStageProduction else lifeCycleStageStaging,
    0, none, none, ∅⟩

/-- `LLOPlugin.Outcome`; an `ok` result is the outcome whose JSON encoding the source returns. -/
def LLOPlugin.outcome (p : LLOPlugin) (ord : OutcomeOrders) (outctx : OutcomeContext)
    (aos : List (Payload Observation)) : GoResult Outcome :=
  if (aos.length : Int) < 2 * p.f + 1 then
    .error ("invariant violation: expected at least 2f+1 attributed observations, got " ++
      toString aos.length ++ " (f: " ++ toString p.f ++ ")")
  else if outctx.seqNr ≤ 1 then .ok p.initialOutcome
  else match outctx.previousOutcome.unmarshal with
  | .error e => .error ("error unmarshalling previous outcome: " ++ e)
  | .ok previousOutcome => p.outcomeStep ord previousOutcome aos

end LloPlugin
