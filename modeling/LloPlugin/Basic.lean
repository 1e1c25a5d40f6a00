import LloPlugin.GoMap

/-!
# The plugin's data model

The types of `llo/plugin.go` — channel definitions, observations, outcomes, reports — and the
pure functions the `Outcome` transition and `Reports` share: `MakeChannelHash`,
`Outcome.ObservationsTimestampSeconds`, `Outcome.IsReportable` and
`Outcome.ReportableChannels`, together with `LLOPlugin.Reports` itself.

## Main definitions

* `LloPlugin.GoResult` — a Go call's end: a value, a returned `error`, or a run-time panic.
* `LloPlugin.Payload` — a byte string on the wire, as `encoding/json` reads it.
* `LloPlugin.Observation`, `LloPlugin.Outcome`, `LloPlugin.RetirementReport`,
  `LloPlugin.Report` — the structs of the source, field for field.
* `LloPlugin.LLOPlugin` — the plugin's configuration.
* `LloPlugin.Outcome.isReportable`, `LloPlugin.Outcome.reportableChannels`,
  `LloPlugin.LLOPlugin.reports` — when and what the plugin reports.

## Implementation notes

A byte string that the plugin only ever hands to `json.Unmarshal` is modelled by what
`json.Unmarshal` makes of it (`Payload`): nothing (the empty string), a value, or a decoding
error. Every value the model encodes is a `Payload.encoded`, since `json.Marshal` followed by
`json.Unmarshal` gives back the value for the types here (`nil` maps and pointers come back
`nil`). The two maps of `Outcome` whose `nil`-ness the code observes are `Option`s: the
channel definitions (the `Outcome` step shares a non-`nil` map with the previous outcome)
and `ValidAfterSeconds` (a `nil` one in a retirement report makes the successor recompute).

SHA-256, the chain-selector table and the Unicode tables of `strconv.IsPrint` belong to
libraries outside the repository; the plugin carries them as the functions `sum256`,
`chainIdFromSelector` and `isPrintTable`. What `MakeChannelHash` does with them is modelled
write by write (`LLOPlugin.makeChannelHashResult`), errors and panic included; the hash the
rest of the model uses, `LLOPlugin.makeChannelHash`, is what that call returns, and it always
returns (`makeChannelHashResult_eq_ok`).
-/

set_option autoImplicit false

namespace LloPlugin

/-! ### Go calls and wire payloads -/

/-- How a Go call ends: with a value, with a returned `error`, or in a run-time panic. -/
inductive GoResult (α : Type) where
  | ok (a : α)
  | error (msg : String)
  | panic (msg : String)
  deriving DecidableEq

namespace GoResult

instance : Monad GoResult where
  pure := ok
  bind r f := match r with
    | ok a => f a
    | error m => error m
    | panic m => panic m

variable {α β : Type}

@[simp] theorem pure_eq (a : α) : (pure a : GoResult α) = ok a := rfl

@[simp] theorem ok_bind (a : α) (f : α → GoResult β) : (ok a >>= f) = f a := rfl

@[simp] theorem error_bind (m : String) (f : α → GoResult β) : (error m >>= f) = error m := rfl

@[simp] theorem panic_bind (m : String) (f : α → GoResult β) : (panic m >>= f) = panic m := rfl

/-- The call panicked. -/
def IsPanic : GoResult α → Prop
  | panic _ => True
  | _ => False

theorem bind_eq_ok {r : GoResult α} {f : α → GoResult β} {b : β} :
    r >>= f = ok b ↔ ∃ a, r = ok a ∧ f a = ok b := by
  cases r <;> simp only [bind, ok.injEq, exists_eq_left', reduceCtorEq, false_and, exists_false]

theorem not_isPanic_bind {r : GoResult α} {f : α → GoResult β} (hr : ¬ r.IsPanic)
    (hf : ∀ a, r = ok a → ¬ (f a).IsPanic) : ¬ (r >>= f).IsPanic := by
  cases r <;> simp_all [bind, IsPanic]

/-- A Go `error` return read as a result. -/
def ofExcept : Except String α → GoResult α
  | .ok a => ok a
  | .error e => error e

end GoResult

/-- A byte string on the wire, as `json.Unmarshal` reads it. -/
inductive Payload (α : Type) where
  /-- The empty string, `len(b) == 0`. -/
  | empty
  /-- A string that decodes to `v`; `json.Marshal v` is one. -/
  | encoded (v : α)
  /-- A non-empty string that `json.Unmarshal` rejects with `err`; `quoted` is the string as
  `%q` prints it. -/
  | garbage (quoted err : String)
  deriving DecidableEq

/-- `json.Unmarshal(b, &v)`. -/
def Payload.unmarshal {α : Type} : Payload α → Except String α
  | .empty => .error "unexpected end of JSON input"
  | .encoded v => .ok v
  | .garbage _ err => .error err

/-! ### Channels -/

/-- `commontypes.ChannelID`. -/
abbrev ChannelID := UInt32

/-- `commontypes.StreamID`. -/
abbrev StreamID := UInt32

/-- `commontypes.LLOReportFormat`. -/
abbrev LLOReportFormat := String

/-- `commontypes.LLOLifeCycleStage`: a Go string, so a decoded outcome may hold any. -/
abbrev LLOLifeCycleStage := String

/-- `types.ConfigDigest`: 32 bytes. -/
abbrev ConfigDigest := List UInt8

/-- `ChannelHash`: a SHA-256 digest, read as a big-endian number. -/
abbrev ChannelHash := Nat

/-- `LifeCycleStageStaging`. -/
def lifeCycleStageStaging : LLOLifeCycleStage := "staging"

/-- `LifeCycleStageProduction`. -/
def lifeCycleStageProduction : LLOLifeCycleStage := "production"

/-- `LifeCycleStageRetired`. -/
def lifeCycleStageRetired : LLOLifeCycleStage := "retired"

/-- `ReportFormatJSON`. -/
def reportFormatJSON : LLOReportFormat := "json"

/-- `MAX_OBSERVATION_REMOVE_CHANNEL_IDS_LENGTH`. -/
def maxObservationRemoveChannelIDsLength : Nat := 5

/-- `MAX_OBSERVATION_ADD_CHANNEL_DEFINITIONS_LENGTH`. -/
def maxObservationAddChannelDefinitionsLength : Nat := 5

/-- `MAX_OBSERVATION_STREAM_VALUES_LENGTH`. -/
def maxObservationStreamValuesLength : Nat := 1000

/-- `MAX_OUTCOME_CHANNEL_DEFINITIONS_LENGTH`. -/
def maxOutcomeChannelDefinitionsLength : Nat := 500

/-- `commontypes.ChannelDefinition`: the report format, destination chain and streams of a
channel. -/
structure ChannelDefinition where
  reportFormat : LLOReportFormat
  chainSelector : UInt64
  streamIDs : List StreamID
  deriving DecidableEq, Inhabited

/-- `ChannelDefinitionWithID`. -/
structure ChannelDefinitionWithID where
  channelDefinition : ChannelDefinition
  channelID : ChannelID
  deriving DecidableEq

/-- `commontypes.ChannelDefinitions`. -/
abbrev ChannelDefinitions := GoMap ChannelID ChannelDefinition

/-- The big-endian bytes of the low `w` bytes of `n`: `binary.Write(h, binary.BigEndian, x)`
for an unsigned integer `x` of `w` bytes. -/
def bigEndian : Nat → Nat → List UInt8
  | 0, _ => []
  | w + 1, n => bigEndian w (n / 256) ++ [UInt8.ofNat n]

/-- The bytes `MakeChannelHash` writes into the hash: the channel ID, the length and bytes of
the report format, the chain selector, and the number and values of the stream IDs. -/
def channelHashInput (cd : ChannelDefinitionWithID) : List UInt8 :=
  bigEndian 4 cd.channelID.toNat ++
    bigEndian 4 cd.channelDefinition.reportFormat.utf8ByteSize ++
    cd.channelDefinition.reportFormat.toUTF8.data.toList ++
    bigEndian 8 cd.channelDefinition.chainSelector.toNat ++
    bigEndian 4 cd.channelDefinition.streamIDs.length ++
    (cd.channelDefinition.streamIDs.map fun s => bigEndian 4 s.toNat).flatten

/-! ### Observations, outcomes and reports -/

/-- `ObsResult[*big.Int]`: a stream value and its validity flag; `val = none` is a `nil`
pointer. -/
structure ObsResult where
  val : Option Int
  valid : Bool
  deriving DecidableEq

/-- `StreamValues`. -/
abbrev StreamValues := GoMap StreamID ObsResult

/-- `Observation`: one oracle's contribution to a round. -/
structure Observation where
  attestedPredecessorRetirement : List UInt8
  shouldRetire : Bool
  unixTimestampNanoseconds : Int
  removeChannelIDs : GoMap ChannelID Unit
  addChannelDefinitions : ChannelDefinitions
  streamValues : StreamValues
  deriving DecidableEq

/-- The zero `Observation`, which `ValidateObservation` reads off an empty string. -/
def Observation.zero : Observation := ⟨[], false, 0, ∅, ∅, ∅⟩

/-- `RetirementReport`: the validity starts a retiring instance hands to its successor. -/
structure RetirementReport where
  /-- `ValidAfterSeconds`; `none` is a `nil` map. -/
  validAfterSeconds? : Option (GoMap ChannelID UInt32)
  deriving DecidableEq

/-- `Outcome`: the state the consensus engine carries from one round to the next. -/
structure Outcome where
  lifeCycleStage : LLOLifeCycleStage
  observationsTimestampNanoseconds : Int
  /-- `ChannelDefinitions`; `none` is a `nil` map. -/
  channelDefinitions? : Option ChannelDefinitions
  /-- `ValidAfterSeconds`; `none` is a `nil` map. -/
  validAfterSeconds? : Option (GoMap ChannelID UInt32)
  streamMedians : GoMap StreamID (Option Int)
  deriving DecidableEq

/-- The channel definitions as Go reads them: a `nil` map reads as empty. -/
def Outcome.channelDefinitions (out : Outcome) : ChannelDefinitions :=
  out.channelDefinitions?.getD ∅

/-- `ValidAfterSeconds` as Go reads it. -/
def Outcome.validAfterSeconds (out : Outcome) : GoMap ChannelID UInt32 :=
  out.validAfterSeconds?.getD ∅

/-- `Report`: what a codec turns into one channel's report. -/
structure Report where
  configDigest : ConfigDigest
  chainSelector : UInt64
  seqNr : Nat
  channelID : ChannelID
  validAfterSeconds : UInt32
  validUntilSeconds : UInt32
  values : List (Option Int)
  specimen : Bool
  deriving DecidableEq

/-- `ReportCodec`; the plugin only calls `Encode`. -/
structure ReportCodec where
  encode : Report → Except String (List UInt8)

/-- The bytes of a report the plugin emits. -/
inductive ReportBytes where
  /-- `json.Marshal` of a retirement report. -/
  | retirement (r : RetirementReport)
  /-- A codec's encoding of a channel report. -/
  | encoded (b : List UInt8)
  deriving DecidableEq

/-- `commontypes.LLOReportInfo`. -/
structure LLOReportInfo where
  lifeCycleStage : LLOLifeCycleStage
  reportFormat : LLOReportFormat
  deriving DecidableEq

/-- `ocr3types.ReportWithInfo[commontypes.LLOReportInfo]`. -/
structure ReportWithInfo where
  report : ReportBytes
  info : LLOReportInfo
  deriving DecidableEq

/-- `LLOPlugin`: one plugin instance's configuration. The caches and the data source are read
by `Observation` only and enter the model as that call's inputs; `Outcome` uses only the
pure check `CheckAttestedRetirementReport`. -/
structure LLOPlugin where
  predecessorConfigDigest : Option ConfigDigest
  configDigest : ConfigDigest
  /-- `PredecessorRetirementReportCache.CheckAttestedRetirementReport`. -/
  checkAttestedRetirementReport : ConfigDigest → List UInt8 → Except String RetirementReport
  f : Int
  /-- `Codecs`, by report format. -/
  codecs : LLOReportFormat → Option ReportCodec
  /-- `sha256` of the `crypto/sha256` package. -/
  sum256 : List UInt8 → ChannelHash
  /-- `chainselectors.ChainIdFromSelector`. -/
  chainIdFromSelector : UInt64 → Except String UInt64
  /-- `strconv.IsPrint` for a rune above U+00FF: the lookup in the package's tables of
  printable ranges and their exceptions. -/
  isPrintTable : Nat → Bool

/-! ### `MakeChannelHash` -/

/-- `hash.Hash.Write`: the bytes are added to what the hash has read. It never returns an
error. -/
def hashWrite (h b : List UInt8) : List UInt8 × Option String := (h ++ b, none)

/-- `binary.Write(h, binary.BigEndian, x)` for an unsigned integer `x` of `w` bytes. The value
has a fixed size, so its big-endian bytes go to `h` in one `Write`, whose error is returned. -/
def binaryWrite (h : List UInt8) (w n : Nat) : List UInt8 × Option String :=
  hashWrite h (bigEndian w n)

/-- `errors.Join`: `nil` when every error is `nil`, and otherwise an error whose text is the
texts of the others, one per line. -/
def errorsJoin (errs : List (Option String)) : Option String :=
  match errs.filterMap id with
  | [] => none
  | e :: es => some (es.foldl (fun acc m => acc ++ "\n" ++ m) e)

/-- The body of `for _, streamID := range cd.StreamIDs` in `MakeChannelHash`. -/
def writeStreamID (acc : List UInt8 × Option String) (streamID : StreamID) :
    List UInt8 × Option String :=
  let (h, e) := binaryWrite acc.1 4 streamID.toNat
  (h, errorsJoin [acc.2, e])

/-- The writes of `MakeChannelHash` into the hash, in source order: what the hash has read,
and the joined error `merr`. -/
def channelHashWrites (cd : ChannelDefinitionWithID) : List UInt8 × Option String :=
  let (h, e₁) := binaryWrite [] 4 cd.channelID.toNat
  let (h, e₂) := binaryWrite h 4 cd.channelDefinition.reportFormat.utf8ByteSize
  let merr := errorsJoin [e₁, e₂]
  let (h, err) := hashWrite h cd.channelDefinition.reportFormat.toUTF8.data.toList
  let (h, e₃) := binaryWrite h 8 cd.channelDefinition.chainSelector.toNat
  let (h, e₄) := binaryWrite h 4 cd.channelDefinition.streamIDs.length
  cd.channelDefinition.streamIDs.foldl writeStreamID (h, errorsJoin [merr, err, e₃, e₄])

/-- `MakeChannelHash` as the source writes it: a non-`nil` joined error panics, and otherwise
the result is the SHA-256 of what the hash has read. -/
def LLOPlugin.makeChannelHashResult (p : LLOPlugin) (cd : ChannelDefinitionWithID) :
    GoResult ChannelHash :=
  match channelHashWrites cd with
  | (_, some merr) => .panic merr
  | (h, none) => .ok (p.sum256 h)

/-- The hash `MakeChannelHash` returns: the SHA-256 of the bytes it writes. The call always
returns it (`makeChannelHashResult_eq_ok`). -/
def LLOPlugin.makeChannelHash (p : LLOPlugin) (cd : ChannelDefinitionWithID) : ChannelHash :=
  p.sum256 (channelHashInput cd)

/-! ### Reportability -/

/-- A timestamp in nanoseconds in whole seconds: `time.Unix(0, ns).Unix()` rounds down, and
the result must fit into a `uint32`. -/
def timestampSeconds (ns : Int) : Except String UInt32 :=
  let result := ns / 1000000000
  if 0 ≤ result ∧ result < 2 ^ 32 then .ok (UInt32.ofNat result.toNat)
  else .error ("timestamp doesn't fit into uint32: " ++ toString result)

/-- `Outcome.ObservationsTimestampSeconds`. -/
def Outcome.observationsTimestampSeconds (out : Outcome) : Except String UInt32 :=
  timestampSeconds out.observationsTimestampNanoseconds

/-- `Outcome.IsReportable`: `ok` exactly when a report may be generated for the channel. -/
def Outcome.isReportable (chainIdFromSelector : UInt64 → Except String UInt64) (out : Outcome)
    (channelID : ChannelID) : Except String Unit :=
  if out.lifeCycleStage = lifeCycleStageRetired then
    .error ("IsReportable=false; retired channel with ID: " ++ toString channelID)
  else match out.observationsTimestampSeconds with
  | .error e => .error ("IsReportable=false; invalid observations timestamp; " ++ e)
  | .ok observationsTimestampSeconds =>
    match out.channelDefinitions.find? channelID with
    | none => .error ("IsReportable=false; no channel definition with ID: " ++ toString channelID)
    | some channelDefinition =>
      match chainIdFromSelector channelDefinition.chainSelector with
      | .error e => .error ("IsReportable=false; invalid chain selector; " ++ e)
      | .ok _ =>
        if channelDefinition.streamIDs.any fun s => (out.streamMedians.find? s).join.isNone then
          .error "IsReportable=false; median was nil"
        else match out.validAfterSeconds.find? channelID with
        | none => .error
            "IsReportable=false; no validAfterSeconds entry yet, this must be a new channel"
        | some validAfterSeconds =>
          if validAfterSeconds ≥ observationsTimestampSeconds then
            .error ("IsReportable=false; not valid yet (observationsTimestampSeconds=" ++
              toString observationsTimestampSeconds ++ " < validAfterSeconds=" ++
              toString validAfterSeconds ++ ")")
          else .ok ()

/-- `Outcome.ReportableChannels`: the reportable channel IDs, ascending. The source ranges over
the map and sorts the result, so the range order does not show (`reportableChannels_sort`). -/
def Outcome.reportableChannels (chainIdFromSelector : UInt64 → Except String UInt64)
    (out : Outcome) : List ChannelID :=
  out.channelDefinitions.keys.filter fun c => (out.isReportable chainIdFromSelector c).toBool

/-- The channels `ReportableChannels` collects, visited in any order, sort to the ascending
reportable channels. -/
theorem reportableChannels_sort (ord : RangeOrder ChannelID)
    (chainIdFromSelector : UInt64 → Except String UInt64) (out : Outcome) :
    ((ord.order out.channelDefinitions.keys).filter fun c =>
        (out.isReportable chainIdFromSelector c).toBool).insertionSort (· ≤ ·) =
      out.reportableChannels chainIdFromSelector :=
  GoMap.insertionSort_keys_of_perm ((ord.perm _).filter _) (out.channelDefinitions.keys_sorted.filter _)

/-! ### Reports -/

/-- `encodeReport`. -/
def LLOPlugin.encodeReport (p : LLOPlugin) (r : Report) (format : LLOReportFormat) :
    Except String (List UInt8) :=
  match p.codecs format with
  | none => .error ("codec missing for ReportFormat=" ++ format)
  | some codec => codec.encode r

/-- The `Report` that `Reports` assembles for one channel of an outcome. -/
def LLOPlugin.channelReport (p : LLOPlugin) (seqNr : Nat) (outcome : Outcome)
    (observationsTimestampSeconds : UInt32) (channelID : ChannelID) : Report :=
  let channelDefinition := (outcome.channelDefinitions.find? channelID).getD default
  { configDigest := p.configDigest
    chainSelector := channelDefinition.chainSelector
    seqNr := seqNr
    channelID := channelID
    validAfterSeconds := outcome.validAfterSeconds.findD channelID 0
    validUntilSeconds := observationsTimestampSeconds
    values := channelDefinition.streamIDs.map fun s => (outcome.streamMedians.find? s).join
    specimen := outcome.lifeCycleStage ≠ lifeCycleStageProduction }

/-- The retirement report a retired outcome hands over, as the first report of the round. -/
def retirementReports (outcome : Outcome) : List ReportWithInfo :=
  if outcome.lifeCycleStage = lifeCycleStageRetired then
    [⟨.retirement ⟨outcome.validAfterSeconds?⟩, ⟨outcome.lifeCycleStage, reportFormatJSON⟩⟩]
  else []

/-- `LLOPlugin.Reports`. -/
def LLOPlugin.reports (p : LLOPlugin) (seqNr : Nat) (rawOutcome : Payload Outcome) :
    GoResult (List ReportWithInfo) :=
  if seqNr ≤ 1 then .ok [] else
  match rawOutcome.unmarshal with
  | .error e => .error ("error unmarshalling outcome: " ++ e)
  | .ok outcome =>
    match outcome.observationsTimestampSeconds with
    | .error e => .error ("error getting observations timestamp: " ++ e)
    | .ok observationsTimestampSeconds =>
      let encodeChannel (channelID : ChannelID) : Except String ReportWithInfo :=
        let format := ((outcome.channelDefinitions.find? channelID).getD default).reportFormat
        match p.encodeReport (p.channelReport seqNr outcome observationsTimestampSeconds channelID)
          format with
        | .error e => .error e
        | .ok encoded => .ok ⟨.encoded encoded, ⟨outcome.lifeCycleStage, format⟩⟩
      match (outcome.reportableChannels p.chainIdFromSelector).mapM encodeChannel with
      | .error e => .error e
      | .ok channelReports => .ok (retirementReports outcome ++ channelReports)

end LloPlugin
