import LloPlugin.Outcome

/-!
# `Observation` and `ValidateObservation`

`LLOPlugin.Observation` is what an oracle contributes to a round: the attested retirement report
of its predecessor while it is staging, its vote to retire, its clock, the channel changes that
would bring the previous outcome's channel definitions to the ones its channel definition cache
expects, and the values its data source observes for the streams of the previous outcome's
channels. `LLOPlugin.ValidateObservation` is the filter every attributed observation passes
before `Outcome` sees it.

The producer bounds its channel votes by `MAX_OBSERVATION_REMOVE_CHANNEL_IDS_LENGTH` and
`MAX_OBSERVATION_ADD_CHANNEL_DEFINITIONS_LENGTH`, as the validator does; it does not bound the
stream values, which the validator bounds by `MAX_OBSERVATION_STREAM_VALUES_LENGTH`.

## Main definitions

* `LloPlugin.subtractChannelDefinitions` — the channels one map has and the other lacks, the
  lowest IDs first, up to a limit.
* `LloPlugin.ObservationEnv` — the clock, the caches and the data source, as one call of
  `Observation` finds them.
* `LloPlugin.channelVotes`, `LloPlugin.LLOPlugin.buildObservation`,
  `LloPlugin.LLOPlugin.observation` — `Observation`.
* `LloPlugin.Observation.WellFormed`, `LloPlugin.LLOPlugin.validateObservation` —
  `ValidateObservation`.

## Main results

* `LloPlugin.subtractChannelDefinitions_toList` — whatever order the `range` takes, the result
  is the first `limit` channels of the difference in ascending order.
* `LloPlugin.subtractChannelDefinitions_restrict` — so it is the minuend restricted to the
  `limit` lowest IDs the subtrahend lacks, with `min limit |difference|` entries.
* `LloPlugin.channelVotes_removals_le`, `LloPlugin.channelVotes_additions_le` — the producer's
  bounds on its channel votes.
* `LloPlugin.validateObservation_eq_ok` — the validator accepts exactly the empty string, and
  above sequence number 1 the encodings of well-formed observations.
* `LloPlugin.buildObservation_wellFormed_iff` — what `Observation` builds is well-formed
  exactly when it carries at most `MAX_OBSERVATION_STREAM_VALUES_LENGTH` stream values.

## Implementation notes

`json.Marshal` cannot fail on an `Observation` (its maps have integer keys and its values are
plain data), so the producer's last error branch is not modelled. The `range` statements of
`Observation` whose order cannot show in the result (collecting the IDs of
`removeChannelDefinitions` and the stream IDs into sets) visit in ascending order.
-/

set_option autoImplicit false

namespace LloPlugin

/-! ### `subtractChannelDefinitions` -/

/-- `subtractChannelDefinitions`: the channels of `minuend` that `subtrahend` lacks, visited in
the order `ord`, sorted by channel ID "so we return deterministic result", and cut to the first
`limit`. -/
def subtractChannelDefinitions (ord : RangeOrder (ChannelID × ChannelDefinition))
    (minuend subtrahend : ChannelDefinitions) (limit : Nat) : ChannelDefinitions :=
  let differenceList := ((ord.order minuend.toList).filter fun e => e.1 ∉ subtrahend).insertionSort
    fun a b => a.1 ≤ b.1
  GoMap.ofList (differenceList.take limit)

section Subtract

variable (ord : RangeOrder (ChannelID × ChannelDefinition)) (minuend subtrahend : ChannelDefinitions)
  (limit : Nat)

/-- **The sort makes the difference deterministic**: the first `limit` channels of the
difference, in ascending order, for every order of the `range`. -/
theorem subtractChannelDefinitions_toList :
    (subtractChannelDefinitions ord minuend subtrahend limit).toList =
      (minuend.toList.filter fun e => e.1 ∉ subtrahend).take limit := by
  have hsorted : (minuend.toList.filter fun e => e.1 ∉ subtrahend).Pairwise
      (fun a b => a.1 < b.1) := minuend.sorted.filter _
  rw [subtractChannelDefinitions, GoMap.insertionSort_of_perm ((ord.perm _).filter _) hsorted]
  exact GoMap.toList_ofList (hsorted.sublist (List.take_sublist _ _))

theorem keys_subtractChannelDefinitions :
    (subtractChannelDefinitions ord minuend subtrahend limit).keys =
      (minuend.keys.filter (· ∉ subtrahend)).take limit := by
  rw [GoMap.keys, subtractChannelDefinitions_toList, List.map_take, GoMap.keys, List.filter_map]
  rfl

theorem size_subtractChannelDefinitions_le :
    (subtractChannelDefinitions ord minuend subtrahend limit).size ≤ limit := by
  rw [GoMap.size, subtractChannelDefinitions_toList]
  exact List.length_take_le _ _

theorem size_subtractChannelDefinitions :
    (subtractChannelDefinitions ord minuend subtrahend limit).size =
      min limit (minuend.keys.countP (· ∉ subtrahend)) := by
  rw [GoMap.size, subtractChannelDefinitions_toList, List.length_take,
    ← List.countP_eq_length_filter, GoMap.keys, List.countP_map]
  rfl

/-- A channel of the difference is kept when fewer than `limit` channels of the difference lie
below it. -/
theorem find?_subtractChannelDefinitions (c : ChannelID) :
    (subtractChannelDefinitions ord minuend subtrahend limit).find? c =
      if c ∉ subtrahend ∧ minuend.keys.countP (fun c' => c' ∉ subtrahend ∧ c' < c) < limit
      then minuend.find? c else none := by
  rw [GoMap.find?, subtractChannelDefinitions_toList,
    GoMap.lookup_take (minuend.sorted.filter _),
    GoMap.lookup_filter_key (fun c => decide (c ∉ subtrahend)), List.countP_filter, GoMap.keys,
    List.countP_map]
  by_cases hc : c ∉ subtrahend <;> simp [hc, GoMap.find?, Function.comp_def, Bool.and_comm]

theorem mem_subtractChannelDefinitions {c : ChannelID} :
    c ∈ subtractChannelDefinitions ord minuend subtrahend limit ↔ c ∈ minuend ∧
      c ∉ subtrahend ∧ minuend.keys.countP (fun c' => c' ∉ subtrahend ∧ c' < c) < limit := by
  rw [GoMap.mem_iff_isSome, find?_subtractChannelDefinitions]
  split_ifs with h
  · exact ⟨fun h' => ⟨h', h⟩, And.left⟩
  · exact ⟨fun h' => absurd h' (by simp), fun h' => absurd h'.2 h⟩

/-- **`subtractChannelDefinitions` restricts the minuend to the smallest IDs of the
difference.** For every order of the `range`, it holds `min limit |D|` channels, where `D` is
the set of channels of `minuend` that `subtrahend` lacks: those of `D` with fewer than `limit`
channels of `D` below them, each with its definition in `minuend`. -/
theorem subtractChannelDefinitions_restrict :
    (subtractChannelDefinitions ord minuend subtrahend limit).size =
        min limit (minuend.keys.countP (· ∉ subtrahend)) ∧
      ∀ c, (subtractChannelDefinitions ord minuend subtrahend limit).find? c =
        if c ∉ subtrahend ∧ minuend.keys.countP (fun c' => c' ∉ subtrahend ∧ c' < c) < limit
        then minuend.find? c else none :=
  ⟨size_subtractChannelDefinitions ord minuend subtrahend limit,
    find?_subtractChannelDefinitions ord minuend subtrahend limit⟩

end Subtract

/-! ### `Observation` -/

/-- The loop over the previous outcome's `ValidAfterSeconds`: a channel the cache does not
expect is listed for removal, until `MAX_OBSERVATION_REMOVE_CHANNEL_IDS_LENGTH` are listed. -/
def removeStaleChannelIDs (expectedChannelDefs : ChannelDefinitions) :
    GoMap ChannelID Unit → List (ChannelID × UInt32) → GoMap ChannelID Unit
  | removeChannelIDs, [] => removeChannelIDs
  | removeChannelIDs, e :: entries =>
    if removeChannelIDs.size ≥ maxObservationRemoveChannelIDsLength then removeChannelIDs
    else if e.1 ∈ expectedChannelDefs then
      removeStaleChannelIDs expectedChannelDefs removeChannelIDs entries
    else removeStaleChannelIDs expectedChannelDefs (removeChannelIDs.insert e.1 ()) entries

/-- The order of every `range` over a map in `Observation` whose order can show: the two calls
of `subtractChannelDefinitions` and the loop over the previous `ValidAfterSeconds`. -/
structure ObservationOrders where
  removeChannelDefinitions : RangeOrder (ChannelID × ChannelDefinition)
  previousValidAfterSeconds : RangeOrder (ChannelID × UInt32)
  addChannelDefinitions : RangeOrder (ChannelID × ChannelDefinition)

/-- Every `range` in ascending key order. -/
def ObservationOrders.ascending : ObservationOrders := ⟨.ascending, .ascending, .ascending⟩

/-- The block of `Observation` that votes on channels: remove the channels of the previous
outcome that the cache does not expect, the definitions first and then the `ValidAfterSeconds`
entries, and add the expected channels the previous outcome lacks. -/
def channelVotes (ord : ObservationOrders) (previousOutcome : Outcome)
    (expectedChannelDefs : ChannelDefinitions) : GoMap ChannelID Unit × ChannelDefinitions :=
  let removeChannelDefinitions := subtractChannelDefinitions ord.removeChannelDefinitions
    previousOutcome.channelDefinitions expectedChannelDefs maxObservationRemoveChannelIDsLength
  (removeStaleChannelIDs expectedChannelDefs (removeChannelDefinitions.mapValues fun _ _ => ())
      (ord.previousValidAfterSeconds.order previousOutcome.validAfterSeconds.toList),
    subtractChannelDefinitions ord.addChannelDefinitions expectedChannelDefs
      previousOutcome.channelDefinitions maxObservationAddChannelDefinitionsLength)

/-- The block that collects `streams`: the stream IDs of every channel of the previous
outcome. -/
def channelStreams (channelDefinitions : ChannelDefinitions) : GoMap StreamID Unit :=
  channelDefinitions.toList.foldl (fun streams e =>
    e.2.streamIDs.foldl (fun streams streamID => streams.insert streamID ()) streams) ∅

/-- What one call of `Observation` reads besides the previous outcome, each as the answer it
gives in that call: `time.Now`, `PredecessorRetirementReportCache.AttestedRetirementReport`,
`ShouldRetireCache.ShouldRetire`, `ChannelDefinitionCache.Definitions` and
`DataSource.Observe`. -/
structure ObservationEnv where
  nowNanoseconds : Int
  attestedRetirementReport : ConfigDigest → Except String (List UInt8)
  shouldRetire : Except String Bool
  definitions : ChannelDefinitions
  observe : GoMap StreamID Unit → Except String StreamValues

/-- The attested retirement report an oracle attaches: fetched from the cache only by an
instance with a predecessor whose previous outcome is staging, and empty otherwise. -/
def LLOPlugin.observationRetirementReport (p : LLOPlugin) (env : ObservationEnv)
    (previousOutcome : Outcome) : Except String (List UInt8) :=
  match p.predecessorConfigDigest with
  | some pcd =>
    if previousOutcome.lifeCycleStage = lifeCycleStageStaging then
      (env.attestedRetirementReport pcd).mapError
        ("error fetching attested retirement report from cache: " ++ ·)
    else .ok []
  | none => .ok []

/-- `Observation` above sequence number 1, from the decoded previous outcome. -/
def LLOPlugin.buildObservation (p : LLOPlugin) (ord : ObservationOrders) (env : ObservationEnv)
    (previousOutcome : Outcome) : Except String Observation := do
  let attestedRetirementReport ← p.observationRetirementReport env previousOutcome
  let shouldRetire ← env.shouldRetire.mapError ("error fetching shouldRetire from cache: " ++ ·)
  let votes := channelVotes ord previousOutcome env.definitions
  let streamValues ← (env.observe (channelStreams previousOutcome.channelDefinitions)).mapError
    ("DataSource.Observe error: " ++ ·)
  pure ⟨attestedRetirementReport, shouldRetire, env.nowNanoseconds, votes.1, votes.2,
    streamValues⟩

/-- `LLOPlugin.Observation`: an empty observation in the first round, an encoded one later. -/
def LLOPlugin.observation (p : LLOPlugin) (ord : ObservationOrders) (env : ObservationEnv)
    (outctx : OutcomeContext) : Except String (Payload Observation) :=
  if outctx.seqNr < 1 then
    .error ("got invalid seqnr=" ++ toString outctx.seqNr ++ ", must be >=1")
  else if outctx.seqNr = 1 then .ok .empty
  else match outctx.previousOutcome.unmarshal with
  | .error e => .error ("error unmarshalling previous outcome: " ++ e)
  | .ok previousOutcome => Payload.encoded <$> p.buildObservation ord env previousOutcome

/-! ### `ValidateObservation` -/

/-- The `w` lowest hexadecimal digits of `n`, lowercase, most significant first. -/
def hexDigits : Nat → Nat → String
  | 0, _ => ""
  | w + 1, n => hexDigits w (n / 16) ++ (Nat.digitChar (n % 16)).toString

/-- `strconv.IsPrint`, given the lookup in its tables for runes above U+00FF: Latin-1 is decided
inline, printable from space to tilde and from U+00A1 to U+00FF except the soft hyphen
U+00AD. -/
def isPrint (table : Nat → Bool) (r : Nat) : Bool :=
  if r ≤ 0xFF then (0x20 ≤ r && r ≤ 0x7E) || (0xA1 ≤ r && r ≠ 0xAD) else table r

/-- `strconv.QuoteRune` without its quotes, for a Unicode scalar value `r` (`appendEscapedRune`):
the quote and the backslash are escaped, a printable rune is written as it is, and any other
gets a named escape, `\x` with two hexadecimal digits below space and for DEL, `\u` with four
below U+10000, and `\U` with eight. -/
def escapeRune (table : Nat → Bool) (r : Nat) : String :=
  if r = 0x27 ∨ r = 0x5C then "\\" ++ (Char.ofNat r).toString
  else if isPrint table r then (Char.ofNat r).toString
  else if r = 7 then "\\a" else if r = 8 then "\\b" else if r = 12 then "\\f"
  else if r = 10 then "\\n" else if r = 13 then "\\r" else if r = 9 then "\\t"
  else if r = 11 then "\\v"
  else if r < 0x20 ∨ r = 0x7F then "\\x" ++ hexDigits 2 r
  else if r < 0x10000 then "\\u" ++ hexDigits 4 r
  else "\\U" ++ hexDigits 8 r

/-- `%q` of an integer: its rune literal, with U+FFFD for a value that is no Unicode scalar
value. -/
def quoteRune (table : Nat → Bool) (r : Nat) : String :=
  let r := if r < 0xD800 ∨ 0xDFFF < r ∧ r ≤ 0x10FFFF then r else 0xFFFD
  "\x27" ++ escapeRune table r ++ "\x27"

/-- The checks of `ValidateObservation` on the decoded observation. The stream values are
visited in the order `ord`, which decides the stream the error names. -/
def LLOPlugin.checkObservation (p : LLOPlugin) (ord : RangeOrder (StreamID × ObsResult))
    (observation : Observation) : Except String Unit :=
  if p.predecessorConfigDigest = none ∧ observation.attestedPredecessorRetirement ≠ [] then
    .error "AttestedPredecessorRetirement is not empty even though this instance has no predecessor"
  else if observation.addChannelDefinitions.size > maxObservationAddChannelDefinitionsLength then
    .error ("AddChannelDefinitions is too long: " ++ toString observation.addChannelDefinitions.size
      ++ " vs " ++ toString maxObservationAddChannelDefinitionsLength)
  else if observation.removeChannelIDs.size > maxObservationRemoveChannelIDsLength then
    .error ("RemoveChannelIDs is too long: " ++ toString observation.removeChannelIDs.size ++
      " vs " ++ toString maxObservationRemoveChannelIDsLength)
  else if observation.streamValues.size > maxObservationStreamValuesLength then
    .error ("StreamValues is too long: " ++ toString observation.streamValues.size ++ " vs " ++
      toString maxObservationStreamValuesLength)
  else match (ord.order observation.streamValues.toList).find? fun e =>
      e.2.valid && e.2.val.isNone with
  | some e => .error ("stream with id " ++ quoteRune p.isPrintTable e.1.toNat ++
      " was marked valid but carries nil value")
  | none => .ok ()

/-- `LLOPlugin.ValidateObservation`. -/
def LLOPlugin.validateObservation (p : LLOPlugin) (ord : RangeOrder (StreamID × ObsResult))
    (outctx : OutcomeContext) (ao : Payload Observation) : Except String Unit :=
  if outctx.seqNr ≤ 1 ∧ ao ≠ .empty then .error "Observation is not empty"
  else match ao with
  | .empty => p.checkObservation ord Observation.zero
  | .encoded observation => p.checkObservation ord observation
  | .garbage quoted err => .error ("Observation is invalid json (got: " ++ quoted ++ "): " ++ err)

/-- What `ValidateObservation` requires of a decoded observation. -/
structure Observation.WellFormed (p : LLOPlugin) (o : Observation) : Prop where
  attested : p.predecessorConfigDigest = none → o.attestedPredecessorRetirement = []
  addChannelDefinitions_le : o.addChannelDefinitions.size ≤ maxObservationAddChannelDefinitionsLength
  removeChannelIDs_le : o.removeChannelIDs.size ≤ maxObservationRemoveChannelIDsLength
  streamValues_le : o.streamValues.size ≤ maxObservationStreamValuesLength
  val_isSome : ∀ s r, o.streamValues.find? s = some r → r.valid → r.val.isSome

section Validate

variable {p : LLOPlugin} {ord : RangeOrder (StreamID × ObsResult)}

theorem find?_invalidValue_eq_none {values : StreamValues} :
    (ord.order values.toList).find? (fun e => e.2.valid && e.2.val.isNone) = none ↔
      ∀ s r, values.find? s = some r → r.valid → r.val.isSome := by
  rw [List.find?_eq_none]
  refine ⟨fun h s r hr hv => ?_, fun h e he => ?_⟩
  · have := h (s, r) ((ord.perm _).mem_iff.2 (GoMap.mem_toList_iff.2 hr))
    simpa only [Option.isSome_iff_ne_none, ne_eq, hv, Bool.true_and, Option.isNone_iff_eq_none]
      using this
  · have := h e.1 e.2 (GoMap.mem_toList_iff.1 ((ord.perm _).mem_iff.1 he))
    cases hv : e.2.valid <;>
      simp_all only [Option.isSome_iff_ne_none, ne_eq, Bool.false_eq_true, IsEmpty.forall_iff,
        Bool.false_and, not_false_eq_true, forall_const, Bool.true_and, Option.isNone_iff_eq_none]

/-- A check that passes passed its first test. -/
theorem not_and_eq_ok_of_ite_error {c : Prop} [Decidable c] {m : String} {r : Except String Unit}
    (h : (if c then .error m else r) = .ok ()) : ¬c ∧ r = .ok () := by
  rcases ite_eq_iff.1 h with ⟨-, h⟩ | h
  · cases h
  · exact h

/-- The checks pass exactly on a well-formed observation. -/
theorem checkObservation_eq_ok {o : Observation} :
    p.checkObservation ord o = .ok () ↔ o.WellFormed p := by
  unfold LLOPlugin.checkObservation
  constructor
  · intro h
    obtain ⟨h₁, h⟩ := not_and_eq_ok_of_ite_error h
    obtain ⟨h₂, h⟩ := not_and_eq_ok_of_ite_error h
    obtain ⟨h₃, h⟩ := not_and_eq_ok_of_ite_error h
    obtain ⟨h₄, h⟩ := not_and_eq_ok_of_ite_error h
    split at h
    · cases h
    · rename_i hnone
      exact ⟨fun hp => by_contra fun ha => h₁ ⟨hp, ha⟩, not_lt.1 h₂, not_lt.1 h₃, not_lt.1 h₄,
        find?_invalidValue_eq_none.1 hnone⟩
  · intro hw
    rw [if_neg fun h => h.2 (hw.attested h.1), if_neg (not_lt.2 hw.addChannelDefinitions_le),
      if_neg (not_lt.2 hw.removeChannelIDs_le), if_neg (not_lt.2 hw.streamValues_le),
      find?_invalidValue_eq_none.2 hw.val_isSome]

theorem wellFormed_zero : Observation.zero.WellFormed p :=
  ⟨fun _ => rfl, Nat.zero_le _, Nat.zero_le _, Nat.zero_le _, by simp [Observation.zero]⟩

/-- **What the validator accepts**: the empty string in any round, and from sequence number 2
on the encoding of a well-formed observation. -/
theorem validateObservation_eq_ok {outctx : OutcomeContext} {ao : Payload Observation} :
    p.validateObservation ord outctx ao = .ok () ↔
      ao = .empty ∨ ∃ o, ao = .encoded o ∧ 1 < outctx.seqNr ∧ o.WellFormed p := by
  unfold LLOPlugin.validateObservation
  cases ao with
  | empty =>
    simp only [ne_eq, not_true_eq_false, and_false, ↓reduceIte,
      checkObservation_eq_ok.2 wellFormed_zero, reduceCtorEq, false_and, exists_false, or_false]
  | encoded o =>
    by_cases hs : outctx.seqNr ≤ 1
    · simp only [hs, ne_eq, reduceCtorEq, not_false_eq_true, and_self, ↓reduceIte,
        Payload.encoded.injEq, exists_eq_left', false_or, false_iff, not_and, isEmpty_Prop, not_lt,
        IsEmpty.forall_iff]
    · simp only [hs, ne_eq, reduceCtorEq, not_false_eq_true, and_true, ↓reduceIte,
        checkObservation_eq_ok, Payload.encoded.injEq, show 1 < outctx.seqNr by omega, true_and,
        exists_eq_left', false_or]
  | garbage quoted err =>
    by_cases hs : outctx.seqNr ≤ 1 <;>
      simp only [hs, ne_eq, reduceCtorEq, not_false_eq_true, and_self, and_true, ↓reduceIte,
        false_and, exists_false, or_self]

/-- An accepted string decodes only to well-formed observations. -/
theorem wellFormed_of_validateObservation {outctx : OutcomeContext} {ao : Payload Observation}
    (h : p.validateObservation ord outctx ao = .ok ()) {o : Observation}
    (ho : ao.unmarshal = .ok o) : o.WellFormed p := by
  rcases validateObservation_eq_ok.1 h with rfl | ⟨o', rfl, -, hw⟩
  · cases ho
  · cases ho
    exact hw

end Validate

/-! ### The producer's bounds -/

section Producer

variable (expected : ChannelDefinitions)

theorem size_removeStaleChannelIDs_le :
    ∀ (ids : GoMap ChannelID Unit) (l : List (ChannelID × UInt32)),
      ids.size ≤ maxObservationRemoveChannelIDsLength →
        (removeStaleChannelIDs expected ids l).size ≤ maxObservationRemoveChannelIDsLength
  | _, [], h => h
  | ids, e :: l, h => by
    unfold removeStaleChannelIDs
    split_ifs with hfull
    · exact h
    · exact size_removeStaleChannelIDs_le ids l h
    · exact size_removeStaleChannelIDs_le _ l (GoMap.size_insert_le.trans (by omega))

/-- The loop keeps what is listed already. -/
theorem mem_removeStaleChannelIDs_of_mem {c : ChannelID} :
    ∀ (ids : GoMap ChannelID Unit) (l : List (ChannelID × UInt32)),
      c ∈ ids → c ∈ removeStaleChannelIDs expected ids l
  | _, [], h => h
  | ids, e :: l, h => by
    unfold removeStaleChannelIDs
    split_ifs
    · exact h
    · exact mem_removeStaleChannelIDs_of_mem ids l h
    · exact mem_removeStaleChannelIDs_of_mem _ l (GoMap.mem_insert.2 (.inr h))

/-- The loop lists only what it started with and entries it visited that the cache does not
expect. -/
theorem mem_removeStaleChannelIDs_entries {c : ChannelID} :
    ∀ (ids : GoMap ChannelID Unit) (l : List (ChannelID × UInt32)),
      c ∈ removeStaleChannelIDs expected ids l → c ∈ ids ∨ c ∉ expected ∧ c ∈ l.map Prod.fst
  | _, [], h => .inl h
  | ids, e :: l, h => by
    unfold removeStaleChannelIDs at h
    split_ifs at h with hfull he
    · exact .inl h
    · exact (mem_removeStaleChannelIDs_entries ids l h).imp_right
        fun h => ⟨h.1, List.mem_cons_of_mem _ h.2⟩
    · rcases mem_removeStaleChannelIDs_entries _ l h with h | h
      · rcases GoMap.mem_insert.1 h with rfl | h
        exacts [.inr ⟨he, List.mem_cons_self _ _⟩, .inl h]
      · exact .inr ⟨h.1, List.mem_cons_of_mem _ h.2⟩

/-- The loop lists only channels the cache does not expect. -/
theorem mem_removeStaleChannelIDs {c : ChannelID} (ids : GoMap ChannelID Unit)
    (l : List (ChannelID × UInt32)) (h : c ∈ removeStaleChannelIDs expected ids l) :
    c ∈ ids ∨ c ∉ expected :=
  (mem_removeStaleChannelIDs_entries expected ids l h).imp_right And.left

/-- A full list of removals stops the loop at once. -/
theorem removeStaleChannelIDs_of_full {ids : GoMap ChannelID Unit}
    (h : maxObservationRemoveChannelIDsLength ≤ ids.size) :
    ∀ l, removeStaleChannelIDs expected ids l = ids
  | [] => rfl
  | _ :: _ => by rw [removeStaleChannelIDs, if_pos h]

/-- **The loop fills up, or it lists every entry it visits that the cache does not expect.** -/
theorem removeStaleChannelIDs_full_or :
    ∀ (ids : GoMap ChannelID Unit) (l : List (ChannelID × UInt32)),
      maxObservationRemoveChannelIDsLength ≤ (removeStaleChannelIDs expected ids l).size ∨
        ∀ e ∈ l, e.1 ∉ expected → e.1 ∈ removeStaleChannelIDs expected ids l
  | _, [] => .inr fun _ h => absurd h (List.not_mem_nil _)
  | ids, e :: l => by
    unfold removeStaleChannelIDs
    split_ifs with hfull he
    · exact .inl hfull
    · refine (removeStaleChannelIDs_full_or ids l).imp_right fun h e' he' hs => ?_
      rcases List.mem_cons.1 he' with rfl | he'
      exacts [absurd he hs, h e' he' hs]
    · refine (removeStaleChannelIDs_full_or _ l).imp_right fun h e' he' hs => ?_
      rcases List.mem_cons.1 he' with rfl | he'
      · exact mem_removeStaleChannelIDs_of_mem expected _ l (GoMap.mem_insert.2 (.inl rfl))
      · exact h e' he' hs

variable (ord : ObservationOrders) (prev : Outcome)

/-- An oracle votes to remove the first `MAX_OBSERVATION_REMOVE_CHANNEL_IDS_LENGTH` channels of
the previous outcome that its cache does not expect… -/
theorem mem_channelVotes_removals {c : ChannelID}
    (hc : c ∈ (prev.channelDefinitions.keys.filter (· ∉ expected)).take
      maxObservationRemoveChannelIDsLength) :
    c ∈ (channelVotes ord prev expected).1 :=
  mem_removeStaleChannelIDs_of_mem expected _ _ ((GoMap.mem_mapValues _).2
    (GoMap.mem_iff_mem_keys.2 (by rw [keys_subtractChannelDefinitions]; exact hc)))

/-- …and only channels its cache does not expect. -/
theorem not_mem_of_mem_channelVotes_removals {c : ChannelID}
    (hc : c ∈ (channelVotes ord prev expected).1) : c ∉ expected := by
  rcases mem_removeStaleChannelIDs expected _ _ hc with h | h
  · rw [GoMap.mem_mapValues, GoMap.mem_iff_mem_keys, keys_subtractChannelDefinitions] at h
    simpa using (List.mem_filter.1 (List.mem_of_mem_take h)).2
  · exact h

/-- At most `MAX_OBSERVATION_REMOVE_CHANNEL_IDS_LENGTH` removal votes. -/
theorem channelVotes_removals_le :
    (channelVotes ord prev expected).1.size ≤ maxObservationRemoveChannelIDsLength :=
  size_removeStaleChannelIDs_le expected _ _
    ((GoMap.size_mapValues _).trans_le (size_subtractChannelDefinitions_le _ _ _ _))

/-- At most `MAX_OBSERVATION_ADD_CHANNEL_DEFINITIONS_LENGTH` proposed definitions. -/
theorem channelVotes_additions_le :
    (channelVotes ord prev expected).2.size ≤ maxObservationAddChannelDefinitionsLength :=
  size_subtractChannelDefinitions_le _ _ _ _

end Producer

section Build

variable {p : LLOPlugin} {ord : ObservationOrders} {env : ObservationEnv} {prev : Outcome}

/-- Above sequence number 1, `Observation` encodes what it builds from the previous outcome. -/
theorem observation_of_lt {seqNr : Nat} (hs : 1 < seqNr) :
    p.observation ord env ⟨seqNr, .encoded prev⟩ =
      Payload.encoded <$> p.buildObservation ord env prev := by
  rw [LLOPlugin.observation, if_neg (show ¬ seqNr < 1 by omega), if_neg (show seqNr ≠ 1 by omega)]
  rfl

/-- An observation `Observation` encodes above sequence number 1 is one it built. -/
theorem buildObservation_of_observation {seqNr : Nat} (hs : 1 < seqNr) {o : Observation}
    (h : p.observation ord env ⟨seqNr, .encoded prev⟩ = .ok (.encoded o)) :
    p.buildObservation ord env prev = .ok o := by
  rw [observation_of_lt hs] at h
  cases hb : p.buildObservation ord env prev <;> rw [hb] at h <;> cases h
  rfl

theorem observationRetirementReport_of_none {a : List UInt8}
    (h : p.observationRetirementReport env prev = .ok a) (hp : p.predecessorConfigDigest = none) :
    a = [] := by
  simp only [LLOPlugin.observationRetirementReport, hp] at h
  exact (Except.ok.inj h).symm

/-- **What `Observation` builds**, read off the answers it got. -/
theorem buildObservation_eq_ok {o : Observation} (h : p.buildObservation ord env prev = .ok o) :
    ∃ attested shouldRetire values,
      p.observationRetirementReport env prev = .ok attested ∧
      env.shouldRetire = .ok shouldRetire ∧
      env.observe (channelStreams prev.channelDefinitions) = .ok values ∧
      o = ⟨attested, shouldRetire, env.nowNanoseconds, (channelVotes ord prev env.definitions).1,
        (channelVotes ord prev env.definitions).2, values⟩ := by
  unfold LLOPlugin.buildObservation at h
  cases ha : p.observationRetirementReport env prev <;> rw [ha] at h
  · cases h
  cases hr : env.shouldRetire <;> rw [hr] at h
  · cases h
  cases hv : env.observe (channelStreams prev.channelDefinitions) <;> rw [hv] at h
  · cases h
  exact ⟨_, _, _, rfl, rfl, rfl, (Except.ok.inj h).symm⟩

/-- Every check of the validator but the count of stream values holds of what `Observation`
builds, when the data source never marks a `nil` value valid. -/
theorem buildObservation_wellFormed_iff {o : Observation}
    (henv : ∀ streams values, env.observe streams = .ok values →
      ∀ s r, values.find? s = some r → r.valid → r.val.isSome)
    (h : p.buildObservation ord env prev = .ok o) :
    o.WellFormed p ↔ o.streamValues.size ≤ maxObservationStreamValuesLength := by
  obtain ⟨a, b, values, ha, -, hv, rfl⟩ := buildObservation_eq_ok h
  exact ⟨fun hw => hw.streamValues_le, fun hs => ⟨observationRetirementReport_of_none ha,
    channelVotes_additions_le _ _ _, channelVotes_removals_le _ _ _, hs, henv _ _ hv⟩⟩

end Build

end LloPlugin
