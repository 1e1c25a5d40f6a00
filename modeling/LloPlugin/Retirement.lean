import LloPlugin.Windows

/-!
# The retired instance

A protocol instance that has retired keeps running until the engine tears it down. Every round
`Outcome` leaves it retired, with the channel definitions it had, since it drops the channel
votes; and every round `Reports` emits a retirement report that carries the outcome's
`ValidAfterSeconds` to the successor. What that map holds moves from round to round.
`IsReportable` fails on every channel of a retired outcome, so the loop over the previous
`ValidAfterSeconds` gives each of its channels the previous outcome's timestamp, and a defined
channel without an entry gets the new timestamp. From the second retired round on, the
retirement report starts the window of every channel at the timestamp of the round before.

## Main definitions

* `LloPlugin.LLOPlugin.Step` — one `Outcome` step of a run.

## Main results

* `LloPlugin.find?_finishValidAfterSeconds_nil` — the last two loops of a step that removes
  nothing.
* `LloPlugin.retired_step` — one step from a retired outcome.
* `LloPlugin.retired_run` — every outcome two or more steps after a retired one: retired, with
  the same channel definitions, and `ValidAfterSeconds` at the previous round's timestamp on
  every channel.
-/

set_option autoImplicit false

namespace LloPlugin

/-- One step of a run: an `ok` result of `Outcome` above sequence number 1 on the previous
outcome, for some observations and map iteration orders. -/
def LLOPlugin.Step (p : LLOPlugin) (o o' : Outcome) : Prop :=
  ∃ (ord : OutcomeOrders) (seqNr : Nat) (aos : List (Payload Observation)),
    1 < seqNr ∧ p.outcome ord ⟨seqNr, .encoded o⟩ aos = .ok o'

/-! ### The last loops over `ValidAfterSeconds` -/

section ValidAfterSeconds

variable (c : ChannelID)

/-- The loop over the new channels gives a channel without an entry the timestamp exactly when
it visits it. -/
theorem find?_addNewChannels_of_not_mem (ts : UInt32) :
    ∀ {vas : GoMap ChannelID UInt32} (ids : List ChannelID), c ∉ vas →
      (addNewChannels ts vas ids).find? c = if c ∈ ids then some ts else none
  | vas, [], hc => by
    rw [if_neg (List.not_mem_nil c)]
    exact Option.not_isSome_iff_eq_none.1 hc
  | vas, i :: ids, hc => by
    rw [addNewChannels, List.foldl_cons, ← addNewChannels]
    by_cases hi : i ∈ vas
    · -- `i` has an entry, so it is not `c`
      have hne : c ≠ i := fun h => hc (h ▸ hi)
      rw [if_pos hi, find?_addNewChannels_of_not_mem ts ids hc]
      exact if_congr (by simp [hne]) rfl rfl
    · rw [if_neg hi]
      by_cases hce : c = i
      · rw [find?_addNewChannels_of_mem c ts ids (GoMap.mem_insert.2 (.inl hce)),
          GoMap.find?_insert, if_pos hce, if_pos (hce ▸ List.mem_cons_self _ _)]
      · rw [find?_addNewChannels_of_not_mem ts ids (by simp [hce, hc])]
        exact if_congr (by simp [hce]) rfl rfl

/-- The last two loops of a step that removes no channel: an entry stays, and a defined
channel without one gets the new timestamp. -/
theorem find?_finishValidAfterSeconds_nil (ord : OutcomeOrders) (ts : UInt32)
    (vas : GoMap ChannelID UInt32) (defs : ChannelDefinitions) :
    (finishValidAfterSeconds ord ts vas defs []).find? c =
      if c ∈ vas then vas.find? c else if c ∈ defs then some ts else none := by
  rw [finishValidAfterSeconds, List.foldl_nil]
  split_ifs with hv hd
  · exact find?_addNewChannels_of_mem c ts _ hv
  · rw [find?_addNewChannels_of_not_mem c ts _ hv,
      if_pos ((ord.channelDefinitions.perm _).mem_iff.2 (GoMap.mem_iff_mem_keys.1 hd))]
  · rw [find?_addNewChannels_of_not_mem c ts _ hv,
      if_neg fun h => hd (GoMap.mem_iff_mem_keys.2 ((ord.channelDefinitions.perm _).mem_iff.1 h))]

end ValidAfterSeconds

/-! ### Steps of a retired instance -/

variable {p : LLOPlugin}

/-- `IsReportable` fails on every channel of a retired outcome, so the loop carries the
previous timestamp. -/
theorem carriedValue_of_retired (cs : UInt64 → Except String UInt64) {out : Outcome}
    (h : out.lifeCycleStage = lifeCycleStageRetired) (ts : UInt32) (c : ChannelID) (v : UInt32) :
    carriedValue (out.isReportable cs) ts c v = ts := by
  rw [carriedValue, Outcome.isReportable, if_pos h]

theorem previousAsEdited_lifeCycleStage (prev : Outcome) (defs : ChannelDefinitions) :
    (previousAsEdited prev defs).lifeCycleStage = prev.lifeCycleStage := by
  unfold previousAsEdited
  split_ifs <;> rfl

/-- **One step of a retired instance.** The new outcome is retired and keeps the channel
definitions; every channel with a `ValidAfterSeconds` entry gets the previous outcome's
timestamp, every other defined channel the new one, and no other channel has an entry. -/
theorem retired_step {o o' : Outcome} (hr : o.lifeCycleStage = lifeCycleStageRetired)
    (h : p.Step o o') :
    ∃ ts ts', o.observationsTimestampSeconds = .ok ts ∧
      o'.observationsTimestampSeconds = .ok ts' ∧
      o'.lifeCycleStage = lifeCycleStageRetired ∧ o'.channelDefinitions = o.channelDefinitions ∧
      ∀ c, o'.validAfterSeconds.find? c = if c ∈ o.validAfterSeconds then some ts
        else if c ∈ o.channelDefinitions then some ts' else none := by
  obtain ⟨ord, seqNr, aos, hs, h⟩ := h
  obtain ⟨t, -, hstep⟩ := outcomeStep_eq_ok (outcome_eq_outcomeStep hs h)
  have hstage : o'.lifeCycleStage = lifeCycleStageRetired := by
    rw [hstep.lifeCycleStage_eq, hr]
    simp only [nextLifeCycleStage, retired_ne_staging, retired_ne_production, false_and,
      ↓reduceIte]
  obtain ⟨vas, ts', hvas, hts', hfin⟩ := hstep.validAfterSeconds
  rw [hstage, editChannelDefinitions_retired] at hvas hfin
  simp only [LLOPlugin.baseValidAfterSeconds, promotedValidAfterSeconds, hr, retired_ne_staging,
    ↓reduceIte, LLOPlugin.carriedValidAfterSeconds] at hvas
  split at hvas
  · cases hvas
  rename_i ts hts
  -- the carried entries all hold the previous timestamp
  have hfind : ∀ c, vas.find? c = (o.validAfterSeconds.find? c).map fun _ => ts := fun c => by
    rw [← GoResult.ok.inj hvas, carryValidAfterSeconds_find? _ ts
      (ord.previousValidAfterSeconds.perm _)]
    exact congrArg (fun g => Option.map g _)
      (funext (carriedValue_of_retired _ ((previousAsEdited_lifeCycleStage _ _).trans hr) ts c))
  refine ⟨ts, ts', hts, hts', hstage, by rw [hstep.channelDefinitions, hstage,
    editChannelDefinitions_retired], fun c => ?_⟩
  have hmem : c ∈ vas ↔ c ∈ o.validAfterSeconds := by
    rw [GoMap.mem_iff_isSome, hfind, Option.isSome_map', ← GoMap.mem_iff_isSome]
  rw [hfin, find?_finishValidAfterSeconds_nil]
  by_cases hc : c ∈ o.validAfterSeconds
  · obtain ⟨v, hv⟩ := Option.isSome_iff_exists.1 hc
    rw [if_pos (hmem.2 hc), if_pos hc, hfind, hv]
    rfl
  · rw [if_neg (mt hmem.1 hc), if_neg hc]

/-- A step from a retired outcome keeps it retired with its channel definitions, and gives an
entry to every channel that had one or a definition. -/
theorem retired_step_mem {o o' : Outcome} (hr : o.lifeCycleStage = lifeCycleStageRetired)
    (h : p.Step o o') :
    o'.lifeCycleStage = lifeCycleStageRetired ∧ o'.channelDefinitions = o.channelDefinitions ∧
      ∀ c, c ∈ o'.validAfterSeconds ↔ c ∈ o.validAfterSeconds ∨ c ∈ o.channelDefinitions := by
  obtain ⟨ts, ts', -, -, hstage, hdefs, hvas⟩ := retired_step hr h
  refine ⟨hstage, hdefs, fun c => ?_⟩
  rw [GoMap.mem_iff_isSome, hvas]
  by_cases h₁ : c ∈ o.validAfterSeconds <;> by_cases h₂ : c ∈ o.channelDefinitions <;>
    simp [h₁, h₂]

/-- Along a run from a retired outcome the instance stays retired, keeps its channel
definitions, and `ValidAfterSeconds` has an entry for every channel that had one or a
definition at the start. -/
theorem retired_transGen {O P : Outcome} (hr : O.lifeCycleStage = lifeCycleStageRetired)
    (h : Relation.TransGen p.Step O P) :
    P.lifeCycleStage = lifeCycleStageRetired ∧ P.channelDefinitions = O.channelDefinitions ∧
      ∀ c, c ∈ P.validAfterSeconds ↔ c ∈ O.validAfterSeconds ∨ c ∈ O.channelDefinitions := by
  induction h with
  | single hs => exact retired_step_mem hr hs
  | tail _ hs ih =>
    obtain ⟨hr', hdefs, hvas⟩ := ih
    obtain ⟨hr'', hdefs', hvas'⟩ := retired_step_mem hr' hs
    refine ⟨hr'', hdefs'.trans hdefs, fun c => ?_⟩
    rw [hvas', hvas, hdefs, or_assoc, or_self]

/-- **The retirement reports of a retired instance.** Two or more steps after a retired outcome
`O`, the outcome is retired, has the channel definitions of `O`, and its `ValidAfterSeconds`,
which `Reports` hands over in the retirement report, maps every channel that had an entry or a
definition in `O` to the previous outcome's timestamp, and no other channel. -/
theorem retired_run {O P O' : Outcome} (hr : O.lifeCycleStage = lifeCycleStageRetired)
    (hOP : Relation.TransGen p.Step O P) (hPO' : p.Step P O') :
    ∃ ts, P.observationsTimestampSeconds = .ok ts ∧ O'.lifeCycleStage = lifeCycleStageRetired ∧
      O'.channelDefinitions = O.channelDefinitions ∧
      ∀ c, O'.validAfterSeconds.find? c =
        if c ∈ O.validAfterSeconds ∨ c ∈ O.channelDefinitions then some ts else none := by
  obtain ⟨hrP, hdefs, hvas⟩ := retired_transGen hr hOP
  obtain ⟨ts, ts', hts, -, hstage, hdefs', hfind⟩ := retired_step hrP hPO'
  refine ⟨ts, hts, hstage, hdefs'.trans hdefs, fun c => ?_⟩
  rw [hfind]
  by_cases hc : c ∈ P.validAfterSeconds
  · rw [if_pos hc, if_pos ((hvas c).1 hc)]
  · -- a defined channel already has an entry
    have hd : c ∉ P.channelDefinitions := fun hd => hc ((hvas c).2 (.inr (hdefs ▸ hd)))
    rw [if_neg hc, if_neg hd, if_neg (mt (hvas c).2 hc)]

/-- A retired outcome that hands over channel 5 from 10 s. -/
def retiredOutcome : Outcome :=
  ⟨lifeCycleStageRetired, 20000000000, none, some ((∅ : GoMap ChannelID UInt32).insert 5 10), ∅⟩

theorem retired_run_quiet :
    ∃ P O', retiredOutcome.lifeCycleStage = lifeCycleStageRetired ∧
      Relation.TransGen (runPlugin 0 none rejectAll).Step retiredOutcome P ∧
      (runPlugin 0 none rejectAll).Step P O' ∧
      ∃ ts, P.observationsTimestampSeconds = .ok ts ∧ O'.lifeCycleStage = lifeCycleStageRetired ∧
        O'.channelDefinitions = retiredOutcome.channelDefinitions ∧
        ∀ c, O'.validAfterSeconds.find? c = if c ∈ retiredOutcome.validAfterSeconds ∨
          c ∈ retiredOutcome.channelDefinitions then some ts else none :=
  ⟨_, _, rfl, .single ⟨.ascending, 2, [.encoded quietObservation], by decide, rfl⟩,
    ⟨.ascending, 3, [.encoded quietObservation], by decide, rfl⟩,
    retired_run (p := runPlugin 0 none rejectAll) rfl
      (.single ⟨.ascending, 2, [.encoded quietObservation], by decide, rfl⟩)
      ⟨.ascending, 3, [.encoded quietObservation], by decide, rfl⟩⟩

end LloPlugin
