import LloPlugin.Reports

/-!
# Report windows

A report for channel `c` from outcome `O` covers the seconds
`(O.ValidAfterSeconds[c], ObservationsTimestampSeconds(O)]`. Where the next window starts is
decided by the loop over the previous outcome's `ValidAfterSeconds` in `Outcome`: a channel on
which `IsReportable` fails gets the previous timestamp, one on which it succeeds keeps its start.
The comments on the two branches say the opposite ("was reported based on previous outcome" on
the failing branch, "was skipped based on previous outcome" on the other), and so do the
handover to a successor instance and the windows of consecutive reports: with the branches as
written, a channel reported in consecutive rounds keeps its start, so its windows overlap, and
a channel that is not yet reportable when a successor takes over loses the start the
retirement report handed over.

## Main results

* `LloPlugin.validAfterSeconds_step` — where a step without promotion puts the start of a kept
  channel's window.
* `LloPlugin.validAfterSeconds_reported_kept` — the same, by the previous outcome's
  `ReportableChannels`: a reported channel keeps a start below the previous timestamp, and a
  channel that was not reported gets that timestamp.
* `LloPlugin.windows_overlap` — a run whose two consecutive reports for one channel overlap.
* `LloPlugin.handover_start_lost` — a successor whose first production report for a channel
  does not start where the retirement report says.
-/

set_option autoImplicit false

namespace LloPlugin

/-- `IsReportable` reads a channel's definition and the outcome's other fields, nothing else. -/
theorem isReportable_congr (cs : UInt64 → Except String UInt64) {o₁ o₂ : Outcome}
    (c : ChannelID) (hstage : o₁.lifeCycleStage = o₂.lifeCycleStage)
    (hts : o₁.observationsTimestampNanoseconds = o₂.observationsTimestampNanoseconds)
    (hdef : o₁.channelDefinitions.find? c = o₂.channelDefinitions.find? c)
    (hmed : o₁.streamMedians = o₂.streamMedians)
    (hvas : o₁.validAfterSeconds = o₂.validAfterSeconds) :
    o₁.isReportable cs c = o₂.isReportable cs c := by
  simp only [Outcome.isReportable, Outcome.observationsTimestampSeconds, hstage, hts, hdef, hmed,
    hvas]

/-- The previous outcome, as edited by the step, judges a channel whose definition the step
kept as the previous outcome does. -/
theorem isReportable_previousAsEdited (cs : UInt64 → Except String UInt64) {prev : Outcome}
    {defs : ChannelDefinitions} {c : ChannelID}
    (h : defs.find? c = prev.channelDefinitions.find? c) :
    (previousAsEdited prev defs).isReportable cs c = prev.isReportable cs c := by
  unfold previousAsEdited
  split_ifs
  · exact isReportable_congr cs c rfl rfl h rfl rfl
  · rfl

variable {p : LLOPlugin} {ord : OutcomeOrders}

/-- A step keeps a defined channel that at most `f` accepted observations list for removal:
its definition stays, and it is not among the removed channels. -/
theorem editChannelDefinitions_keep (ord : OutcomeOrders) (k : Option RetirementReport)
    (stage : LLOLifeCycleStage) {prev : Outcome} {acc : List Observation} {c : ChannelID}
    (hc : c ∈ prev.channelDefinitions)
    (hnr : acc.countP (fun o => c ∈ o.removeChannelIDs) ≤ p.f) :
    let E := p.editChannelDefinitions ord prev
      { acc.foldl (p.countObservation ord) Tally.init with validPredecessorRetirementReport := k }
      stage
    c ∉ E.2 ∧ E.1.find? c = prev.channelDefinitions.find? c := by
  have hno : ¬ ∃ e ∈ ord.removeChannelVotesByID.order
      (acc.foldl (p.countObservation ord) Tally.init).removeChannelVotesByID.toList,
      e.1 = c ∧ p.f < e.2 := fun he => by
    have := lt_findD_of_vote (ord.removeChannelVotesByID.perm _) he
    rw [removeVotes_eq_countP] at this
    exact absurd hnr (not_le.2 this)
  by_cases hr : stage = lifeCycleStageRetired
  · simp [hr, editChannelDefinitions_retired]
  · obtain ⟨d, hd⟩ := Option.isSome_iff_exists.1 (GoMap.mem_iff_isSome.1 hc)
    simp only [editChannelDefinitions_of_ne_retired hr, hd]
    exact ⟨(mem_removeChannels_removed _ _ _ _).not.2 hno,
      addChannels_find?_of_find? _ _ (by rw [removeChannels_find?, if_neg hno, hd])⟩

/-- A step that installs no promoted `ValidAfterSeconds` carries the start of a defined channel
with a `ValidAfterSeconds` entry `v` that at most `f` accepted observations list for removal:
`v` when it was reportable in the previous outcome, the previous timestamp when it was not. -/
theorem validAfterSeconds_carried {seqNr : Nat} {prev o' : Outcome}
    {aos : List (Payload Observation)} {c : ChannelID} {v : UInt32} (hs : 1 < seqNr)
    (h : p.outcome ord ⟨seqNr, .encoded prev⟩ aos = .ok o')
    (hnp : ∀ k acc, p.screenObservations none aos = .ok (k, acc) →
      promotedValidAfterSeconds prev.lifeCycleStage k = none)
    (hc : c ∈ prev.channelDefinitions) (hv : prev.validAfterSeconds.find? c = some v)
    (hnr : ∀ k acc, p.screenObservations none aos = .ok (k, acc) →
      acc.countP (fun o => c ∈ o.removeChannelIDs) ≤ p.f) :
    ∃ ts, prev.observationsTimestampSeconds = .ok ts ∧
      o'.validAfterSeconds.find? c =
        some (carriedValue (prev.isReportable p.chainIdFromSelector) ts c v) := by
  obtain ⟨t, ht, hstep⟩ := outcomeStep_eq_ok (outcome_eq_outcomeStep hs h)
  obtain ⟨k, acc, hscreen, rfl⟩ := tally_eq ht
  set E := p.editChannelDefinitions ord prev
    { acc.foldl (p.countObservation ord) Tally.init with validPredecessorRetirementReport := k }
    o'.lifeCycleStage
  obtain ⟨hrem, hdef⟩ : c ∉ E.2 ∧ E.1.find? c = prev.channelDefinitions.find? c :=
    editChannelDefinitions_keep ord k o'.lifeCycleStage hc (hnr k acc hscreen)
  obtain ⟨vas, ts', hvas, -, hfin⟩ := hstep.validAfterSeconds
  simp only [LLOPlugin.baseValidAfterSeconds, hnp k acc hscreen,
    LLOPlugin.carriedValidAfterSeconds] at hvas
  split at hvas
  · cases hvas
  · rename_i ts hts
    cases hvas
    have hcarry := carryValidAfterSeconds_find?
      ((previousAsEdited prev E.1).isReportable p.chainIdFromSelector) ts
      (ord.previousValidAfterSeconds.perm prev.validAfterSeconds.toList) c
    rw [hv, Option.map_some', carriedValue, isReportable_previousAsEdited _ hdef] at hcarry
    refine ⟨ts, hts, ?_⟩
    rw [hfin, finishValidAfterSeconds, find?_foldl_erase_of_not_mem c hrem,
      find?_addNewChannels_of_mem c _ _ (GoMap.mem_iff_isSome.2 (by rw [hcarry]; rfl)), hcarry]
    rfl

/-- **Where a window starts.** In a step from an outcome that is not in staging, a defined
channel with a `ValidAfterSeconds` entry `v` that at most `f` accepted observations list for
removal keeps `v` when it was reportable in the previous outcome, and gets the previous
outcome's timestamp when it was not. -/
theorem validAfterSeconds_step {seqNr : Nat} {prev o' : Outcome}
    {aos : List (Payload Observation)} {c : ChannelID} {v : UInt32} (hs : 1 < seqNr)
    (h : p.outcome ord ⟨seqNr, .encoded prev⟩ aos = .ok o')
    (hstage : prev.lifeCycleStage ≠ lifeCycleStageStaging) (hc : c ∈ prev.channelDefinitions)
    (hv : prev.validAfterSeconds.find? c = some v)
    (hnr : ∀ k acc, p.screenObservations none aos = .ok (k, acc) →
      acc.countP (fun o => c ∈ o.removeChannelIDs) ≤ p.f) :
    ∃ ts, prev.observationsTimestampSeconds = .ok ts ∧
      o'.validAfterSeconds.find? c =
        some (carriedValue (prev.isReportable p.chainIdFromSelector) ts c v) :=
  validAfterSeconds_carried hs h (fun _ _ _ => if_neg hstage) hc hv hnr

/-- The value the loop carries, read as `ReportableChannels`: the old start for a reportable
channel, the timestamp for any other. -/
theorem carriedValue_eq_ite (cs : UInt64 → Except String UInt64) (out : Outcome) (ts : UInt32)
    (c : ChannelID) (v : UInt32) :
    carriedValue (out.isReportable cs) ts c v =
      if c ∈ out.reportableChannels cs then v else ts := by
  unfold carriedValue
  split
  · rename_i e he
    rw [if_neg fun hc => by rw [Outcome.mem_reportableChannels.1 hc] at he; cases he]
  · rename_i u hu
    rw [if_pos (Outcome.mem_reportableChannels.2 hu)]

/-- **A reported channel keeps the start of its window.** In a step without promotion, a
defined channel with a `ValidAfterSeconds` entry `v` that at most `f` accepted observations
list for removal keeps `v` when it is among the previous outcome's reportable channels, and `v`
lies below the previous outcome's timestamp then; a channel that is not reportable gets that
timestamp. -/
theorem validAfterSeconds_reported_kept {seqNr : Nat} {prev o' : Outcome}
    {aos : List (Payload Observation)} {c : ChannelID} {v : UInt32} (hs : 1 < seqNr)
    (h : p.outcome ord ⟨seqNr, .encoded prev⟩ aos = .ok o')
    (hnp : prev.lifeCycleStage ≠ lifeCycleStageStaging ∨ ∀ R, ¬ AcceptedRetirement p aos R)
    (hc : c ∈ prev.channelDefinitions) (hv : prev.validAfterSeconds.find? c = some v)
    (hnr : ∀ k acc, p.screenObservations none aos = .ok (k, acc) →
      acc.countP (fun o => c ∈ o.removeChannelIDs) ≤ p.f) :
    ∃ ts, prev.observationsTimestampSeconds = .ok ts ∧
      o'.validAfterSeconds.find? c =
        some (if c ∈ prev.reportableChannels p.chainIdFromSelector then v else ts) ∧
      (c ∈ prev.reportableChannels p.chainIdFromSelector → v < ts) := by
  have hnp' : ∀ k acc, p.screenObservations none aos = .ok (k, acc) →
      promotedValidAfterSeconds prev.lifeCycleStage k = none := fun k acc hscreen => by
    rcases hnp with hstage | hnone
    · exact if_neg hstage
    · rcases k with _ | R
      · simp [promotedValidAfterSeconds]
      · rcases screenObservations_report hscreen with hR | hR
        exacts [absurd hR (by simp), absurd hR (hnone R)]
  obtain ⟨ts, hts, hfind⟩ := validAfterSeconds_carried hs h hnp' hc hv hnr
  refine ⟨ts, hts, by rw [hfind, carriedValue_eq_ite], fun hr => ?_⟩
  obtain ⟨-, ts', d, v', hts', -, -, -, hv', hlt⟩ :=
    Outcome.isReportable_eq_ok.1 (Outcome.mem_reportableChannels.1 hr)
  rw [hts] at hts'
  rw [hv] at hv'
  cases hts'
  cases hv'
  exact hlt

/-! ### Two runs -/

/-- Consecutive windows overlap: channel 5, added at 10 s, is reportable at 20 s and at 30 s,
and both reports start at 10 s. -/
theorem windows_overlap :
    ∃ o₂ o₃ o₄,
      (runPlugin 0 none rejectAll).outcome .ascending
        ⟨2, .encoded (runPlugin 0 none rejectAll).initialOutcome⟩
        [.encoded (windowObservation 10 true true [])] = .ok o₂ ∧
      (runPlugin 0 none rejectAll).outcome .ascending ⟨3, .encoded o₂⟩
        [.encoded (windowObservation 20 false true [])] = .ok o₃ ∧
      (runPlugin 0 none rejectAll).outcome .ascending ⟨4, .encoded o₃⟩
        [.encoded (windowObservation 30 false true [])] = .ok o₄ ∧
      o₃.reportableChannels knownChains = [5] ∧ o₄.reportableChannels knownChains = [5] ∧
      ((runPlugin 0 none rejectAll).channelReport 3 o₃ 20 5).validAfterSeconds = 10 ∧
      o₃.observationsTimestampSeconds = .ok 20 ∧
      ((runPlugin 0 none rejectAll).channelReport 4 o₄ 30 5).validAfterSeconds = 10 ∧
      o₄.observationsTimestampSeconds = .ok 30 :=
  ⟨_, _, _, rfl, rfl, rfl, by decide, by decide, by decide, rfl, by decide, rfl⟩

/-- The handover loses the start: a successor accepts `handoverReport` at 10 s and adds
channel 5, which has no stream value yet; at 20 s the channel is reportable, and its first
production report starts at 10 s instead of the 5 s the retirement report hands over. -/
theorem handover_start_lost :
    ∃ o₂ o₃,
      (runPlugin 0 (some []) handoverCheck).outcome .ascending
        ⟨2, .encoded (runPlugin 0 (some []) handoverCheck).initialOutcome⟩
        [.encoded (windowObservation 10 true false [1])] = .ok o₂ ∧
      (runPlugin 0 (some []) handoverCheck).outcome .ascending ⟨3, .encoded o₂⟩
        [.encoded (windowObservation 20 false true [])] = .ok o₃ ∧
      (runPlugin 0 (some []) handoverCheck).initialOutcome.lifeCycleStage = lifeCycleStageStaging ∧
      o₂.lifeCycleStage = lifeCycleStageProduction ∧
      o₂.reportableChannels knownChains = [] ∧ o₃.reportableChannels knownChains = [5] ∧
      ((runPlugin 0 (some []) handoverCheck).channelReport 3 o₃ 20 5).specimen = false ∧
      ((runPlugin 0 (some []) handoverCheck).channelReport 3 o₃ 20 5).validAfterSeconds = 10 ∧
      (handoverReport.validAfterSeconds?.getD ∅).find? 5 = some 5 :=
  ⟨_, _, rfl, rfl, by decide, by decide, by decide, by decide, by decide, by decide, by decide⟩

theorem validAfterSeconds_step_windows :
    ∃ o₂ o₃ o₄,
      (runPlugin 0 none rejectAll).outcome .ascending
        ⟨2, .encoded (runPlugin 0 none rejectAll).initialOutcome⟩
        [.encoded (windowObservation 10 true true [])] = .ok o₂ ∧
      (runPlugin 0 none rejectAll).outcome .ascending ⟨3, .encoded o₂⟩
        [.encoded (windowObservation 20 false true [])] = .ok o₃ ∧
      (runPlugin 0 none rejectAll).outcome .ascending ⟨4, .encoded o₃⟩
        [.encoded (windowObservation 30 false true [])] = .ok o₄ ∧
      ∃ ts, o₃.observationsTimestampSeconds = .ok ts ∧
        o₄.validAfterSeconds.find? 5 = some (carriedValue
          (o₃.isReportable (runPlugin 0 none rejectAll).chainIdFromSelector) ts 5 10) :=
  ⟨_, _, _, rfl, rfl, rfl, @validAfterSeconds_step (runPlugin 0 none rejectAll) .ascending 4 _ _
    [.encoded (windowObservation 30 false true [])] 5 10 (by decide) rfl (by decide) (by decide)
    rfl fun k acc h => by
      rw [show (runPlugin 0 none rejectAll).screenObservations none
        [.encoded (windowObservation 30 false true [])] =
          .ok (none, [windowObservation 30 false true []]) from rfl] at h
      cases h
      decide⟩

theorem validAfterSeconds_reported_kept_windows :
    ∃ o₂ o₃ o₄,
      (runPlugin 0 none rejectAll).outcome .ascending
        ⟨2, .encoded (runPlugin 0 none rejectAll).initialOutcome⟩
        [.encoded (windowObservation 10 true true [])] = .ok o₂ ∧
      (runPlugin 0 none rejectAll).outcome .ascending ⟨3, .encoded o₂⟩
        [.encoded (windowObservation 20 false true [])] = .ok o₃ ∧
      (runPlugin 0 none rejectAll).outcome .ascending ⟨4, .encoded o₃⟩
        [.encoded (windowObservation 30 false true [])] = .ok o₄ ∧
      ∃ ts, o₃.observationsTimestampSeconds = .ok ts ∧
        o₄.validAfterSeconds.find? 5 = some (if 5 ∈ o₃.reportableChannels
          (runPlugin 0 none rejectAll).chainIdFromSelector then 10 else ts) ∧
        (5 ∈ o₃.reportableChannels (runPlugin 0 none rejectAll).chainIdFromSelector → 10 < ts) :=
  ⟨_, _, _, rfl, rfl, rfl, @validAfterSeconds_reported_kept (runPlugin 0 none rejectAll)
    .ascending 4 _ _ [.encoded (windowObservation 30 false true [])] 5 10 (by decide) rfl
    (.inl (by decide)) (by decide) rfl fun k acc h => by
      rw [show (runPlugin 0 none rejectAll).screenObservations none
        [.encoded (windowObservation 30 false true [])] =
          .ok (none, [windowObservation 30 false true []]) from rfl] at h
      cases h
      decide⟩

end LloPlugin
