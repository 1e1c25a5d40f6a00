import LloPlugin.Run

/-!
# The lifecycle of an instance

An instance starts in production, or in staging when it has a predecessor. A staging instance
is promoted to production by a step that accepts its predecessor's attested retirement
report, and a production instance retires in a step where more than `f` of the accepted
observations vote for it. Retirement is final.

The stage is a Go string, and a decoded outcome may carry any string; along a run it is
always one of the three stages (`lifeCycle_run`).

## Main definitions

* `LloPlugin.stageRank` — the order staging < production < retired.
* `LloPlugin.AcceptedRetirement` — a step accepted a retirement report: an observation it
  decoded carried it and `CheckAttestedRetirementReport` passed it.

## Main results

* `LloPlugin.nextLifeCycleStage_cases` — the three things a step can do to the stage.
* `LloPlugin.screenObservations_report` — where a kept retirement report comes from.
* `LloPlugin.lifeCycle_run` — the lifecycle invariant of every run.
-/

set_option autoImplicit false

namespace LloPlugin

/-- The stage is one of the three lifecycle stages. -/
def IsLifeCycleStage (s : LLOLifeCycleStage) : Prop :=
  s = lifeCycleStageStaging ∨ s = lifeCycleStageProduction ∨ s = lifeCycleStageRetired

/-- The position of a stage in the order staging < production < retired. -/
def stageRank (s : LLOLifeCycleStage) : Nat :=
  if s = lifeCycleStageStaging then 0 else if s = lifeCycleStageProduction then 1 else 2

@[simp] theorem production_ne_staging : lifeCycleStageProduction ≠ lifeCycleStageStaging := by
  decide

@[simp] theorem retired_ne_staging : lifeCycleStageRetired ≠ lifeCycleStageStaging := by decide

@[simp] theorem retired_ne_production : lifeCycleStageRetired ≠ lifeCycleStageProduction := by
  decide

/-- **What a step does to the stage**: nothing; or it promotes a staging instance (which may
retire at once); or it retires a production instance. -/
theorem nextLifeCycleStage_cases (f : Int) (s : LLOLifeCycleStage) (v : Option RetirementReport)
    (n : Nat) :
    (nextLifeCycleStage f s v n = s ∧ ¬(s = lifeCycleStageStaging ∧ v.isSome) ∧
        ¬(s = lifeCycleStageProduction ∧ f < n)) ∨
      (s = lifeCycleStageStaging ∧ v.isSome ∧
        (nextLifeCycleStage f s v n = lifeCycleStageProduction ∨
          nextLifeCycleStage f s v n = lifeCycleStageRetired ∧ f < n)) ∨
      (s = lifeCycleStageProduction ∧ f < n ∧
        nextLifeCycleStage f s v n = lifeCycleStageRetired) := by
  unfold nextLifeCycleStage
  by_cases hs : s = lifeCycleStageStaging ∧ v.isSome
  · by_cases hf : (f : Int) < n <;> simp_all
  · by_cases hp : s = lifeCycleStageProduction ∧ f < n
    · simp_all
    · simp only [if_neg hs]; simp_all

/-- The step accepted retirement report `R`: an attributed observation decoded to one carrying
an attested retirement report, which `CheckAttestedRetirementReport` turned into `R`. -/
def AcceptedRetirement (p : LLOPlugin) (aos : List (Payload Observation))
    (R : RetirementReport) : Prop :=
  ∃ ao ∈ aos, ∃ observation pcd, ao.unmarshal = .ok observation ∧
    observation.attestedPredecessorRetirement ≠ [] ∧ p.predecessorConfigDigest = some pcd ∧
    p.checkAttestedRetirementReport pcd observation.attestedPredecessorRetirement = .ok R

variable {p : LLOPlugin}

/-- An observation admitted with a retirement report either found it kept already or carried
it, attested, and passed the check. -/
theorem admitObservation_report {kept : Option RetirementReport} {ao : Payload Observation}
    {o : Observation} {R : RetirementReport}
    (h : p.admitObservation kept ao = .ok (some (o, some R))) :
    kept = some R ∨ ∃ pcd, ao.unmarshal = .ok o ∧ o.attestedPredecessorRetirement ≠ [] ∧
      p.predecessorConfigDigest = some pcd ∧
      p.checkAttestedRetirementReport pcd o.attestedPredecessorRetirement = .ok R := by
  unfold LLOPlugin.admitObservation at h
  cases hobs : ao.unmarshal with
  | error e => simp [hobs] at h
  | ok obs =>
    simp only [hobs] at h
    split_ifs at h with ha
    · cases hpcd : p.predecessorConfigDigest with
      | none => simp [hpcd] at h
      | some pcd =>
        cases hR : p.checkAttestedRetirementReport pcd obs.attestedPredecessorRetirement with
        | error e => simp [hpcd, hR] at h
        | ok R' =>
          simp only [hpcd, hR, GoResult.ok.injEq, Option.some.injEq, Prod.mk.injEq] at h
          obtain ⟨rfl, rfl⟩ := h
          exact .inr ⟨pcd, rfl, ha.1, rfl, hR⟩
    · simp only [GoResult.ok.injEq, Option.some.injEq, Prod.mk.injEq] at h
      exact .inl h.2

/-- A retirement report the observation loop keeps was there from the start or was accepted
from one of the observations. -/
theorem screenObservations_report {R : RetirementReport} :
    ∀ {kept : Option RetirementReport} {aos : List (Payload Observation)}
      {acc : List Observation},
      p.screenObservations kept aos = .ok (some R, acc) →
        kept = some R ∨ AcceptedRetirement p aos R
  | kept, [], acc, h => .inl (Prod.mk.inj (GoResult.ok.inj h)).1
  | kept, ao :: aos, acc, h => by
    have lift : AcceptedRetirement p aos R → AcceptedRetirement p (ao :: aos) R :=
      fun ⟨a, ha, rest⟩ => ⟨a, List.mem_cons_of_mem _ ha, rest⟩
    unfold LLOPlugin.screenObservations at h
    split at h
    · exact (screenObservations_report h).imp_right lift
    · rename_i o k hadmit
      rw [GoResult.bind_eq_ok] at h
      obtain ⟨⟨r₁, r₂⟩, hr, h⟩ := h
      simp only [GoResult.pure_eq, GoResult.ok.injEq, Prod.mk.injEq] at h
      obtain ⟨rfl, -⟩ := h
      rcases screenObservations_report hr with rfl | hacc
      · rcases admitObservation_report hadmit with rfl | ⟨pcd, hobs, ha, hpcd, hR⟩
        · exact .inl rfl
        · exact .inr ⟨ao, List.mem_cons_self _ _, o, pcd, hobs, ha, hpcd, hR⟩
      · exact .inr (lift hacc)
    · cases h
    · cases h

/-- The stage a step produces, from the observations it accepts. -/
theorem step_lifeCycleStage {ord : OutcomeOrders} {seqNr : Nat} {o o' : Outcome}
    {aos : List (Payload Observation)} (hs : 1 < seqNr)
    (h : p.outcome ord ⟨seqNr, .encoded o⟩ aos = .ok o') :
    ∃ k acc, p.screenObservations none aos = .ok (k, acc) ∧
      o'.lifeCycleStage = nextLifeCycleStage p.f o.lifeCycleStage k
        (acc.countP (·.shouldRetire)) := by
  obtain ⟨t, ht, hstep⟩ := outcomeStep_eq_ok (outcome_eq_outcomeStep hs h)
  obtain ⟨k, acc, hscreen, rfl⟩ := tally_eq ht
  refine ⟨k, acc, hscreen, hstep.lifeCycleStage_eq.trans ?_⟩
  simp [foldl_countObservation_shouldRetireVotes, Tally.init]

/-- Along a run the stage is one of the three, and staging only with a predecessor. -/
theorem Reachable.lifeCycleStage {o : Outcome} (h : Reachable p o) :
    IsLifeCycleStage o.lifeCycleStage ∧
      (o.lifeCycleStage = lifeCycleStageStaging → p.predecessorConfigDigest.isSome) := by
  induction h with
  | init ord outctx aos hs h =>
    rw [outcome_of_seqNr_le_one hs h]
    cases hp : p.predecessorConfigDigest <;>
      simp [LLOPlugin.initialOutcome, hp, IsLifeCycleStage]
  | step ord seqNr aos _ hs h ih =>
    obtain ⟨k, acc, -, hstage⟩ := step_lifeCycleStage hs h
    rcases nextLifeCycleStage_cases p.f _ k (acc.countP (·.shouldRetire)) with
      ⟨he, -, -⟩ | ⟨-, -, he | ⟨he, -⟩⟩ | ⟨-, -, he⟩ <;> rw [hstage, he]
    · exact ih
    all_goals simp [IsLifeCycleStage]

/-- What the lifecycle allows a step from `o` to `o'` on the observations `aos`: the stage
does not move backwards, it leaves staging only when the step accepted a retirement report
that passed `CheckAttestedRetirementReport`, and it enters retired only when more than `f` of
the observations the step accepted voted to retire. -/
structure LifeCycleStep (p : LLOPlugin) (o : Outcome) (aos : List (Payload Observation))
    (o' : Outcome) : Prop where
  monotone : stageRank o.lifeCycleStage ≤ stageRank o'.lifeCycleStage
  promoted : o.lifeCycleStage = lifeCycleStageStaging →
    o'.lifeCycleStage ≠ lifeCycleStageStaging →
      ∃ R acc, p.screenObservations none aos = .ok (some R, acc) ∧ AcceptedRetirement p aos R
  retired : o.lifeCycleStage ≠ lifeCycleStageRetired →
    o'.lifeCycleStage = lifeCycleStageRetired →
      ∃ k acc, p.screenObservations none aos = .ok (k, acc) ∧ p.f < acc.countP (·.shouldRetire)

/-- **The lifecycle invariant.** Along every run the stage is one of staging, production and
retired, and staging only for an instance with a predecessor; and every step from an outcome
of the run keeps the lifecycle rules. -/
theorem lifeCycle_run {o : Outcome} (h : Reachable p o) :
    IsLifeCycleStage o.lifeCycleStage ∧
      (o.lifeCycleStage = lifeCycleStageStaging → p.predecessorConfigDigest.isSome) ∧
      ∀ (ord : OutcomeOrders) (seqNr : Nat) (aos : List (Payload Observation)) (o' : Outcome),
        1 < seqNr → p.outcome ord ⟨seqNr, .encoded o⟩ aos = .ok o' → LifeCycleStep p o aos o' := by
  refine ⟨h.lifeCycleStage.1, h.lifeCycleStage.2, fun ord seqNr aos o' hs hstep => ?_⟩
  obtain ⟨k, acc, hscreen, hstage⟩ := step_lifeCycleStage hs hstep
  have promoted : k.isSome → ∃ R, k = some R ∧ AcceptedRetirement p aos R := fun hk => by
    obtain ⟨R, rfl⟩ := Option.isSome_iff_exists.1 hk
    exact ⟨R, rfl, (screenObservations_report hscreen).resolve_left (by simp)⟩
  rcases nextLifeCycleStage_cases p.f o.lifeCycleStage k (acc.countP (·.shouldRetire)) with
    ⟨he, -, -⟩ | ⟨hst, hk, he | ⟨he, hf⟩⟩ | ⟨hpr, hf, he⟩ <;> rw [he] at hstage
  · exact ⟨hstage ▸ le_rfl, fun hst hne => absurd (hstage.trans hst) hne,
      fun hne hr => absurd (hstage.symm.trans hr) hne⟩
  · obtain ⟨R, rfl, hR⟩ := promoted hk
    exact ⟨by simp [hstage, stageRank, hst], fun _ _ => ⟨R, acc, hscreen, hR⟩,
      fun _ h => absurd (h.symm.trans hstage) retired_ne_production⟩
  · obtain ⟨R, rfl, hR⟩ := promoted hk
    exact ⟨by simp [hstage, stageRank, hst], fun _ _ => ⟨R, acc, hscreen, hR⟩,
      fun _ _ => ⟨_, acc, hscreen, hf⟩⟩
  · exact ⟨by simp [hstage, stageRank, hpr],
      by simp only [hpr, production_ne_staging, ne_eq, exists_and_right, IsEmpty.forall_iff],
      fun _ _ => ⟨k, acc, hscreen, hf⟩⟩

/-- The invariant at a successor still in staging after a round that carried no retirement
report: from there, a step may promote the instance only on an accepted report. -/
theorem lifeCycle_run_staging :
    ∃ o, Reachable (runPlugin 0 (some []) handoverCheck) o ∧
      o.lifeCycleStage = lifeCycleStageStaging ∧
      IsLifeCycleStage o.lifeCycleStage ∧
      (o.lifeCycleStage = lifeCycleStageStaging →
        (runPlugin 0 (some []) handoverCheck).predecessorConfigDigest.isSome) ∧
      ∀ (ord : OutcomeOrders) (seqNr : Nat) (aos : List (Payload Observation)) (o' : Outcome),
        1 < seqNr → (runPlugin 0 (some []) handoverCheck).outcome ord ⟨seqNr, .encoded o⟩ aos =
          .ok o' → LifeCycleStep (runPlugin 0 (some []) handoverCheck) o aos o' :=
  have h₁ : Reachable (runPlugin 0 (some []) handoverCheck)
      (runPlugin 0 (some []) handoverCheck).initialOutcome :=
    .init .ascending ⟨1, .empty⟩ [.empty] le_rfl rfl
  have h₂ := h₁.step .ascending 2 [.encoded (windowObservation 10 true true [])] (by decide) rfl
  ⟨_, h₂, rfl, lifeCycle_run h₂⟩

end LloPlugin
