import LloPlugin.FaultyReconcile

/-!
# Agreement of the followers despite a faulty minority

Every follower of an OCR3 round runs `Outcome` on the leader's attributed observations, and the
round needs them all to compute the same outcome. Go picks a fresh iteration order for every
`range` over a map on every node, so each follower runs `Outcome` under its own choice of
orders. Of these, only the two over the proposals can show (`outcome_of_sameProposals`), and in
general they do: two definitions for one channel ID that both get more than `f` votes, or more
candidates than the map has room for, are installed in whichever order the run time picks.

Neither can happen in a round of the reconciliation runs of `FaultyReconcile`: a candidate with
more than `f` votes has a correct oracle behind it, every correct oracle proposes the same
channels of `E`, one definition per channel ID, and they fit under the cap. So every choice of
orders gives the same channel map, and with it the same outcome. The counting loop is
order-free as well, since `MakeChannelHash` tells the proposals of one observation apart.

## Main results

* `LloPlugin.countObservation_of_hashesDistinct` — counting an observation whose proposals have
  distinct hashes reads no order.
* `LloPlugin.outcomeStep_of_orders` — the step agrees under two choices of orders that count the
  same tally and edit the channel definitions alike.
* `LloPlugin.FaultyRound.outcome_orders` — in a round with a faulty minority from a reconciling
  outcome, `Outcome` returns the same outcome under every choice of orders.
* `LloPlugin.outcome_agrees_faulty_run` — the same at every outcome of a run with a faulty
  minority.
-/

set_option autoImplicit false

namespace LloPlugin

variable {p : LLOPlugin} {ord₁ ord₂ : OutcomeOrders}

/-! ### Counting -/

/-- Counting an observation reads no order when `MakeChannelHash` tells its proposals apart:
the filing of one proposal cannot overwrite another's. -/
theorem countObservation_of_hashesDistinct {o : Observation}
    (hd : ∀ e₁ ∈ o.addChannelDefinitions.toList, ∀ e₂ ∈ o.addChannelDefinitions.toList,
      p.makeChannelHash ⟨e₁.2, e₁.1⟩ = p.makeChannelHash ⟨e₂.2, e₂.1⟩ → e₁ = e₂)
    (ord₁ ord₂ : OutcomeOrders) (t : Tally) :
    p.countObservation ord₁ t o = p.countObservation ord₂ t o := by
  set run := t.timestampsNanoseconds.length
  have h₁ := (ord₁.addChannelDefinitions run).perm o.addChannelDefinitions.toList
  have hv := (ord₁.streamValues run).perm o.streamValues.toList
  simp only [LLOPlugin.countObservation,
    countAddVotes_perm p (h₁.trans ((ord₂.addChannelDefinitions run).perm _).symm)
      (fun e₁ he₁ e₂ he₂ => hd e₁ (h₁.subset he₁) e₂ (h₁.subset he₂)),
    countRemoveVotes_perm
      (((ord₁.removeChannelIDs run).perm _).trans ((ord₂.removeChannelIDs run).perm _).symm),
    collectStreamValues_perm (hv.trans ((ord₂.streamValues run).perm _).symm)
      ((hv.map Prod.fst).nodup_iff.2 (GoMap.keys_nodup _))]

/-- The counting loop reads no order over observations whose proposals `MakeChannelHash` tells
apart. -/
theorem foldl_countObservation_of_hashesDistinct {acc : List Observation}
    (hd : HashesDistinct p acc) (ord₁ ord₂ : OutcomeOrders) (t : Tally) :
    acc.foldl (p.countObservation ord₁) t = acc.foldl (p.countObservation ord₂) t :=
  List.foldl_ext _ _ t fun t o ho =>
    countObservation_of_hashesDistinct (hd o ho o ho) ord₁ ord₂ t

/-! ### The step -/

/-- **The step under two choices of orders that count the same tally and edit the channel
definitions alike.** Every other loop of the step writes each key once or with commuting
updates. -/
theorem outcomeStep_of_orders {prev o : Outcome} {aos : List (Payload Observation)} {t : Tally}
    (ht₁ : aos.foldlM (p.tallyObservation ord₁) Tally.init = .ok t)
    (ht₂ : aos.foldlM (p.tallyObservation ord₂) Tally.init = .ok t)
    (hedit : (p.editChannelDefinitions ord₁ prev t o.lifeCycleStage).1 =
      (p.editChannelDefinitions ord₂ prev t o.lifeCycleStage).1)
    (h₁ : p.outcomeStep ord₁ prev aos = .ok o) : p.outcomeStep ord₂ prev aos = .ok o := by
  obtain ⟨t', ht', hstep⟩ := outcomeStep_eq_ok h₁
  cases ht'.symm.trans ht₁
  have hmed : streamMedians p.f (ord₂.streamObservations.order t.streamObservations.toList) =
      .ok o.streamMedians := foldlM_addStreamMedian_perm
    ((ord₁.streamObservations.perm _).trans (ord₂.streamObservations.perm _).symm)
    (((ord₁.streamObservations.perm _).map Prod.fst).nodup_iff.2 (GoMap.keys_nodup _))
    hstep.streamMedians_eq
  rw [hstep.lifeCycleStage_eq] at hedit
  rw [← h₁]
  simp only [LLOPlugin.outcomeStep, ht₁, ht₂, GoResult.ok_bind, hmed, hstep.streamMedians_eq,
    hedit, baseValidAfterSeconds_congr p ord₁ ord₂, @finishValidAfterSeconds_congr p ord₁ ord₂]

/-! ### Rounds and runs with a faulty minority -/

section Faulty

variable {E : ChannelDefinitions}

/-- **The followers of a round with a faulty minority agree.** From a reconciling outcome,
when `Outcome` returns an outcome under one choice of iteration orders, it returns the same
outcome under every other. -/
theorem FaultyRound.outcome_orders (hE : E.size ≤ maxOutcomeChannelDefinitionsLength)
    {seqNr : Nat} (hs : 1 < seqNr) {prev : Outcome} (hrec : Reconciling E prev)
    {aos : List (Payload Observation)}
    (hround : FaultyRound p (ObservationEnv.Expects p E) seqNr prev aos) {o : Outcome}
    (h : p.outcome ord₁ ⟨seqNr, .encoded prev⟩ aos = .ok o) :
    p.outcome ord₂ ⟨seqNr, .encoded prev⟩ aos = .ok o := by
  have hlen := length_of_outcome_eq_ok h
  have hstage : o.lifeCycleStage ≠ lifeCycleStageRetired := fun hr => hrec.notRetired
    (faultyStep_retired (fun _ henv => henv.shouldRetire_eq) ⟨ord₁, seqNr, aos, hs, hround, h⟩ hr)
  rw [outcome_step hlen hs] at h ⊢
  obtain ⟨t, ht, -⟩ := outcomeStep_eq_ok h
  obtain ⟨k, acc, hscreen, rfl⟩ := tally_eq ht
  -- both orders count the same tally
  have hT := foldl_countObservation_of_hashesDistinct (hround.hashesDistinct hscreen) ord₁ ord₂
    Tally.init
  have ht₂ : aos.foldlM (p.tallyObservation ord₂) Tally.init = _ :=
    foldlM_tallyObservation_of_screen hscreen
  rw [← hT] at ht₂
  -- and edit the channel definitions alike: the kept channels with the proposed ones
  refine outcomeStep_of_orders ht ht₂ (GoMap.ext fun c => ?_) h
  have h₂ := hround.editChannelDefinitions_find? ord₂ hE hrec hs hlen hscreen hstage k c
  rw [← hT] at h₂
  rw [hround.editChannelDefinitions_find? ord₁ hE hrec hs hlen hscreen hstage k c, h₂,
    removeChannels_fst_perm p.f prev.channelDefinitions
      ((ord₁.removeChannelVotesByID.perm _).trans (ord₂.removeChannelVotesByID.perm _).symm)]

/-- **The followers agree along every run with a faulty minority.** For every plugin, every
expected channel set `E` of at most `MAX_OUTCOME_CHANNEL_DEFINITIONS_LENGTH` channels and every
reconciling outcome `O`, at every outcome a run of steps with a faulty minority reaches from
`O`, every round with a faulty minority is computed alike by all followers: whenever `Outcome`
returns an outcome under one choice of Go's iteration orders, it returns the same outcome under
every other. -/
theorem outcome_agrees_faulty_run (hE : E.size ≤ maxOutcomeChannelDefinitionsLength)
    {O : Outcome} (hO : Reconciling E O) {n : Nat} {O' : Outcome}
    (hrun : FaultyRun p (ObservationEnv.Expects p E) n O O') {seqNr : Nat} (hs : 1 < seqNr)
    {aos : List (Payload Observation)}
    (hround : FaultyRound p (ObservationEnv.Expects p E) seqNr O' aos) {o : Outcome}
    (h : p.outcome ord₁ ⟨seqNr, .encoded O'⟩ aos = .ok o) :
    p.outcome ord₂ ⟨seqNr, .encoded O'⟩ aos = .ok o :=
  hround.outcome_orders hE hs (hrun.reconciling hE hO).1 h

end Faulty

/-- What a correct oracle that expects `movedExpectation` observes at 3 s after `windowStart`:
channel 5 listed for removal, channel 6 proposed, and the value of stream 7. -/
def movedEcho : Observation :=
  ⟨[], false, 2000000000, (∅ : GoMap ChannelID Unit).insert 5 (), movedExpectation,
    (∅ : StreamValues).insert 7 ⟨some 1, true⟩⟩

/-- Two correct observations that move the channel of the window runs to ID 6, and a faulty
one that proposes a forged definition for channels 5 and 6. -/
def movedRound : List (Payload Observation) :=
  [.encoded movedEcho, .encoded movedEcho, .encoded forgedObservation]

theorem outcome_agrees_faulty_run_moved :
    ∃ o, movedExpectation.size ≤ maxOutcomeChannelDefinitionsLength ∧
      Reconciling movedExpectation windowStart ∧
      FaultyRun (runPlugin 1 none rejectAll)
        (ObservationEnv.Expects (runPlugin 1 none rejectAll) movedExpectation) 0 windowStart
        windowStart ∧
      FaultyRound (runPlugin 1 none rejectAll)
        (ObservationEnv.Expects (runPlugin 1 none rejectAll) movedExpectation) 3 windowStart
        movedRound ∧
      (runPlugin 1 none rejectAll).outcome .ascending ⟨3, .encoded windowStart⟩ movedRound =
        .ok o ∧
      (runPlugin 1 none rejectAll).outcome .descendingAdds ⟨3, .encoded windowStart⟩ movedRound =
        .ok o := by
  have hrec : Reconciling movedExpectation windowStart := ⟨by decide, by decide,
    fun c d d' h₁ h₂ => by
      simp only [windowStart, Outcome.channelDefinitions, movedExpectation, Option.getD_some,
        GoMap.find?_insert, GoMap.find?_empty, Option.ite_none_right_eq_some,
        Option.some.injEq] at h₁ h₂
      rw [h₁.1] at h₂
      exact absurd h₂.1 (by decide)⟩
  have hround : FaultyRound (runPlugin 1 none rejectAll)
      (ObservationEnv.Expects (runPlugin 1 none rejectAll) movedExpectation) 3 windowStart
      movedRound :=
    ⟨⟨[.encoded movedEcho, .encoded movedEcho], [.encoded forgedObservation], List.Perm.refl _,
      by decide, fun ao hao => ⟨.ascending, echoEnv movedExpectation,
        ⟨rfl, rfl, fun _ _ h => by cases h⟩, by obtain rfl | rfl := List.mem_pair.1 hao <;> rfl⟩⟩,
      by unfold HashesDistinct; decide⟩
  obtain ⟨o, ho⟩ : ∃ o, (runPlugin 1 none rejectAll).outcome .ascending
      ⟨3, .encoded windowStart⟩ movedRound = .ok o := ⟨_, rfl⟩
  exact ⟨o, by decide, hrec, .refl _, hround, ho,
    outcome_agrees_faulty_run (by decide) hrec (.refl _) (by decide) hround ho⟩

end LloPlugin
