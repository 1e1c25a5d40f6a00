import LloPlugin.Capacity

/-!
# Iteration order

Every correct oracle must compute the same outcome from the same observations, and the source
takes care that Go's randomised map iteration does not show: `ReportableChannels` and
`subtractChannelDefinitions` sort "so we return deterministic result", and the timestamps and
stream values are sorted before their medians are taken. Across `Outcome`, every loop but two
writes each map key once or with commuting updates, so its order never shows. The exceptions
are the loops over the proposals: one observation's `AddChannelDefinitions` files a definition
under its hash, and the addition loop ranges over `addChannelDefinitionsByHash` unsorted, so the
first candidate it visits for a channel ID wins. Two definitions for one channel ID that both
get more than `f` votes are then installed in whichever order the run time picks.

## Main definitions

* `LloPlugin.OutcomeOrders.SameProposals` — two choices of iteration orders that visit the
  proposals alike and may differ everywhere else.
* `LloPlugin.OutcomeOrders.descendingAdds` — ascending iteration everywhere except over the
  candidate definitions.
* `LloPlugin.conflictRound` — two observations that propose different definitions for
  channel 5.

## Main results

* `LloPlugin.foldlM_addStreamMedian_perm` — the median loop succeeds with the same medians in
  any order of the streams.
* `LloPlugin.outcome_of_sameProposals` — `Outcome` returns the same outcome under every choice
  of orders that visits the proposals alike.
* `LloPlugin.addChannels_pair` — of two candidates for one channel, the first visited wins.
* `LloPlugin.outcome_depends_on_range_order` — for every plugin without predecessor, with
  `f = 0` and a `MakeChannelHash` that tells the two definitions apart, `Outcome` installs
  different definitions for channel 5 under two iteration orders.

## Implementation notes

Each loop whose order does not show is handled by `List.Perm.foldl_eq'` and a swap law for its
body; the median loop can fail, and a failure's message names no stream, but two failing streams
may fail differently, so the order-free statement is about successful steps.
-/
set_option autoImplicit false

namespace LloPlugin

/-! ### The orders that do not show -/

/-- Two choices of iteration orders that visit the proposals alike: the entries of every
observation's `AddChannelDefinitions`, and the candidates `addChannelDefinitionsByHash`. They
may differ in every other `range` of `Outcome`. -/
structure OutcomeOrders.SameProposals (ord₁ ord₂ : OutcomeOrders) : Prop where
  addChannelDefinitions : ord₁.addChannelDefinitions = ord₂.addChannelDefinitions
  addChannelDefinitionsByHash :
    ord₁.addChannelDefinitionsByHash = ord₂.addChannelDefinitionsByHash

/-- Counting removal votes in any order: increments commute. -/
theorem countRemoveVotes_perm {l₁ l₂ : List ChannelID} (hp : l₁.Perm l₂)
    (votes : GoMap ChannelID Nat) : countRemoveVotes votes l₁ = countRemoveVotes votes l₂ :=
  hp.foldl_eq' (fun x _ y _ z => by
    by_cases h : x = y
    · rw [h]
    · simp only [GoMap.findD_eq, GoMap.find?_insert, if_neg h, if_neg (Ne.symm h)]
      exact GoMap.insert_insert_of_ne h) votes

/-- Collecting one observation's stream values in any order: it lists each stream once, and
appends to different streams commute. -/
theorem collectStreamValues_perm {l₁ l₂ : List (StreamID × ObsResult)} (hp : l₁.Perm l₂)
    (hnd : (l₁.map Prod.fst).Nodup) (obs : GoMap StreamID (List (Option Int))) :
    collectStreamValues obs l₁ = collectStreamValues obs l₂ :=
  hp.foldl_eq' (fun x hx y hy z => by
    by_cases h : x.1 = y.1
    · rw [List.inj_on_of_nodup_map hnd hx hy h]
    · cases hxv : x.2.valid <;> cases hyv : y.2.valid <;>
        simp only [hxv, hyv, Bool.false_eq_true, if_false, if_true, GoMap.findD_eq,
          GoMap.find?_insert, if_neg h, if_neg (Ne.symm h)]
      exact GoMap.insert_insert_of_ne h) obs

/-- The deletions of the removed channels, in any order. -/
theorem foldl_erase_perm (vas : GoMap ChannelID UInt32) {l₁ l₂ : List ChannelID}
    (hp : l₁.Perm l₂) : l₁.foldl GoMap.erase vas = l₂.foldl GoMap.erase vas :=
  hp.foldl_eq' (fun _ _ _ _ _ => GoMap.erase_erase) vas

/-- The entries for the new channels, in any order: they all get the same timestamp. -/
theorem addNewChannels_perm (ts : UInt32) (vas : GoMap ChannelID UInt32) {l₁ l₂ : List ChannelID}
    (hp : l₁.Perm l₂) : addNewChannels ts vas l₁ = addNewChannels ts vas l₂ :=
  hp.foldl_eq' (fun x _ y _ z => by
    by_cases h : x = y
    · rw [h]
    · by_cases hx : x ∈ z <;> by_cases hy : y ∈ z <;> simp [hx, hy, h, Ne.symm h]
      exact GoMap.insert_insert_of_ne h) vas

/-- The removal loop deletes the same channels in any order. -/
theorem removeChannels_fst_perm (f : Int) (defs : ChannelDefinitions)
    {l₁ l₂ : List (ChannelID × Nat)} (hp : l₁.Perm l₂) :
    (removeChannels f defs l₁).1 = (removeChannels f defs l₂).1 :=
  GoMap.ext fun c => by simp only [removeChannels_find?, hp.mem_iff]

/-- The loop over the previous `ValidAfterSeconds` writes each channel once, in any order. -/
theorem carryValidAfterSeconds_perm (isReportable : ChannelID → Except String Unit)
    (ts : UInt32) {m : GoMap ChannelID UInt32} {l₁ l₂ : List (ChannelID × UInt32)}
    (h₁ : l₁.Perm m.toList) (h₂ : l₂.Perm m.toList) :
    carryValidAfterSeconds isReportable ts l₁ = carryValidAfterSeconds isReportable ts l₂ :=
  GoMap.ext fun c => by
    rw [carryValidAfterSeconds_find? _ _ h₁, carryValidAfterSeconds_find? _ _ h₂]

/-- The body of the median loop fails, or keeps the map, or writes one value for the stream;
which of these, and the value, do not depend on the map. -/
theorem addStreamMedian_ok_cases {f : Int} {m m' : GoMap StreamID (Option Int)}
    {e : StreamID × List (Option Int)} (h : addStreamMedian f m e = .ok m') :
    (∀ n, addStreamMedian f n e = .ok n) ∨
      ∃ v, ∀ n, addStreamMedian f n e = .ok (n.insert e.1 v) := by
  unfold addStreamMedian at h ⊢
  cases hs : sortObservations e.2 with
  | ok obs =>
    rw [hs, GoResult.ok_bind] at h
    simp only [GoResult.ok_bind]
    by_cases hl : (obs.length : Int) ≤ f
    · exact .inl fun n => by rw [if_pos hl]; rfl
    · rw [if_neg hl] at h
      cases hg : goIndex obs (obs.length / 2) with
      | ok v => exact .inr ⟨v, fun n => by rw [if_neg hl]; rfl⟩
      | error msg => simp [hg] at h
      | panic msg => simp [hg] at h
  | error msg => simp [hs] at h
  | panic msg => simp [hs] at h

/-- Two successful bodies of the median loop on different streams swap. -/
theorem addStreamMedian_swap {f : Int} {x y : StreamID × List (Option Int)} (hxy : x.1 ≠ y.1)
    {m m₁ m₂ : GoMap StreamID (Option Int)} (h₁ : addStreamMedian f m y = .ok m₁)
    (h₂ : addStreamMedian f m₁ x = .ok m₂) :
    ∃ m₁', addStreamMedian f m x = .ok m₁' ∧ addStreamMedian f m₁' y = .ok m₂ := by
  rcases addStreamMedian_ok_cases h₁ with hy | ⟨v, hy⟩ <;>
    rcases addStreamMedian_ok_cases h₂ with hx | ⟨w, hx⟩ <;>
    rw [hy] at h₁ <;> rw [hx] at h₂ <;> cases h₁ <;> cases h₂
  · exact ⟨_, hx m, hy m⟩
  · exact ⟨_, hx m, hy _⟩
  · exact ⟨_, hx m, hy m⟩
  · exact ⟨_, hx m, by rw [hy, GoMap.insert_insert_of_ne hxy]⟩

/-- The median loop succeeds with the same medians in any order of the streams. -/
theorem foldlM_addStreamMedian_perm {f : Int} {l₁ l₂ : List (StreamID × List (Option Int))}
    (hp : l₁.Perm l₂) (hnd : (l₁.map Prod.fst).Nodup) {init m : GoMap StreamID (Option Int)}
    (h : l₁.foldlM (addStreamMedian f) init = .ok m) :
    l₂.foldlM (addStreamMedian f) init = .ok m := by
  induction hp generalizing init with
  | nil => exact h
  | cons x _ ih =>
    rw [List.foldlM_cons, GoResult.bind_eq_ok] at h ⊢
    obtain ⟨z, hz, h⟩ := h
    exact ⟨z, hz, ih (List.nodup_cons.1 hnd).2 h⟩
  | swap x y l =>
    simp only [List.foldlM_cons, GoResult.bind_eq_ok] at h ⊢
    obtain ⟨z₁, h₁, z₂, h₂, h⟩ := h
    have hxy : x.1 ≠ y.1 := fun hxy => (List.nodup_cons.1 hnd).1 (hxy ▸ List.mem_cons_self _ _)
    obtain ⟨z₁', h₁', h₂'⟩ := addStreamMedian_swap hxy h₁ h₂
    exact ⟨z₁', h₁', z₂, h₂', h⟩
  | trans hp₁₂ _ ih₁ ih₂ => exact ih₂ ((hp₁₂.map Prod.fst).nodup_iff.1 hnd) (ih₁ hnd h)

section Orders

variable {p : LLOPlugin} {ord₁ ord₂ : OutcomeOrders}

/-- Counting an observation reads no order but the one over its proposals. -/
theorem countObservation_congr (h : ord₁.addChannelDefinitions = ord₂.addChannelDefinitions)
    (t : Tally) (o : Observation) : p.countObservation ord₁ t o = p.countObservation ord₂ t o := by
  set run := t.timestampsNanoseconds.length
  have hv := (ord₁.streamValues run).perm o.streamValues.toList
  simp only [LLOPlugin.countObservation, h,
    countRemoveVotes_perm (((ord₁.removeChannelIDs run).perm _).trans
      ((ord₂.removeChannelIDs run).perm _).symm),
    collectStreamValues_perm (hv.trans ((ord₂.streamValues run).perm _).symm)
      ((hv.map Prod.fst).nodup_iff.2 (GoMap.keys_nodup _))]

theorem tallyObservation_congr (h : ord₁.addChannelDefinitions = ord₂.addChannelDefinitions) :
    p.tallyObservation ord₁ = p.tallyObservation ord₂ := by
  funext t ao
  simp only [LLOPlugin.tallyObservation, countObservation_congr h]

variable (p)

/-- The channel edits read no order but the one over the candidates. -/
theorem editChannelDefinitions_fst_congr
    (h : ord₁.addChannelDefinitionsByHash = ord₂.addChannelDefinitionsByHash) (prev : Outcome)
    (t : Tally) (stage : LLOLifeCycleStage) :
    (p.editChannelDefinitions ord₁ prev t stage).1 = (p.editChannelDefinitions ord₂ prev t stage).1 := by
  simp only [LLOPlugin.editChannelDefinitions, h,
    removeChannels_fst_perm p.f prev.channelDefinitions
      ((ord₁.removeChannelVotesByID.perm _).trans (ord₂.removeChannelVotesByID.perm _).symm)]

/-- The removal loop lists the removed channels in some order. -/
theorem editChannelDefinitions_snd_perm (prev : Outcome) (t : Tally) (stage : LLOLifeCycleStage) :
    (p.editChannelDefinitions ord₁ prev t stage).2.Perm
      (p.editChannelDefinitions ord₂ prev t stage).2 := by
  simp only [LLOPlugin.editChannelDefinitions, removeChannels_snd]
  exact (((ord₁.removeChannelVotesByID.perm _).trans
    (ord₂.removeChannelVotesByID.perm _).symm).filter _).map _

/-- `ValidAfterSeconds` before the new channels reads no order. -/
theorem baseValidAfterSeconds_congr (ord₁ ord₂ : OutcomeOrders) (prev : Outcome) (t : Tally)
    (defs : ChannelDefinitions) :
    p.baseValidAfterSeconds ord₁ prev t defs = p.baseValidAfterSeconds ord₂ prev t defs := by
  simp only [LLOPlugin.baseValidAfterSeconds, LLOPlugin.carriedValidAfterSeconds,
    carryValidAfterSeconds_perm _ _ (ord₁.previousValidAfterSeconds.perm _)
      (ord₂.previousValidAfterSeconds.perm _)]

/-- The last two loops over `ValidAfterSeconds` read no order. -/
theorem finishValidAfterSeconds_congr (prev : Outcome) (t : Tally) (stage : LLOLifeCycleStage)
    (ts : UInt32) (vas : GoMap ChannelID UInt32) (defs : ChannelDefinitions) :
    finishValidAfterSeconds ord₁ ts vas defs (p.editChannelDefinitions ord₁ prev t stage).2 =
      finishValidAfterSeconds ord₂ ts vas defs (p.editChannelDefinitions ord₂ prev t stage).2 := by
  rw [finishValidAfterSeconds, finishValidAfterSeconds, addNewChannels_perm ts vas
    ((ord₁.channelDefinitions.perm _).trans (ord₂.channelDefinitions.perm _).symm),
    foldl_erase_perm _ (editChannelDefinitions_snd_perm p prev t stage)]

variable {p}

/-- The step under two choices of orders that visit the proposals alike. -/
theorem outcomeStep_of_sameProposals (h : ord₁.SameProposals ord₂) {prev o : Outcome}
    {aos : List (Payload Observation)} (h₁ : p.outcomeStep ord₁ prev aos = .ok o) :
    p.outcomeStep ord₂ prev aos = .ok o := by
  obtain ⟨t, ht, hstep⟩ := outcomeStep_eq_ok h₁
  have hmed : streamMedians p.f (ord₂.streamObservations.order t.streamObservations.toList) =
      .ok o.streamMedians := foldlM_addStreamMedian_perm
    ((ord₁.streamObservations.perm _).trans (ord₂.streamObservations.perm _).symm)
    (((ord₁.streamObservations.perm _).map Prod.fst).nodup_iff.2 (GoMap.keys_nodup _))
    hstep.streamMedians_eq
  rw [← h₁]
  simp only [LLOPlugin.outcomeStep, ← tallyObservation_congr h.addChannelDefinitions, ht,
    GoResult.ok_bind, hmed, hstep.streamMedians_eq,
    editChannelDefinitions_fst_congr p h.addChannelDefinitionsByHash,
    baseValidAfterSeconds_congr p ord₁ ord₂, @finishValidAfterSeconds_congr p ord₁ ord₂]

/-- **The orders that do not show.** `Outcome` reads no iteration order but those over the
proposals: whenever it returns an outcome under one choice of orders, it returns the same
outcome under every choice that visits the proposals alike. -/
theorem outcome_of_sameProposals (h : ord₁.SameProposals ord₂) {outctx : OutcomeContext}
    {aos : List (Payload Observation)} {o : Outcome} (h₁ : p.outcome ord₁ outctx aos = .ok o) :
    p.outcome ord₂ outctx aos = .ok o := by
  unfold LLOPlugin.outcome at h₁ ⊢
  split_ifs at h₁ ⊢
  · exact h₁
  · cases hu : outctx.previousOutcome.unmarshal with
    | error e => rw [hu] at h₁; exact h₁
    | ok prev =>
      rw [hu] at h₁
      exact outcomeStep_of_sameProposals h h₁

end Orders

/-- Descending iteration everywhere except over the proposals. -/
def OutcomeOrders.descendingElsewhere : OutcomeOrders :=
  ⟨fun _ => .descending, fun _ => .ascending, fun _ => .descending, .descending, .ascending,
    .descending, .descending, .descending⟩

theorem outcome_of_sameProposals_reAdd :
    OutcomeOrders.ascending.SameProposals .descendingElsewhere ∧
      ∃ o, (runPlugin 0 none rejectAll).outcome .ascending
          ⟨2, .encoded (runPlugin 0 none rejectAll).initialOutcome⟩ [.encoded reAddChannel] = .ok o ∧
        (runPlugin 0 none rejectAll).outcome .descendingElsewhere
          ⟨2, .encoded (runPlugin 0 none rejectAll).initialOutcome⟩ [.encoded reAddChannel] = .ok o :=
  ⟨⟨rfl, rfl⟩, _, rfl, outcome_of_sameProposals ⟨rfl, rfl⟩ rfl⟩

/-! ### The addition loop -/

/-- Of two candidates for one channel, the addition loop installs the first it visits when that
one has more than `f` votes. -/
theorem addChannels_pair {f : Int} {votes : GoMap ChannelHash Nat} {defs : ChannelDefinitions}
    {a b : ChannelHash × ChannelDefinitionWithID} (ha : f < votes.findD a.1 0)
    (hc : b.2.channelID = a.2.channelID)
    (hfresh : a.2.channelID ∉ defs) (hroom : defs.size ≤ maxOutcomeChannelDefinitionsLength) :
    (addChannels f votes defs [a, b]).find? a.2.channelID = some a.2.channelDefinition := by
  have h₁ : addChannel f votes defs a = defs.insert a.2.channelID a.2.channelDefinition := by
    simp [addChannel, not_le.2 ha, hfresh, not_lt.2 hroom]
  have h₂ : addChannel f votes (defs.insert a.2.channelID a.2.channelDefinition) b =
      defs.insert a.2.channelID a.2.channelDefinition := by
    simp [addChannel, hc]
  simp [addChannels, h₁, h₂]

/-- Ascending iteration everywhere except over the candidate definitions, visited in
descending hash order. -/
def OutcomeOrders.descendingAdds : OutcomeOrders :=
  { OutcomeOrders.ascending with addChannelDefinitionsByHash := .descending }

/-- The first definition proposed for channel 5. -/
def conflictDefinition₁ : ChannelDefinition := ⟨reportFormatJSON, knownSelector, [7]⟩

/-- The second definition proposed for channel 5. -/
def conflictDefinition₂ : ChannelDefinition := ⟨reportFormatJSON, knownSelector, [8]⟩

/-- Two observations proposing different definitions for channel 5. -/
def conflictRound : List (Payload Observation) :=
  [proposalObservation 5 conflictDefinition₁, proposalObservation 5 conflictDefinition₂].map .encoded

variable {p : LLOPlugin}

/-- **The outcome depends on the iteration order.** For every plugin without predecessor with
`f = 0` whose `MakeChannelHash` tells `conflictDefinition₁` and `conflictDefinition₂` apart, the
step after the first round on `conflictRound` installs different definitions for channel 5 when
the candidates are visited in ascending and in descending hash order. -/
theorem outcome_depends_on_range_order (hpcd : p.predecessorConfigDigest = none) (hf : p.f = 0)
    (hhash : p.makeChannelHash ⟨conflictDefinition₁, 5⟩ ≠
      p.makeChannelHash ⟨conflictDefinition₂, 5⟩) :
    ∃ o₁ o₂, p.outcome .ascending ⟨2, .encoded p.initialOutcome⟩ conflictRound = .ok o₁ ∧
      p.outcome .descendingAdds ⟨2, .encoded p.initialOutcome⟩ conflictRound = .ok o₂ ∧
      o₁.channelDefinitions.find? 5 ≠ o₂.channelDefinitions.find? 5 := by
  set acc := [proposalObservation 5 conflictDefinition₁, proposalObservation 5 conflictDefinition₂]
  have hprev : p.initialOutcome.lifeCycleStage = lifeCycleStageProduction := by
    simp [LLOPlugin.initialOutcome, hpcd]
  have hq : Quiet acc := by
    intro o ho
    simp only [acc, List.mem_cons, List.mem_singleton, List.not_mem_nil, or_false] at ho
    rcases ho with rfl | rfl <;> exact ⟨rfl, rfl, rfl, rfl⟩
  have hl : 2 * p.f + 1 ≤ acc.length := by simp [acc, hf]
  obtain ⟨o₁, h₁, -, -, hd₁⟩ := @quiet_step p .ascending 2 _ 0 acc (by omega) (by decide) hprev
    rfl hl hq
  obtain ⟨o₂, h₂, -, -, hd₂⟩ := @quiet_step p .descendingAdds 2 _ 0 acc (by omega) (by decide)
    hprev rfl hl hq
  refine ⟨o₁, o₂, h₁, h₂, ?_⟩
  rw [hd₁, hd₂, editChannelDefinitions_of_ne_retired retired_ne_production.symm,
    editChannelDefinitions_of_ne_retired retired_ne_production.symm]
  dsimp only
  set h₁' := p.makeChannelHash ⟨conflictDefinition₁, 5⟩
  set h₂' := p.makeChannelHash ⟨conflictDefinition₂, 5⟩
  set w₁ : ChannelDefinitionWithID := ⟨conflictDefinition₁, 5⟩
  set w₂ : ChannelDefinitionWithID := ⟨conflictDefinition₂, 5⟩
  -- the tally: one candidate per definition, each with one vote, and no removal vote
  set V := ((∅ : GoMap ChannelHash Nat).insert h₁' ((∅ : GoMap ChannelHash Nat).findD h₁' 0 + 1)).insert
    h₂' (((∅ : GoMap ChannelHash Nat).insert h₁'
      ((∅ : GoMap ChannelHash Nat).findD h₁' 0 + 1)).findD h₂' 0 + 1)
  have hV₁ : (acc.foldl (p.countObservation .ascending) Tally.init).addChannelVotesByHash = V := rfl
  have hV₂ : (acc.foldl (p.countObservation .descendingAdds) Tally.init).addChannelVotesByHash =
    V := rfl
  have hL₁ : (acc.foldl (p.countObservation .ascending) Tally.init).addChannelDefinitionsByHash.toList =
    GoMap.insertEntry h₂' w₂ [(h₁', w₁)] := rfl
  have hL₂ : (acc.foldl (p.countObservation .descendingAdds)
    Tally.init).addChannelDefinitionsByHash.toList = GoMap.insertEntry h₂' w₂ [(h₁', w₁)] := rfl
  have hR : ∀ ord : OutcomeOrders, (removeChannels p.f p.initialOutcome.channelDefinitions
      (ord.removeChannelVotesByID.order
        (acc.foldl (p.countObservation ord) Tally.init).removeChannelVotesByID.toList)).1 = ∅ :=
    fun ord => GoMap.ext fun c => by rw [removeChannels_find?]; split_ifs <;> rfl
  have hv₁ : p.f < V.findD h₁' 0 := by simp [V, GoMap.findD_eq, hf, hhash]
  have hv₂ : p.f < V.findD h₂' 0 := by simp [V, GoMap.findD_eq, hf, Ne.symm hhash]
  rw [hV₁, hV₂, hL₁, hL₂, hR, hR]
  have e₁₂ := addChannels_pair (a := (h₁', w₁)) (b := (h₂', w₂)) hv₁ rfl GoMap.not_mem_empty
    (Nat.zero_le _)
  have e₂₁ := addChannels_pair (a := (h₂', w₂)) (b := (h₁', w₁)) hv₂ rfl GoMap.not_mem_empty
    (Nat.zero_le _)
  have hD : conflictDefinition₁ ≠ conflictDefinition₂ := by decide
  intro h
  rcases lt_or_gt_of_ne hhash with hlt | hlt
  · have hins : GoMap.insertEntry h₂' w₂ [(h₁', w₁)] = [(h₁', w₁), (h₂', w₂)] := by
      simp [GoMap.insertEntry, not_lt.2 hlt.le, Ne.symm hhash]
    rw [hins] at h
    exact hD (Option.some.inj (e₁₂.symm.trans (h.trans e₂₁)))
  · have hins : GoMap.insertEntry h₂' w₂ [(h₁', w₁)] = [(h₂', w₂), (h₁', w₁)] := by
      simp [GoMap.insertEntry, hlt]
    rw [hins] at h
    exact hD (Option.some.inj (e₂₁.symm.trans (h.trans e₁₂))).symm

theorem outcome_depends_on_range_order_standIn :
    (runPlugin 0 none rejectAll).predecessorConfigDigest = none ∧
      (runPlugin 0 none rejectAll).f = 0 ∧
      (runPlugin 0 none rejectAll).makeChannelHash ⟨conflictDefinition₁, 5⟩ ≠
        (runPlugin 0 none rejectAll).makeChannelHash ⟨conflictDefinition₂, 5⟩ ∧
      ∃ o₁ o₂, (runPlugin 0 none rejectAll).outcome .ascending
          ⟨2, .encoded (runPlugin 0 none rejectAll).initialOutcome⟩ conflictRound = .ok o₁ ∧
        (runPlugin 0 none rejectAll).outcome .descendingAdds
          ⟨2, .encoded (runPlugin 0 none rejectAll).initialOutcome⟩ conflictRound = .ok o₂ ∧
        o₁.channelDefinitions.find? 5 ≠ o₂.channelDefinitions.find? 5 :=
  have hhash : (runPlugin 0 none rejectAll).makeChannelHash ⟨conflictDefinition₁, 5⟩ ≠
      (runPlugin 0 none rejectAll).makeChannelHash ⟨conflictDefinition₂, 5⟩ := by decide
  ⟨rfl, rfl, hhash, outcome_depends_on_range_order rfl rfl hhash⟩

end LloPlugin
