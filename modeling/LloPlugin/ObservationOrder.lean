import LloPlugin.Medians

/-!
# The order of the attributed observations

The leader of a round hands every follower the same list of attributed observations, in an
order it chooses. `Outcome` reads the list in one loop, and three things in that loop see the
order. The retirement report it keeps is the first one that passes
`CheckAttestedRetirementReport`. Once it keeps one it checks no other, so an observation whose
attested report fails the check is skipped before the first valid one and counted after it
(`screenObservations_of_kept`). And the definition it files under a hash is the last one
proposed with that hash. Everything else the loop computes is a count, or a list that `Outcome`
sorts before it reads it (`Tally.Equiv`).

So when every attested report among the observations passes the check with one retirement
report, and `MakeChannelHash` tells the proposals apart, the leader's order does not show:
`Outcome` returns the same outcome for every order of the same observations.

## Main definitions

* `LloPlugin.LLOPlugin.Attests` — every attested report of the observations passes the check,
  with one report.
* `LloPlugin.Tally.Equiv` — two tallies that differ at most in the order of the timestamps and
  of each stream's values.

## Main results

* `LloPlugin.screenObservations_of_kept` — once a report is kept, every observation that
  decodes is counted.
* `LloPlugin.screenObservations_of_attested` — the screening when every attested report passes
  with one report.
* `LloPlugin.foldl_countObservation_equiv` — counting two orders of the same observations gives
  equivalent tallies.
* `LloPlugin.outcomeStep_of_equiv` — the step reads its tally only up to `Tally.Equiv`.
* `LloPlugin.outcome_of_perm_aos` — the outcome does not depend on the order of the attributed
  observations.
-/

set_option autoImplicit false

namespace LloPlugin

/-- Two lists of pairs with the same first components, pairwise related in their second ones. -/
theorem forall₂_of_map_fst_eq {K V : Type} {R : V → V → Prop} :
    ∀ {l₁ l₂ : List (K × V)}, l₁.map Prod.fst = l₂.map Prod.fst →
      (∀ a ∈ l₁, ∀ b ∈ l₂, a.1 = b.1 → R a.2 b.2) →
      List.Forall₂ (fun a b => a.1 = b.1 ∧ R a.2 b.2) l₁ l₂
  | [], [], _, _ => .nil
  | a :: l₁, b :: l₂, hk, hR => by
    simp only [List.map_cons, List.cons.injEq] at hk
    exact .cons ⟨hk.1, hR a (List.mem_cons_self _ _) b (List.mem_cons_self _ _) hk.1⟩
      (forall₂_of_map_fst_eq hk.2 fun a ha b hb =>
        hR a (List.mem_cons_of_mem _ ha) b (List.mem_cons_of_mem _ hb))
  | [], _ :: _, hk, _ => by cases hk
  | _ :: _, [], hk, _ => by cases hk

namespace GoMap

variable {K V : Type} [LinearOrder K]

/-- Maps with the same keys list them alike. -/
theorem keys_eq_of_mem_iff {m₁ m₂ : GoMap K V} (h : ∀ k, k ∈ m₁ ↔ k ∈ m₂) :
    m₁.keys = m₂.keys :=
  List.eq_of_perm_of_sorted
    ((List.perm_ext_iff_of_nodup m₁.keys_nodup m₂.keys_nodup).2 fun k => by
      rw [← mem_iff_mem_keys, ← mem_iff_mem_keys, h])
    (m₁.keys_sorted.imp le_of_lt) (m₂.keys_sorted.imp le_of_lt)

end GoMap

/-- Sorting forgets the order of its input. -/
theorem insertionSort_eq_of_perm {α : Type} [LinearOrder α] {l₁ l₂ : List α} (hp : l₁.Perm l₂) :
    l₁.insertionSort (· ≤ ·) = l₂.insertionSort (· ≤ ·) :=
  List.eq_of_perm_of_sorted
    (((List.perm_insertionSort _ _).trans hp).trans (List.perm_insertionSort _ _).symm)
    (List.sorted_insertionSort _ _) (List.sorted_insertionSort _ _)

/-! ### Screening -/

/-- Every attested retirement report among the observations passes
`CheckAttestedRetirementReport`, and with the same report `R`. -/
def LLOPlugin.Attests (p : LLOPlugin) (R : RetirementReport) (acc : List Observation) : Prop :=
  ∀ o ∈ acc, o.attestedPredecessorRetirement ≠ [] → ∃ pcd, p.predecessorConfigDigest = some pcd ∧
    p.checkAttestedRetirementReport pcd o.attestedPredecessorRetirement = .ok R

section Screening

variable {p : LLOPlugin}

theorem decodedObservations_cons_error {ao : Payload Observation} {e : String}
    (hu : ao.unmarshal = .error e) (aos : List (Payload Observation)) :
    decodedObservations (ao :: aos) = decodedObservations aos := by
  simp only [decodedObservations, List.filterMap_cons, hu, Except.toOption]

theorem decodedObservations_cons_ok {ao : Payload Observation} {o : Observation}
    (hu : ao.unmarshal = .ok o) (aos : List (Payload Observation)) :
    decodedObservations (ao :: aos) = o :: decodedObservations aos := by
  simp only [decodedObservations, List.filterMap_cons, hu, Except.toOption]

/-- **Once a report is kept, no attested report is checked.** From then on the loop counts every
entry that decodes, whatever attested report it carries. -/
theorem screenObservations_of_kept (K : RetirementReport) :
    ∀ aos : List (Payload Observation),
      p.screenObservations (some K) aos = .ok (some K, decodedObservations aos)
  | [] => rfl
  | ao :: aos => by
    cases hu : ao.unmarshal with
    | error e =>
      rw [decodedObservations_cons_error hu]
      simp only [LLOPlugin.screenObservations, LLOPlugin.admitObservation, hu,
        screenObservations_of_kept K aos]
    | ok o =>
      rw [decodedObservations_cons_ok hu]
      simp only [LLOPlugin.screenObservations, LLOPlugin.admitObservation, hu, reduceCtorEq,
        and_false, ↓reduceIte, screenObservations_of_kept K aos]
      rfl

/-- **The screening when every attested report passes with one report.** The loop counts every
entry that decodes, and keeps `R` exactly when one of them carries an attested report. -/
theorem screenObservations_of_attested {R : RetirementReport} :
    ∀ aos : List (Payload Observation), p.Attests R (decodedObservations aos) →
      p.screenObservations none aos = .ok ((if ∃ o ∈ decodedObservations aos,
        o.attestedPredecessorRetirement ≠ [] then some R else none), decodedObservations aos)
  | [], _ => rfl
  | ao :: aos, h => by
    cases hu : ao.unmarshal with
    | error e =>
      rw [decodedObservations_cons_error hu] at h ⊢
      simp only [LLOPlugin.screenObservations, LLOPlugin.admitObservation, hu]
      exact screenObservations_of_attested aos h
    | ok o =>
      rw [decodedObservations_cons_ok hu] at h ⊢
      have ih := screenObservations_of_attested aos fun o' ho' => h o' (List.mem_cons_of_mem _ ho')
      by_cases ha : o.attestedPredecessorRetirement = []
      · -- no report to check: the observation counts and the kept report stays
        simp only [LLOPlugin.screenObservations, LLOPlugin.admitObservation, hu, ha, ne_eq,
          not_true_eq_false, false_and, ↓reduceIte, ih, List.mem_cons, exists_eq_or_imp, false_or,
          GoResult.ok_bind]
        rfl
      · -- the first report: it passes with `R`, and no later one is checked
        obtain ⟨pcd, hpcd, hc⟩ := h o (List.mem_cons_self _ _) ha
        simp only [LLOPlugin.screenObservations, LLOPlugin.admitObservation, hu, ha, hpcd, hc,
          ne_eq, not_false_eq_true, and_self, ↓reduceIte, screenObservations_of_kept R aos,
          List.mem_cons, exists_eq_or_imp, true_or]
        rfl

end Screening

/-! ### Counting -/

/-- Two tallies that differ at most in the order of the timestamps and of each stream's values:
`Outcome` sorts both before it reads them. -/
structure Tally.Equiv (t₁ t₂ : Tally) : Prop where
  validPredecessorRetirementReport :
    t₁.validPredecessorRetirementReport = t₂.validPredecessorRetirementReport
  shouldRetireVotes : t₁.shouldRetireVotes = t₂.shouldRetireVotes
  timestampsNanoseconds : t₁.timestampsNanoseconds.Perm t₂.timestampsNanoseconds
  removeChannelVotesByID : t₁.removeChannelVotesByID = t₂.removeChannelVotesByID
  addChannelVotesByHash : t₁.addChannelVotesByHash = t₂.addChannelVotesByHash
  addChannelDefinitionsByHash : t₁.addChannelDefinitionsByHash = t₂.addChannelDefinitionsByHash
  streamKeys : t₁.streamObservations.keys = t₂.streamObservations.keys
  streamValues : ∀ s, (t₁.streamObservations.findD s []).Perm (t₂.streamObservations.findD s [])

section Counting

variable (p : LLOPlugin) (ord : OutcomeOrders)

/-- The removal votes of the loop are one run of `countRemoveVotes` over all listed IDs, in
some order. -/
theorem foldl_countObservation_removeChannelVotesByID :
    ∀ (acc : List Observation) (t : Tally), ∃ l : List ChannelID,
      l.Perm (acc.flatMap fun o => o.removeChannelIDs.keys) ∧
        (acc.foldl (p.countObservation ord) t).removeChannelVotesByID =
          countRemoveVotes t.removeChannelVotesByID l
  | [], _ => ⟨[], .nil, rfl⟩
  | o :: acc, t => by
    obtain ⟨l, hl, h⟩ := foldl_countObservation_removeChannelVotesByID acc
      (p.countObservation ord t o)
    refine ⟨_ ++ l, ((ord.removeChannelIDs t.timestampsNanoseconds.length).perm _).append hl, ?_⟩
    rw [List.foldl_cons, h]
    simp only [countRemoveVotes, List.foldl_append]
    rfl

/-- The proposals of the loop are one run of `countAddVotes` over all proposed definitions, in
some order. -/
theorem foldl_countObservation_adds :
    ∀ (acc : List Observation) (t : Tally), ∃ l : List (ChannelID × ChannelDefinition),
      l.Perm (acc.flatMap fun o => o.addChannelDefinitions.toList) ∧
        ((acc.foldl (p.countObservation ord) t).addChannelVotesByHash,
          (acc.foldl (p.countObservation ord) t).addChannelDefinitionsByHash) =
          p.countAddVotes (t.addChannelVotesByHash, t.addChannelDefinitionsByHash) l
  | [], _ => ⟨[], .nil, rfl⟩
  | o :: acc, t => by
    obtain ⟨l, hl, h⟩ := foldl_countObservation_adds acc (p.countObservation ord t o)
    refine ⟨_ ++ l,
      ((ord.addChannelDefinitions t.timestampsNanoseconds.length).perm _).append hl, ?_⟩
    rw [List.foldl_cons, h]
    simp only [LLOPlugin.countAddVotes, List.foldl_append]
    rfl

/-- Counting proposals in any order, when equal hashes mean equal proposals: vote increments
commute, and two proposals filed under one hash are the same. -/
theorem countAddVotes_perm {l₁ l₂ : List (ChannelID × ChannelDefinition)} (hp : l₁.Perm l₂)
    (hd : ∀ e₁ ∈ l₁, ∀ e₂ ∈ l₁,
      p.makeChannelHash ⟨e₁.2, e₁.1⟩ = p.makeChannelHash ⟨e₂.2, e₂.1⟩ → e₁ = e₂)
    (acc : GoMap ChannelHash Nat × GoMap ChannelHash ChannelDefinitionWithID) :
    p.countAddVotes acc l₁ = p.countAddVotes acc l₂ :=
  hp.foldl_eq' (fun x hx y hy z => by
    by_cases h : p.makeChannelHash ⟨x.2, x.1⟩ = p.makeChannelHash ⟨y.2, y.1⟩
    · rw [hd x hx y hy h]
    · simp only [GoMap.findD_eq, GoMap.find?_insert, if_neg h, if_neg (Ne.symm h)]
      rw [GoMap.insert_insert_of_ne h, GoMap.insert_insert_of_ne h]) acc

/-- A stream is filed by the loop over one observation's values when one of them is valid. -/
theorem mem_collectStreamValues (s : StreamID) :
    ∀ (l : List (StreamID × ObsResult)) (obs : GoMap StreamID (List (Option Int))),
      s ∈ collectStreamValues obs l ↔ s ∈ obs ∨ ∃ e ∈ l, e.1 = s ∧ e.2.valid
  | [], _ => by simp only [collectStreamValues, List.foldl_nil, List.not_mem_nil, false_and,
      exists_false, or_false]
  | e :: l, obs => by
    rw [collectStreamValues, List.foldl_cons, ← collectStreamValues, mem_collectStreamValues s l]
    by_cases hv : e.2.valid
    · simp only [hv, ↓reduceIte, GoMap.mem_insert, List.mem_cons, exists_eq_or_imp, and_true]
      rw [or_assoc, or_left_comm, eq_comm]
    · simp only [hv, Bool.false_eq_true, ↓reduceIte, List.mem_cons, exists_eq_or_imp, and_false,
        false_or]

/-- A stream is filed after the loop when it was before or an accepted observation carries a
valid value for it. -/
theorem mem_foldl_countObservation_streamObservations (s : StreamID) :
    ∀ (acc : List Observation) (t : Tally),
      s ∈ (acc.foldl (p.countObservation ord) t).streamObservations ↔
        s ∈ t.streamObservations ∨ ∃ o ∈ acc, o.validValues s ≠ []
  | [], _ => by simp only [List.foldl_nil, List.not_mem_nil, false_and, exists_false, or_false]
  | o :: acc, t => by
    have hval : (∃ e ∈ (ord.streamValues t.timestampsNanoseconds.length).order
        o.streamValues.toList, e.1 = s ∧ e.2.valid) ↔ o.validValues s ≠ [] := by
      rw [← filter_streamValues_of_perm o s
        ((ord.streamValues t.timestampsNanoseconds.length).perm _), ne_eq,
        List.map_eq_nil_iff,
        List.filter_eq_nil_iff]
      simp only [decide_eq_true_eq, not_forall, not_not, exists_prop]
    rw [List.foldl_cons, mem_foldl_countObservation_streamObservations s acc]
    simp only [LLOPlugin.countObservation, mem_collectStreamValues, hval, List.mem_cons,
      exists_eq_or_imp, or_assoc]

/-- **Counting forgets the order of the observations**, when `MakeChannelHash` tells their
proposals apart: the tallies of two orders of the same observations are equivalent. -/
theorem foldl_countObservation_equiv {acc₁ acc₂ : List Observation} (hp : acc₁.Perm acc₂)
    (hd : HashesDistinct p acc₁) (k : Option RetirementReport) :
    Tally.Equiv
      { acc₁.foldl (p.countObservation ord) Tally.init with validPredecessorRetirementReport := k }
      { acc₂.foldl (p.countObservation ord) Tally.init with
          validPredecessorRetirementReport := k } := by
  have hadds : ((acc₁.foldl (p.countObservation ord) Tally.init).addChannelVotesByHash,
      (acc₁.foldl (p.countObservation ord) Tally.init).addChannelDefinitionsByHash) =
      ((acc₂.foldl (p.countObservation ord) Tally.init).addChannelVotesByHash,
        (acc₂.foldl (p.countObservation ord) Tally.init).addChannelDefinitionsByHash) := by
    obtain ⟨l₁, hl₁, h₁⟩ := foldl_countObservation_adds p ord acc₁ Tally.init
    obtain ⟨l₂, hl₂, h₂⟩ := foldl_countObservation_adds p ord acc₂ Tally.init
    rw [h₁, h₂]
    exact countAddVotes_perm p (hl₁.trans ((hp.flatMap_right _).trans hl₂.symm))
      (fun e₁ he₁ e₂ he₂ hh => by
        obtain ⟨o₁, ho₁, he₁⟩ := List.mem_flatMap.1 (hl₁.subset he₁)
        obtain ⟨o₂, ho₂, he₂⟩ := List.mem_flatMap.1 (hl₁.subset he₂)
        exact hd o₁ ho₁ o₂ ho₂ e₁ he₁ e₂ he₂ hh) _
  refine ⟨rfl, ?_, ?_, ?_, congrArg Prod.fst hadds, congrArg Prod.snd hadds, ?_, fun s => ?_⟩
  · simp only [foldl_countObservation_shouldRetireVotes, hp.countP_eq]
  · simp only [foldl_countObservation_timestampsNanoseconds]
    exact (hp.map _).append_left _
  · obtain ⟨l₁, hl₁, h₁⟩ := foldl_countObservation_removeChannelVotesByID p ord acc₁ Tally.init
    obtain ⟨l₂, hl₂, h₂⟩ := foldl_countObservation_removeChannelVotesByID p ord acc₂ Tally.init
    show _ = (acc₂.foldl (p.countObservation ord) Tally.init).removeChannelVotesByID
    rw [h₁, h₂]
    exact countRemoveVotes_perm (hl₁.trans ((hp.flatMap_right _).trans hl₂.symm)) _
  · exact GoMap.keys_eq_of_mem_iff fun s => by
      simp only [mem_foldl_countObservation_streamObservations, hp.mem_iff]
  · simp only [foldl_countObservation_streamObservations]
    exact (hp.map _).flatten.append_left _

end Counting

/-! ### The rest of the step -/

section Step

variable {p : LLOPlugin} {ord : OutcomeOrders}

theorem medianTimestamp_perm {l₁ l₂ : List Int} (hp : l₁.Perm l₂) :
    medianTimestamp l₁ = medianTimestamp l₂ := by
  rw [medianTimestamp, medianTimestamp, insertionSort_eq_of_perm hp, hp.length_eq]

/-- Two lists of `nil`s of one length are equal. -/
theorem eq_of_perm_of_all_isNone {l₁ l₂ : List (Option Int)} (hp : l₁.Perm l₂)
    (h : l₂.all Option.isNone) : l₁ = l₂ := by
  have hnone : ∀ l : List (Option Int), l.all Option.isNone → l = List.replicate l.length none :=
    fun l hl => List.eq_replicate_iff.2 ⟨rfl, fun b hb =>
      Option.isNone_iff_eq_none.1 (List.all_eq_true.1 hl b hb)⟩
  have h₁ : l₁.all Option.isNone := List.all_eq_true.2 fun b hb =>
    List.all_eq_true.1 h b (hp.subset hb)
  rw [hnone l₁ h₁, hnone l₂ h, hp.length_eq]

/-- Sorting a stream's values forgets their order, and so does dereferencing `nil` among them. -/
theorem sortObservations_perm {l₁ l₂ : List (Option Int)} (hp : l₁.Perm l₂) :
    sortObservations l₁ = sortObservations l₂ := by
  have hall : ∀ q : Option Int → Bool, l₁.all q = l₂.all q := fun q =>
    Bool.eq_iff_iff.2 (by simp only [List.all_eq_true, hp.mem_iff])
  unfold sortObservations
  rw [hall, hall, insertionSort_eq_of_perm (hp.filterMap id)]
  split_ifs with _ hn
  · rfl
  · rw [eq_of_perm_of_all_isNone hp hn]
  · rfl

/-- The median loop over lists of the same streams whose values differ only in order. -/
theorem foldlM_addStreamMedian_forall₂ {f : Int} {l₁ l₂ : List (StreamID × List (Option Int))}
    (h : List.Forall₂ (fun a b => a.1 = b.1 ∧ a.2.Perm b.2) l₁ l₂)
    (init : GoMap StreamID (Option Int)) :
    l₁.foldlM (addStreamMedian f) init = l₂.foldlM (addStreamMedian f) init := by
  induction h generalizing init with
  | nil => rfl
  | @cons a b _ _ hab _ ih =>
    have hbody : addStreamMedian f init a = addStreamMedian f init b := by
      simp only [addStreamMedian, hab.1, sortObservations_perm hab.2]
    simp only [List.foldlM_cons, hbody, ih]

/-- The median loop succeeds alike on two maps with the same streams whose values differ only
in order, whatever order the loop visits them in. -/
theorem streamMedians_of_equiv {f : Int} {m₁ m₂ : GoMap StreamID (List (Option Int))}
    (hk : m₁.keys = m₂.keys) (hv : ∀ s, (m₁.findD s []).Perm (m₂.findD s []))
    (r₁ r₂ : RangeOrder (StreamID × List (Option Int))) {med : GoMap StreamID (Option Int)}
    (h : streamMedians f (r₁.order m₁.toList) = .ok med) :
    streamMedians f (r₂.order m₂.toList) = .ok med := by
  have h₁ : m₁.toList.foldlM (addStreamMedian f) ∅ = .ok med :=
    foldlM_addStreamMedian_perm (r₁.perm _) (((r₁.perm _).map Prod.fst).nodup_iff.2 m₁.keys_nodup)
      h
  have hrel : List.Forall₂ (fun a b => a.1 = b.1 ∧ a.2.Perm b.2) m₁.toList m₂.toList :=
    forall₂_of_map_fst_eq hk fun a ha b hb hab => by
      have := hv a.1
      rwa [GoMap.findD_eq, GoMap.findD_eq, GoMap.mem_toList_iff.1 ha, hab,
        GoMap.mem_toList_iff.1 hb, Option.getD_some, Option.getD_some] at this
  rw [foldlM_addStreamMedian_forall₂ hrel] at h₁
  exact foldlM_addStreamMedian_perm (r₂.perm _).symm m₂.keys_nodup h₁

variable (p ord)

theorem editChannelDefinitions_of_equiv {t₁ t₂ : Tally} (he : t₁.Equiv t₂) (prev : Outcome)
    (stage : LLOLifeCycleStage) :
    p.editChannelDefinitions ord prev t₁ stage = p.editChannelDefinitions ord prev t₂ stage := by
  simp only [LLOPlugin.editChannelDefinitions, he.removeChannelVotesByID, he.addChannelVotesByHash,
    he.addChannelDefinitionsByHash]

theorem baseValidAfterSeconds_of_equiv {t₁ t₂ : Tally} (he : t₁.Equiv t₂) (prev : Outcome)
    (defs : ChannelDefinitions) :
    p.baseValidAfterSeconds ord prev t₁ defs = p.baseValidAfterSeconds ord prev t₂ defs := by
  simp only [LLOPlugin.baseValidAfterSeconds, he.validPredecessorRetirementReport]

variable {p ord}

/-- **The step reads its tally only up to `Tally.Equiv`.** -/
theorem outcomeStep_of_equiv {prev o : Outcome} {aos₁ aos₂ : List (Payload Observation)}
    {t₁ t₂ : Tally} (ht₁ : aos₁.foldlM (p.tallyObservation ord) Tally.init = .ok t₁)
    (ht₂ : aos₂.foldlM (p.tallyObservation ord) Tally.init = .ok t₂) (he : t₁.Equiv t₂)
    (h : p.outcomeStep ord prev aos₁ = .ok o) : p.outcomeStep ord prev aos₂ = .ok o := by
  obtain ⟨t, ht, hstep⟩ := outcomeStep_eq_ok h
  cases ht.symm.trans ht₁
  have hmed := streamMedians_of_equiv he.streamKeys he.streamValues ord.streamObservations
    ord.streamObservations hstep.streamMedians_eq
  rw [← h]
  simp only [LLOPlugin.outcomeStep, ht₁, ht₂, GoResult.ok_bind, hmed, hstep.streamMedians_eq,
    ← List.length_eq_zero, ← he.timestampsNanoseconds.length_eq,
    medianTimestamp_perm he.timestampsNanoseconds, ← he.validPredecessorRetirementReport,
    ← he.shouldRetireVotes, editChannelDefinitions_of_equiv p ord he,
    baseValidAfterSeconds_of_equiv p ord he]

end Step

/-! ### The order of the observations -/

variable {p : LLOPlugin} {ord : OutcomeOrders}

/-- The loop's tally, from a screening result. -/
theorem foldlM_tallyObservation_of_screen {aos : List (Payload Observation)}
    {k : Option RetirementReport} {acc : List Observation}
    (h : p.screenObservations none aos = .ok (k, acc)) :
    aos.foldlM (p.tallyObservation ord) Tally.init =
      .ok { acc.foldl (p.countObservation ord) Tally.init with
        validPredecessorRetirementReport := k } := by
  rw [foldlM_tallyObservation, show Tally.init.validPredecessorRetirementReport = none from rfl, h]
  rfl

/-- **The leader's order does not show.** When every attested retirement report among the
observations passes `CheckAttestedRetirementReport` with one report, and `MakeChannelHash`
tells their proposals apart, `Outcome` returns the same outcome for every order of the same
attributed observations. -/
theorem outcome_of_perm_aos {R : RetirementReport} {aos₁ aos₂ : List (Payload Observation)}
    (hp : aos₁.Perm aos₂) (hR : p.Attests R (decodedObservations aos₁))
    (hd : HashesDistinct p (decodedObservations aos₁)) {outctx : OutcomeContext} {o : Outcome}
    (h : p.outcome ord outctx aos₁ = .ok o) : p.outcome ord outctx aos₂ = .ok o := by
  have hdec : (decodedObservations aos₁).Perm (decodedObservations aos₂) := hp.filterMap _
  have hk : (∃ o ∈ decodedObservations aos₂, o.attestedPredecessorRetirement ≠ []) ↔
      ∃ o ∈ decodedObservations aos₁, o.attestedPredecessorRetirement ≠ [] := by
    simp only [hdec.mem_iff]
  have hs₂ := screenObservations_of_attested aos₂ fun o ho => hR o (hdec.mem_iff.2 ho)
  rw [if_congr hk rfl rfl] at hs₂
  unfold LLOPlugin.outcome at h ⊢
  rw [← hp.length_eq]
  split_ifs at h ⊢
  · exact h
  · cases hu : outctx.previousOutcome.unmarshal with
    | error e => rw [hu] at h; exact h
    | ok prev =>
      rw [hu] at h
      exact outcomeStep_of_equiv (foldlM_tallyObservation_of_screen
        (screenObservations_of_attested aos₁ hR)) (foldlM_tallyObservation_of_screen hs₂)
        (foldl_countObservation_equiv p ord hdec hd _) h

theorem outcome_of_perm_aos_rotate :
    [Payload.encoded (valuesObservation (stream7 10)), .encoded (valuesObservation (stream7 20)),
        .encoded (valuesObservation (stream7 1000))].Perm
      [.encoded (valuesObservation (stream7 1000)), .encoded (valuesObservation (stream7 10)),
        .encoded (valuesObservation (stream7 20))] ∧
    (runPlugin 1 none rejectAll).Attests ⟨none⟩ (decodedObservations
      [.encoded (valuesObservation (stream7 10)), .encoded (valuesObservation (stream7 20)),
        .encoded (valuesObservation (stream7 1000))]) ∧
    HashesDistinct (runPlugin 1 none rejectAll) (decodedObservations
      [.encoded (valuesObservation (stream7 10)), .encoded (valuesObservation (stream7 20)),
        .encoded (valuesObservation (stream7 1000))]) ∧
    ∃ o, (runPlugin 1 none rejectAll).outcome .ascending
        ⟨2, .encoded (runPlugin 1 none rejectAll).initialOutcome⟩
        [.encoded (valuesObservation (stream7 10)), .encoded (valuesObservation (stream7 20)),
          .encoded (valuesObservation (stream7 1000))] = .ok o ∧
      (runPlugin 1 none rejectAll).outcome .ascending
        ⟨2, .encoded (runPlugin 1 none rejectAll).initialOutcome⟩
        [.encoded (valuesObservation (stream7 1000)), .encoded (valuesObservation (stream7 10)),
          .encoded (valuesObservation (stream7 20))] = .ok o :=
  have hquiet : ∀ o ∈ decodedObservations
      [.encoded (valuesObservation (stream7 10)), .encoded (valuesObservation (stream7 20)),
        .encoded (valuesObservation (stream7 1000))],
      o.attestedPredecessorRetirement = [] ∧ o.addChannelDefinitions = ∅ := by decide
  have hperm : [Payload.encoded (valuesObservation (stream7 10)),
      .encoded (valuesObservation (stream7 20)), .encoded (valuesObservation (stream7 1000))].Perm
      [.encoded (valuesObservation (stream7 1000)), .encoded (valuesObservation (stream7 10)),
        .encoded (valuesObservation (stream7 20))] := by decide
  have hatt : (runPlugin 1 none rejectAll).Attests ⟨none⟩ _ := fun o ho ha =>
    absurd (hquiet o ho).1 ha
  have hdist : HashesDistinct (runPlugin 1 none rejectAll) _ := fun o₁ h₁ _ _ e₁ he₁ _ _ _ =>
    absurd he₁ (by rw [(hquiet o₁ h₁).2]; exact List.not_mem_nil _)
  ⟨hperm, hatt, hdist, _, rfl, outcome_of_perm_aos hperm hatt hdist rfl⟩

end LloPlugin
