import LloPlugin.Determinism
import LloPlugin.Reports

/-!
# Medians against faulty oracles

`Outcome` takes two medians: of the timestamps of the observations it counts, and of the valid
values of each stream. Both sort the values and take the element at index `len/2`. Up to `f`
of the attributed observations may come from faulty oracles, and what this module asks is when
the correct ones bracket the result.

Split the entries of `aos` into the observations of correct oracles and the rest. A correct
oracle's entry decodes, and carries no attested retirement report or one the check accepts
(`LLOPlugin.Admissible`), so the loop counts it; the loop counts at most as many others as
there are faulty entries (`accepted_perm`). A median is bracketed by a part of the values that
outnumbers the rest (`exists_le_median_le`). Every counted observation has a timestamp, so the
timestamp median always lies within the correct timestamps. A stream value is counted only
when an oracle marks it valid, and correct oracles may not: then fewer than `2f+1` values reach
the median and up to `f` faulty values can carry it past every correct one
(`median_outside_correct_values`). When at least `f+1` correct oracles mark the stream valid,
the correct values outnumber the faulty ones and bracket the median.

## Main definitions

* `LloPlugin.LLOPlugin.Admissible` — an observation the loop of `Outcome` never skips.

## Main results

* `LloPlugin.exists_le_median_le` — a majority of the values brackets the median.
* `LloPlugin.accepted_perm` — the loop counts every correct observation and at most as many
  others as there are faulty entries.
* `LloPlugin.timestamp_within_correct` — the outcome's timestamp lies within the correct
  timestamps.
* `LloPlugin.median_outside_correct_values` — a faulty value becomes the median when a correct
  oracle reports the stream invalid.
* `LloPlugin.streamMedian_within_correct` — with `f+1` correct values, the stream median lies
  within them.
-/

set_option autoImplicit false

namespace LloPlugin

/-! ### Order statistics -/

section OrderStatistics

variable {α : Type} [LinearOrder α]

/-- In a sorted list, at least `i + 1` elements lie at or below the element at index `i`. -/
theorem succ_le_countP_le_getElem {l : List α} (hl : l.Sorted (· ≤ ·)) {i : Nat}
    (hi : i < l.length) : i + 1 ≤ l.countP (· ≤ l[i]) := by
  have hall : ∀ a ∈ l.take (i + 1), a ≤ l[i] := fun a ha => by
    obtain ⟨j, hj, rfl⟩ := List.mem_iff_getElem.1 ha
    rw [List.getElem_take]
    rw [List.length_take] at hj
    rcases Nat.lt_or_eq_of_le (Nat.le_of_lt_succ (lt_of_lt_of_le hj (min_le_left _ _))) with h | h
    · exact List.pairwise_iff_getElem.1 hl _ _ _ _ h
    · simp only [h, le_refl]
  have htake : (l.take (i + 1)).countP (· ≤ l[i]) = i + 1 := by
    rw [List.countP_eq_length.2 (by simpa only [decide_eq_true_eq] using hall), List.length_take]
    omega
  exact htake.symm.le.trans ((List.take_sublist _ _).countP_le _)

/-- In a sorted list, at least `len - i` elements lie at or above the element at index `i`. -/
theorem length_sub_le_countP_getElem_le {l : List α} (hl : l.Sorted (· ≤ ·)) {i : Nat}
    (hi : i < l.length) : l.length - i ≤ l.countP (l[i] ≤ ·) := by
  have hall : ∀ a ∈ l.drop i, l[i] ≤ a := fun a ha => by
    obtain ⟨j, hj, rfl⟩ := List.mem_iff_getElem.1 ha
    rw [List.getElem_drop]
    rcases Nat.eq_zero_or_pos j with h | h
    · simp only [h, Nat.add_zero, le_refl]
    · exact List.pairwise_iff_getElem.1 hl _ _ _ _ (by omega)
  have hdrop : (l.drop i).countP (l[i] ≤ ·) = l.length - i := by
    rw [List.countP_eq_length.2 (by simpa only [decide_eq_true_eq] using hall), List.length_drop]
  exact hdrop.symm.le.trans ((List.drop_sublist _ _).countP_le _)

/-- **A majority brackets the median.** When a list is a permutation of `C ++ X` with more
elements in `C` than in `X`, the element at index `len/2` of its sorted form lies between two
elements of `C`. -/
theorem exists_le_median_le {l C X : List α} (hp : l.Perm (C ++ X))
    (hCX : X.length < C.length) {m : α}
    (hm : (l.insertionSort (· ≤ ·))[l.length / 2]? = some m) :
    (∃ c ∈ C, c ≤ m) ∧ ∃ c ∈ C, m ≤ c := by
  set s := l.insertionSort (· ≤ ·)
  have hs : s.Sorted (· ≤ ·) := List.sorted_insertionSort _ _
  have hps : s.Perm (C ++ X) := (List.perm_insertionSort _ _).trans hp
  have hlen : s.length = C.length + X.length := by rw [hps.length_eq, List.length_append]
  have hl : l.length = s.length := (List.length_insertionSort _ _).symm
  obtain ⟨hi, rfl⟩ := List.getElem?_eq_some_iff.1 hm
  constructor
  · -- at least `len/2 + 1` values lie at or below the median
    by_contra hC
    push_neg at hC
    have h1 := succ_le_countP_le_getElem hs hi
    rw [hps.countP_eq, List.countP_append,
      List.countP_eq_zero.2 fun c hc => by simpa using hC c hc] at h1
    have h2 := X.countP_le_length (· ≤ s[l.length / 2])
    omega
  · -- at least `len - len/2` values lie at or above it
    by_contra hC
    push_neg at hC
    have h1 := length_sub_le_countP_getElem_le hs hi
    rw [hps.countP_eq, List.countP_append,
      List.countP_eq_zero.2 fun c hc => by simpa using hC c hc] at h1
    have h2 := X.countP_le_length (s[l.length / 2] ≤ ·)
    omega

end OrderStatistics

/-! ### What the observation loop counts -/

/-- An observation the loop of `Outcome` never skips: it carries no attested retirement report,
or one the predecessor's check accepts. -/
def LLOPlugin.Admissible (p : LLOPlugin) (o : Observation) : Prop :=
  o.attestedPredecessorRetirement = [] ∨ ∃ pcd r, p.predecessorConfigDigest = some pcd ∧
    p.checkAttestedRetirementReport pcd o.attestedPredecessorRetirement = .ok r

section Screening

variable {p : LLOPlugin} {kept : Option RetirementReport} {ao : Payload Observation}

/-- The observations the entries decode to. -/
def decodedObservations (aos : List (Payload Observation)) : List Observation :=
  aos.filterMap fun ao => ao.unmarshal.toOption

/-- A skipped entry does not decode to an admissible observation. -/
theorem admitObservation_skip (h : p.admitObservation kept ao = .ok none) {o : Observation}
    (hu : ao.unmarshal = .ok o) : ¬ p.Admissible o := by
  unfold LLOPlugin.admitObservation at h
  simp only [hu] at h
  split_ifs at h with ha
  · rintro (h0 | ⟨pcd, r, hpcd, hc⟩)
    · exact ha.1 h0
    · simp [hpcd, hc] at h
  · cases h

/-- A counted entry is the observation it decodes to. -/
theorem admitObservation_admit {o : Observation} {k : Option RetirementReport}
    (h : p.admitObservation kept ao = .ok (some (o, k))) : ao.unmarshal = .ok o := by
  unfold LLOPlugin.admitObservation at h
  rcases hu : ao.unmarshal with e | o' <;> simp only [hu] at h
  · cases h
  split_ifs at h
  · rcases hpcd : p.predecessorConfigDigest with _ | pcd <;> simp only [hpcd] at h
    · cases h
    rcases hc : p.checkAttestedRetirementReport pcd o'.attestedPredecessorRetirement with e | R <;>
      simp only [hc] at h
    · cases h
    · cases h
      rfl
  · cases h
    rfl

/-- **The loop drops only inadmissible observations**: the decoded entries are the counted
observations and some inadmissible ones. -/
theorem screenObservations_perm :
    ∀ {kept k : Option RetirementReport} {aos : List (Payload Observation)}
      {acc : List Observation}, p.screenObservations kept aos = .ok (k, acc) →
      ∃ dropped, (decodedObservations aos).Perm (acc ++ dropped) ∧
        ∀ o ∈ dropped, ¬ p.Admissible o
  | _, _, [], _, h => by
    cases h
    exact ⟨[], .nil, by simp⟩
  | kept, k, ao :: aos, acc, h => by
    unfold LLOPlugin.screenObservations at h
    split at h
    · -- skipped
      rename_i hadmit
      obtain ⟨dropped, hperm, hd⟩ := screenObservations_perm h
      rcases hu : ao.unmarshal with e | o
      · refine ⟨dropped, ?_, hd⟩
        simp only [decodedObservations, List.filterMap_cons, hu, Except.toOption] at hperm ⊢
        exact hperm
      · refine ⟨o :: dropped, ?_, ?_⟩
        · simp only [decodedObservations, List.filterMap_cons, hu, Except.toOption]
          exact (hperm.cons o).trans List.perm_middle.symm
        · rintro o' ho'
          rcases List.mem_cons.1 ho' with rfl | ho'
          exacts [admitObservation_skip hadmit hu, hd o' ho']
    · -- counted
      rename_i o k' hadmit
      rw [GoResult.bind_eq_ok] at h
      obtain ⟨⟨r₁, r₂⟩, hr, h⟩ := h
      cases h
      obtain ⟨dropped, hperm, hd⟩ := screenObservations_perm hr
      refine ⟨dropped, ?_, hd⟩
      simp only [decodedObservations, List.filterMap_cons, admitObservation_admit hadmit,
        Except.toOption]
      exact hperm.cons o
    · cases h
    · cases h

/-- **The loop counts every correct observation**, and at most as many others as there are
faulty entries, when the entries split into the correct observations, all admissible, and
the faulty entries. -/
theorem accepted_perm {aos : List (Payload Observation)} {correct : List Observation}
    {faulty : List (Payload Observation)} (hsplit : aos.Perm (correct.map .encoded ++ faulty))
    (hcorrect : ∀ o ∈ correct, p.Admissible o) {k : Option RetirementReport}
    {acc : List Observation} (h : p.screenObservations kept aos = .ok (k, acc)) :
    ∃ X, acc.Perm (correct ++ X) ∧ X.length ≤ faulty.length := by
  obtain ⟨dropped, hperm, hdropped⟩ := screenObservations_perm h
  have hdec : (acc ++ dropped).Perm (correct ++ decodedObservations faulty) := by
    refine hperm.symm.trans ?_
    have := hsplit.filterMap fun ao => ao.unmarshal.toOption
    rwa [List.filterMap_append, List.filterMap_map,
      show (fun ao : Payload Observation => ao.unmarshal.toOption) ∘ Payload.encoded = some from rfl,
      List.filterMap_some] at this
  have hcount : ∀ x ∈ correct, correct.count x ≤ acc.count x := fun x hx => by
    have h1 := hdec.count_eq x
    rw [List.count_append, List.count_append,
      List.count_eq_zero_of_not_mem fun hm => hdropped x hm (hcorrect x hx)] at h1
    omega
  have hsplit' := List.subperm_append_diff_self_of_count_le hcount
  refine ⟨acc.diff correct, hsplit'.symm, ?_⟩
  have hl1 := hdec.length_eq
  have hl2 := hsplit'.length_eq
  have hl3 := List.length_filterMap_le (fun ao => ao.unmarshal.toOption) faulty
  simp only [List.length_append, decodedObservations] at hl1 hl2
  omega

end Screening

/-! ### The timestamp -/

section Timestamp

variable {p : LLOPlugin} {ord : OutcomeOrders}

theorem goIndex_eq_ok {α : Type} {l : List α} {i : Nat} {a : α} :
    goIndex l i = .ok a ↔ l[i]? = some a := by
  unfold goIndex
  split <;> rename_i h <;> simp [h]

/-- A step on at least `2f + 1` entries, with the entries split into the correct observations
and at most `f` faulty entries, counts the correct observations and fewer others. -/
theorem step_accepted {seqNr : Nat} (hs : 1 < seqNr) {prev o' : Outcome}
    {aos : List (Payload Observation)} {correct : List Observation}
    {faulty : List (Payload Observation)} (hsplit : aos.Perm (correct.map .encoded ++ faulty))
    (hfaulty : (faulty.length : Int) ≤ p.f) (hcorrect : ∀ o ∈ correct, p.Admissible o)
    (h : p.outcome ord ⟨seqNr, .encoded prev⟩ aos = .ok o') :
    ∃ (k : Option RetirementReport) (acc X : List Observation), StepOf p ord prev
        { acc.foldl (p.countObservation ord) Tally.init with
          validPredecessorRetirementReport := k } o' ∧
      acc.Perm (correct ++ X) ∧ X.length ≤ faulty.length ∧ faulty.length < correct.length := by
  have hlen : 2 * p.f + 1 ≤ aos.length := by
    by_contra hl
    rw [LLOPlugin.outcome, if_pos (lt_of_not_le hl)] at h
    cases h
  obtain ⟨t, ht, hstep⟩ := outcomeStep_eq_ok (outcome_eq_outcomeStep hs h)
  obtain ⟨k, acc, hscreen, rfl⟩ := tally_eq ht
  obtain ⟨X, hacc, hX⟩ := accepted_perm hsplit hcorrect hscreen
  have hl := hsplit.length_eq
  rw [List.length_append, List.length_map] at hl
  exact ⟨k, acc, X, hstep, hacc, hX, by omega⟩

/-- **The outcome's timestamp lies within the correct timestamps.** Whatever the faulty entries
hold, and whether they decode or not, when `Outcome` succeeds above sequence number 1 with at
most `f` faulty entries, some correct observation's timestamp lies at or below the outcome's
and some at or above it. -/
theorem timestamp_within_correct {seqNr : Nat} (hs : 1 < seqNr) {prev o' : Outcome}
    {aos : List (Payload Observation)} {correct : List Observation}
    {faulty : List (Payload Observation)} (hsplit : aos.Perm (correct.map .encoded ++ faulty))
    (hfaulty : (faulty.length : Int) ≤ p.f) (hcorrect : ∀ o ∈ correct, p.Admissible o)
    (h : p.outcome ord ⟨seqNr, .encoded prev⟩ aos = .ok o') :
    (∃ o ∈ correct, o.unixTimestampNanoseconds ≤ o'.observationsTimestampNanoseconds) ∧
      ∃ o ∈ correct, o'.observationsTimestampNanoseconds ≤ o.unixTimestampNanoseconds := by
  obtain ⟨k, acc, X, hstep, hacc, hX, hfc⟩ := step_accepted hs hsplit hfaulty hcorrect h
  have hmed := hstep.medianTimestamp_eq
  simp only [foldl_countObservation_timestampsNanoseconds, Tally.init, List.nil_append,
    medianTimestamp, goIndex_eq_ok] at hmed
  obtain ⟨⟨c, hc, hle⟩, ⟨c', hc', hge⟩⟩ := exists_le_median_le
    (by simpa only [List.map_append] using hacc.map (·.unixTimestampNanoseconds))
    (by simpa only [List.length_map] using lt_of_le_of_lt hX hfc) hmed
  obtain ⟨o, ho, rfl⟩ := List.mem_map.1 hc
  obtain ⟨o₂, ho₂, rfl⟩ := List.mem_map.1 hc'
  exact ⟨⟨o, ho, hle⟩, ⟨o₂, ho₂, hge⟩⟩

/-- Three correct observations at 1 s, 2 s and 3 s and a faulty one at 1000 s, with `f = 1`:
the outcome's timestamp, 3 s, lies between correct ones. -/
theorem timestamp_within_correct_skewed :
    1 < 2 ∧
      ([1, 2, 3, 1000].map fun s => Payload.encoded (windowObservation s false false [])).Perm
        (([1, 2, 3].map fun s => windowObservation s false false []).map .encoded ++
          [.encoded (windowObservation 1000 false false [])]) ∧
      (([.encoded (windowObservation 1000 false false [])] : List (Payload Observation)).length :
        Int) ≤ (runPlugin 1 none rejectAll).f ∧
      (∀ o ∈ [1, 2, 3].map fun s => windowObservation s false false [],
        (runPlugin 1 none rejectAll).Admissible o) ∧
      ∃ o', (runPlugin 1 none rejectAll).outcome .ascending
          ⟨2, .encoded (runPlugin 1 none rejectAll).initialOutcome⟩
          ([1, 2, 3, 1000].map fun s => Payload.encoded (windowObservation s false false [])) =
          .ok o' ∧
        o'.observationsTimestampNanoseconds = 3000000000 ∧
        (∃ o ∈ [1, 2, 3].map (fun s => windowObservation s false false []),
          o.unixTimestampNanoseconds ≤ o'.observationsTimestampNanoseconds) ∧
        ∃ o ∈ [1, 2, 3].map (fun s => windowObservation s false false []),
          o'.observationsTimestampNanoseconds ≤ o.unixTimestampNanoseconds :=
  have hc : ∀ o ∈ [1, 2, 3].map fun s => windowObservation s false false [],
      (runPlugin 1 none rejectAll).Admissible o := fun o ho => by
    obtain ⟨s, -, rfl⟩ := List.mem_map.1 ho
    exact .inl rfl
  ⟨by decide, List.Perm.refl _, by decide, hc, _, rfl, rfl,
    @timestamp_within_correct (runPlugin 1 none rejectAll) .ascending 2 (by decide)
      (runPlugin 1 none rejectAll).initialOutcome _ _ _
      [.encoded (windowObservation 1000 false false [])]
      (List.Perm.refl _) (by decide) hc rfl⟩

end Timestamp

/-! ### Stream medians -/

section StreamMedians

variable {s : StreamID}

/-- An observation at 1 s with the stream values `values` and no vote. -/
def valuesObservation (values : StreamValues) : Observation :=
  ⟨[], false, 1000000000, ∅, ∅, values⟩

/-- The value `v` of stream 7, marked valid. -/
def stream7 (v : Int) : StreamValues := (∅ : StreamValues).insert 7 ⟨some v, true⟩

theorem length_validValues_le (o : Observation) (s : StreamID) : (o.validValues s).length ≤ 1 := by
  unfold Observation.validValues
  split
  · split <;> simp
  · simp

theorem mem_validValues {o : Observation} {v : Int} :
    some v ∈ o.validValues s ↔ o.streamValues.find? s = some ⟨some v, true⟩ := by
  unfold Observation.validValues
  rcases o.streamValues.find? s with _ | ⟨val, _ | _⟩ <;> simp [eq_comm]

/-- Each observation contributes at most one value to a stream. -/
theorem length_flatten_validValues (s : StreamID) :
    ∀ l : List Observation,
      ((l.map (·.validValues s)).flatten).length = l.countP fun o => o.validValues s ≠ []
  | [] => rfl
  | o :: l => by
    rw [List.map_cons, List.flatten_cons, List.length_append, length_flatten_validValues s l,
      List.countP_cons]
    by_cases h : o.validValues s = []
    · simp [h]
    · have := length_validValues_le o s
      have := List.length_pos.2 h
      simp only [h, ne_eq, not_false_eq_true, decide_True, if_true]
      omega

/-- A value of the correct observations' values of a stream is one a correct observation
marks valid. -/
theorem exists_of_mem_filterMap_validValues {correct : List Observation} {c : Int}
    (hc : c ∈ ((correct.map (·.validValues s)).flatten).filterMap id) :
    ∃ o ∈ correct, o.streamValues.find? s = some ⟨some c, true⟩ := by
  obtain ⟨a, ha, hac⟩ := List.mem_filterMap.1 hc
  cases hac
  obtain ⟨l, hl, hcl⟩ := List.mem_flatten.1 ha
  obtain ⟨o, ho, rfl⟩ := List.mem_map.1 hl
  exact ⟨o, ho, mem_validValues.1 hcl⟩

/-- Sorting values one of which is not `nil` succeeds only when none is `nil`. -/
theorem sortObservations_of_isSome {vals sorted : List (Option Int)}
    (h : sortObservations vals = .ok sorted) (hx : ∃ x ∈ vals, x.isSome) :
    (∀ x ∈ vals, x.isSome) ∧ sorted = ((vals.filterMap id).insertionSort (· ≤ ·)).map some := by
  unfold sortObservations at h
  split_ifs at h with h₁ h₂
  · cases h
    exact ⟨fun x hx => List.all_eq_true.1 h₁ x hx, rfl⟩
  · obtain ⟨x, hx, hs⟩ := hx
    have := List.all_eq_true.1 h₂ x hx
    rw [Option.isNone_iff_eq_none] at this
    simp [this] at hs

/-- One body of the median loop: a stream with more than `f` values gets the element at
`len/2` of its sorted values, any other leaves the medians alone. -/
theorem addStreamMedian_eq_ok {f : Int} {n n' : GoMap StreamID (Option Int)}
    {e : StreamID × List (Option Int)} (h : addStreamMedian f n e = .ok n') :
    ∃ sorted, sortObservations e.2 = .ok sorted ∧ ((sorted.length : Int) ≤ f ∧ n' = n ∨
      f < sorted.length ∧ ∃ v, goIndex sorted (sorted.length / 2) = .ok v ∧
        n' = n.insert e.1 v) := by
  simp only [addStreamMedian, GoResult.bind_eq_ok] at h
  obtain ⟨sorted, hs, h⟩ := h
  refine ⟨sorted, hs, ?_⟩
  split_ifs at h with hl
  · exact .inl ⟨hl, (GoResult.ok.inj h).symm⟩
  · rw [GoResult.bind_eq_ok] at h
    obtain ⟨v, hv, h⟩ := h
    exact .inr ⟨not_le.1 hl, v, hv, (GoResult.ok.inj h).symm⟩

/-- The median loop leaves the streams it does not visit alone. -/
theorem find?_foldlM_addStreamMedian_of_not_mem {f : Int} :
    ∀ {l : List (StreamID × List (Option Int))} {n m : GoMap StreamID (Option Int)},
      s ∉ l.map Prod.fst → l.foldlM (addStreamMedian f) n = .ok m → m.find? s = n.find? s
  | [], _, _, _, h => by
    cases h
    rfl
  | e :: l, n, m, hs, h => by
    rw [List.foldlM_cons, GoResult.bind_eq_ok] at h
    obtain ⟨n', hn', h⟩ := h
    rw [List.map_cons, List.mem_cons, not_or] at hs
    rw [find?_foldlM_addStreamMedian_of_not_mem hs.2 h]
    obtain ⟨-, -, ⟨-, rfl⟩ | ⟨-, v, -, rfl⟩⟩ := addStreamMedian_eq_ok hn'
    · rfl
    · rw [GoMap.find?_insert, if_neg hs.1]

/-- The median loop publishes a stream with more than `f` values, at the element at `len/2` of
its sorted values. -/
theorem find?_foldlM_addStreamMedian_of_mem {f : Int} {vals : List (Option Int)} :
    ∀ {l : List (StreamID × List (Option Int))} {n m : GoMap StreamID (Option Int)},
      (l.map Prod.fst).Nodup → (s, vals) ∈ l → l.foldlM (addStreamMedian f) n = .ok m →
      ∃ sorted, sortObservations vals = .ok sorted ∧ (f < sorted.length →
        ∃ v, goIndex sorted (sorted.length / 2) = .ok v ∧ m.find? s = some v)
  | e :: l, n, m, hnd, hmem, h => by
    rw [List.map_cons, List.nodup_cons] at hnd
    rw [List.foldlM_cons, GoResult.bind_eq_ok] at h
    obtain ⟨n', hn', h⟩ := h
    rcases List.mem_cons.1 hmem with rfl | hmem
    · obtain ⟨sorted, hsort, hcase⟩ := addStreamMedian_eq_ok hn'
      refine ⟨sorted, hsort, fun hlt => ?_⟩
      rcases hcase with ⟨hle, -⟩ | ⟨-, v, hv, rfl⟩
      · exact absurd hlt (not_lt.2 hle)
      · refine ⟨v, hv, ?_⟩
        rw [find?_foldlM_addStreamMedian_of_not_mem hnd.1 h, GoMap.find?_insert, if_pos rfl]
    · exact find?_foldlM_addStreamMedian_of_mem hnd.2 hmem h

/-- The median loop publishes a stream with more than `f` values one of which is not `nil`, at
the element at `len/2` of its sorted values. -/
theorem find?_foldlM_addStreamMedian_median {f : Int} {vals : List (Option Int)}
    {l : List (StreamID × List (Option Int))} {n m : GoMap StreamID (Option Int)}
    (hnd : (l.map Prod.fst).Nodup) (hmem : (s, vals) ∈ l)
    (h : l.foldlM (addStreamMedian f) n = .ok m)
    (hx : ∃ x ∈ vals, x.isSome) (hlen : f < vals.length) :
    ∃ v, ((vals.filterMap id).insertionSort (· ≤ ·))[(vals.filterMap id).length / 2]? = some v ∧
      m.find? s = some (some v) := by
  obtain ⟨sorted, hsort, hpub⟩ := find?_foldlM_addStreamMedian_of_mem hnd hmem h
  obtain ⟨hall, rfl⟩ := sortObservations_of_isSome hsort hx
  have hL : (vals.filterMap id).length = vals.length :=
    (List.length_filterMap_eq_countP _ _).trans (List.countP_eq_length.2 hall)
  obtain ⟨v, hv, hmed⟩ := hpub (by rw [List.length_map, List.length_insertionSort, hL]; exact hlen)
  rw [goIndex_eq_ok, List.length_map, List.length_insertionSort, List.getElem?_map] at hv
  obtain ⟨w, hw, rfl⟩ := Option.map_eq_some'.1 hv
  exact ⟨w, hw, hmed⟩

variable {p : LLOPlugin} {ord : OutcomeOrders}

/-- **The stream median lies within the correct values** once at least `f + 1` correct
oracles mark the stream valid. Whatever the faulty entries hold, when `Outcome` succeeds above
sequence number 1 with at most `f` faulty entries, it publishes a median for the stream, not
`nil`, with some correct value at or below it and some at or above it. -/
theorem streamMedian_within_correct {seqNr : Nat} (hs : 1 < seqNr) {prev o' : Outcome}
    {aos : List (Payload Observation)} {correct : List Observation}
    {faulty : List (Payload Observation)} (hsplit : aos.Perm (correct.map .encoded ++ faulty))
    (hfaulty : (faulty.length : Int) ≤ p.f) (hcorrect : ∀ o ∈ correct, p.Admissible o)
    (hnil : ∀ o ∈ correct, ∀ v ∈ o.validValues s, v.isSome)
    (hvalid : p.f < correct.countP fun o => o.validValues s ≠ [])
    (h : p.outcome ord ⟨seqNr, .encoded prev⟩ aos = .ok o') :
    ∃ m, o'.streamMedians.find? s = some (some m) ∧
      (∃ o ∈ correct, ∃ v ≤ m, o.streamValues.find? s = some ⟨some v, true⟩) ∧
      ∃ o ∈ correct, ∃ v ≥ m, o.streamValues.find? s = some ⟨some v, true⟩ := by
  obtain ⟨k, acc, X, hstep, hacc, hX, -⟩ := step_accepted hs hsplit hfaulty hcorrect h
  set Cv := (correct.map (·.validValues s)).flatten
  set Xv := (X.map (·.validValues s)).flatten
  set vals := (acc.map (·.validValues s)).flatten
  have hperm : vals.Perm (Cv ++ Xv) := by
    rw [← List.flatten_append, ← List.map_append]
    exact (hacc.map _).flatten
  have hCv : Cv.length = _ := length_flatten_validValues s correct
  have hXv : Xv.length ≤ X.length :=
    (length_flatten_validValues s X).trans_le (List.countP_le_length _)
  have hlen : p.f < vals.length := by
    rw [hperm.length_eq, List.length_append]
    omega
  have hCsome : ∀ x ∈ Cv, x.isSome := fun x hx => by
    obtain ⟨l, hl, hxl⟩ := List.mem_flatten.1 hx
    obtain ⟨o, ho, rfl⟩ := List.mem_map.1 hl
    exact hnil o ho x hxl
  obtain ⟨x, hx⟩ := List.exists_mem_of_ne_nil Cv (List.ne_nil_of_length_pos (by omega))
  -- the tally holds the stream's values, and the median loop publishes their median
  have hfind : (acc.foldl (p.countObservation ord) Tally.init).streamObservations.find? s =
      some vals := by
    refine GoMap.find?_of_findD_ne ?_
      (List.ne_nil_of_mem (hperm.mem_iff.2 (List.mem_append_left _ hx)))
    rw [foldl_countObservation_streamObservations]
    rfl
  obtain ⟨m, hm, hmed⟩ := find?_foldlM_addStreamMedian_median
    (((ord.streamObservations.perm _).map Prod.fst).nodup_iff.2 (GoMap.keys_nodup _))
    ((ord.streamObservations.perm _).mem_iff.2 (GoMap.mem_toList_iff.2 hfind))
    hstep.streamMedians_eq ⟨x, hperm.mem_iff.2 (List.mem_append_left _ hx), hCsome x hx⟩ hlen
  -- the correct values outnumber the faulty ones
  have hCL : (Cv.filterMap id).length = Cv.length :=
    (List.length_filterMap_eq_countP _ _).trans (List.countP_eq_length.2 hCsome)
  have hXL := List.length_filterMap_le id Xv
  obtain ⟨⟨c, hc, hcm⟩, ⟨c', hc', hmc⟩⟩ := exists_le_median_le
    (by rw [← List.filterMap_append]; exact hperm.filterMap id) (by omega) hm
  obtain ⟨o, ho, hov⟩ := exists_of_mem_filterMap_validValues hc
  obtain ⟨o₂, ho₂, hov₂⟩ := exists_of_mem_filterMap_validValues hc'
  exact ⟨m, hmed, ⟨o, ho, c, hcm, hov⟩, ⟨o₂, ho₂, c', hmc, hov₂⟩⟩

theorem streamMedian_within_correct_three :
    1 < 2 ∧
    [Payload.encoded (valuesObservation (stream7 10)), .encoded (valuesObservation (stream7 20)),
        .encoded (valuesObservation (stream7 1000))].Perm
      ([valuesObservation (stream7 10), valuesObservation (stream7 20)].map .encoded ++
        [.encoded (valuesObservation (stream7 1000))]) ∧
    (([Payload.encoded (valuesObservation (stream7 1000))]).length : Int) ≤
      (runPlugin 1 none rejectAll).f ∧
    (∀ o ∈ [valuesObservation (stream7 10), valuesObservation (stream7 20)],
      (runPlugin 1 none rejectAll).Admissible o) ∧
    (∀ o ∈ [valuesObservation (stream7 10), valuesObservation (stream7 20)],
      ∀ v ∈ o.validValues 7, v.isSome) ∧
    (runPlugin 1 none rejectAll).f <
      ([valuesObservation (stream7 10), valuesObservation (stream7 20)].countP
        fun o => o.validValues 7 ≠ []) ∧
    ∃ o', (runPlugin 1 none rejectAll).outcome .ascending
        ⟨2, .encoded (runPlugin 1 none rejectAll).initialOutcome⟩
        [.encoded (valuesObservation (stream7 10)), .encoded (valuesObservation (stream7 20)),
          .encoded (valuesObservation (stream7 1000))] = .ok o' ∧
      ∃ m, o'.streamMedians.find? 7 = some (some m) ∧
        (∃ o ∈ [valuesObservation (stream7 10), valuesObservation (stream7 20)], ∃ v ≤ m,
          o.streamValues.find? 7 = some ⟨some v, true⟩) ∧
        ∃ o ∈ [valuesObservation (stream7 10), valuesObservation (stream7 20)], ∃ v ≥ m,
          o.streamValues.find? 7 = some ⟨some v, true⟩ :=
  have hc : ∀ o ∈ [valuesObservation (stream7 10), valuesObservation (stream7 20)],
      (runPlugin 1 none rejectAll).Admissible o := fun o ho => by
    simp only [List.mem_cons, List.not_mem_nil, or_false] at ho
    rcases ho with rfl | rfl <;> exact .inl rfl
  ⟨by decide, List.Perm.refl _, by decide, hc, by decide, by decide, _, rfl,
    @streamMedian_within_correct 7 (runPlugin 1 none rejectAll) .ascending 2 (by decide)
      (runPlugin 1 none rejectAll).initialOutcome _
      [.encoded (valuesObservation (stream7 10)), .encoded (valuesObservation (stream7 20)),
        .encoded (valuesObservation (stream7 1000))]
      [valuesObservation (stream7 10), valuesObservation (stream7 20)]
      [.encoded (valuesObservation (stream7 1000))] (List.Perm.refl _) (by decide) hc
      (by decide) (by decide) rfl⟩

/-- **A faulty value can become a stream median.** With `f = 1`, two correct oracles and one
faulty one, a correct oracle that reports no value for stream 7 leaves two values, 10 and the
faulty 1000; as `2 > f`, `Outcome` publishes the median at index 1, which is 1000, above the
only correct value 10. -/
theorem median_outside_correct_values :
    ∃ o', (runPlugin 1 none rejectAll).outcome .ascending
        ⟨2, .encoded (runPlugin 1 none rejectAll).initialOutcome⟩
        [.encoded (valuesObservation (stream7 10)), .encoded (valuesObservation ∅),
          .encoded (valuesObservation (stream7 1000))] = .ok o' ∧
      o'.streamMedians.find? 7 = some (some 1000) ∧
      ([valuesObservation (stream7 10), valuesObservation ∅].map (·.validValues 7)).flatten =
        [some 10] :=
  ⟨_, rfl, rfl, rfl⟩

end StreamMedians

end LloPlugin
