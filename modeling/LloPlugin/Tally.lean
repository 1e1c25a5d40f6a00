import LloPlugin.Outcome

/-!
# The observation loop

For each attributed observation the loop of `Outcome` first decides whether to count it
(`LLOPlugin.admitObservation`) and then adds it to the accumulators
(`LLOPlugin.countObservation`). The decision never reads what has been counted, so the loop
is a screening pass followed by a counting pass (`foldlM_tallyObservation`), and every
accumulator is a function of the list of accepted observations alone, whichever order the
`range` statements inside the loop take.

## Main definitions

* `LloPlugin.LLOPlugin.screenObservations` — the accepted observations, in order, and the
  retirement report the loop keeps.

## Main results

* `LloPlugin.foldlM_tallyObservation` — the loop is screening followed by counting.
* `LloPlugin.foldl_countObservation_shouldRetireVotes`, `…_timestampsNanoseconds`,
  `…_removeVotes`, `…_addVotes`, `…_addDefinition`, `…_streamObservations` — each
  accumulator as a function of the accepted observations.
-/

set_option autoImplicit false

namespace LloPlugin

/-- The observations the loop of `Outcome` counts, in order, and the retirement report it keeps,
starting from the report `kept`. -/
def LLOPlugin.screenObservations (p : LLOPlugin) (kept : Option RetirementReport) :
    List (Payload Observation) → GoResult (Option RetirementReport × List Observation)
  | [] => .ok (kept, [])
  | ao :: aos =>
    match p.admitObservation kept ao with
    | .ok none => p.screenObservations kept aos
    | .ok (some (observation, kept')) =>
      p.screenObservations kept' aos >>= fun r => pure (r.1, observation :: r.2)
    | .error e => .error e
    | .panic e => .panic e

namespace GoResult

variable {α β γ : Type}

theorem bind_assoc (r : GoResult α) (f : α → GoResult β) (g : β → GoResult γ) :
    r >>= f >>= g = r >>= fun a => f a >>= g := by
  cases r <;> rfl

end GoResult

variable (p : LLOPlugin) (ord : OutcomeOrders)

/-! ### Screening, then counting -/

@[simp] theorem countObservation_validPredecessorRetirementReport (t : Tally) (o : Observation) :
    (p.countObservation ord t o).validPredecessorRetirementReport =
      t.validPredecessorRetirementReport := rfl

theorem foldl_countObservation_with (k : Option RetirementReport) :
    ∀ (acc : List Observation) (t : Tally),
      acc.foldl (p.countObservation ord) { t with validPredecessorRetirementReport := k } =
        { acc.foldl (p.countObservation ord) t with validPredecessorRetirementReport := k }
  | [], _ => rfl
  | o :: acc, t => foldl_countObservation_with k acc (p.countObservation ord t o)

theorem foldl_countObservation_cons_with (o : Observation) (k r : Option RetirementReport)
    (acc : List Observation) (t : Tally) :
    { (o :: acc).foldl (p.countObservation ord) t with validPredecessorRetirementReport := r } =
      { acc.foldl (p.countObservation ord)
          (p.countObservation ord { t with validPredecessorRetirementReport := k } o) with
        validPredecessorRetirementReport := r } := by
  show _ = { acc.foldl (p.countObservation ord)
    { p.countObservation ord t o with validPredecessorRetirementReport := k } with
    validPredecessorRetirementReport := r }
  rw [foldl_countObservation_with p ord k acc (p.countObservation ord t o)]
  rfl

/-- **The observation loop is a screening pass followed by a counting pass.** -/
theorem foldlM_tallyObservation :
    ∀ (aos : List (Payload Observation)) (t : Tally),
      aos.foldlM (p.tallyObservation ord) t =
        p.screenObservations t.validPredecessorRetirementReport aos >>= fun r =>
          pure { r.2.foldl (p.countObservation ord) t with validPredecessorRetirementReport := r.1 }
  | [], t => rfl
  | ao :: aos, t => by
    rw [List.foldlM_cons]
    rcases h : p.admitObservation t.validPredecessorRetirementReport ao with
      (_ | ⟨o, k⟩) | e | e
    · simp only [LLOPlugin.tallyObservation, LLOPlugin.screenObservations, h, GoResult.ok_bind]
      exact foldlM_tallyObservation aos t
    · have ht : p.tallyObservation ord t ao =
          .ok (p.countObservation ord { t with validPredecessorRetirementReport := k } o) := by
        simp only [LLOPlugin.tallyObservation, h]
      have hs : p.screenObservations t.validPredecessorRetirementReport (ao :: aos) =
          p.screenObservations k aos >>= fun r => pure (r.1, o :: r.2) := by
        simp only [LLOPlugin.screenObservations, h]
      rw [ht, GoResult.ok_bind, foldlM_tallyObservation aos, hs, GoResult.bind_assoc]
      congr 1
      funext r
      exact congrArg GoResult.ok (foldl_countObservation_cons_with p ord o k r.1 r.2 t).symm
    · simp [LLOPlugin.tallyObservation, LLOPlugin.screenObservations, h]
    · simp [LLOPlugin.tallyObservation, LLOPlugin.screenObservations, h]

/-- Observations that decode and carry no attested retirement report are all counted, and the
kept report stays. -/
theorem screenObservations_unattested (kept : Option RetirementReport) :
    ∀ acc : List Observation, (∀ o ∈ acc, o.attestedPredecessorRetirement = []) →
      p.screenObservations kept (acc.map .encoded) = .ok (kept, acc)
  | [], _ => rfl
  | o :: acc, h => by
    have hadmit : p.admitObservation kept (.encoded o) = .ok (some (o, kept)) := by
      simp [LLOPlugin.admitObservation, Payload.unmarshal, h o (List.mem_cons_self _ _)]
    simp only [List.map_cons, LLOPlugin.screenObservations, hadmit,
      screenObservations_unattested kept acc fun o' ho' => h o' (List.mem_cons_of_mem _ ho')]
    rfl

/-! ### The accumulators -/

theorem countRemoveVotes_findD (c : ChannelID) :
    ∀ (ids : List ChannelID) (votes : GoMap ChannelID Nat),
      (countRemoveVotes votes ids).findD c 0 = votes.findD c 0 + ids.count c
  | [], _ => rfl
  | i :: ids, votes => by
    rw [countRemoveVotes, List.foldl_cons, ← countRemoveVotes, countRemoveVotes_findD c ids,
      List.count_cons]
    by_cases h : c = i
    · subst h; simp [GoMap.findD_eq]; omega
    · simp [GoMap.findD_eq, h, Ne.symm h]

theorem countAddVotes_findD (h : ChannelHash) :
    ∀ (l : List (ChannelID × ChannelDefinition))
      (acc : GoMap ChannelHash Nat × GoMap ChannelHash ChannelDefinitionWithID),
      (p.countAddVotes acc l).1.findD h 0 =
        acc.1.findD h 0 + l.countP fun e => p.makeChannelHash ⟨e.2, e.1⟩ = h
  | [], _ => rfl
  | e :: l, acc => by
    rw [LLOPlugin.countAddVotes, List.foldl_cons, ← LLOPlugin.countAddVotes,
      countAddVotes_findD h l, List.countP_cons]
    by_cases he : p.makeChannelHash ⟨e.2, e.1⟩ = h
    · subst he; simp [GoMap.findD_eq]; omega
    · simp [GoMap.findD_eq, he, Ne.symm he]

theorem countAddVotes_find? {h : ChannelHash} {d : ChannelDefinitionWithID} :
    ∀ (l : List (ChannelID × ChannelDefinition))
      (acc : GoMap ChannelHash Nat × GoMap ChannelHash ChannelDefinitionWithID),
      (p.countAddVotes acc l).2.find? h = some d →
        acc.2.find? h = some d ∨ (p.makeChannelHash d = h ∧ (d.channelID, d.channelDefinition) ∈ l)
  | [], _, hd => .inl hd
  | e :: l, acc, hd => by
    rw [LLOPlugin.countAddVotes, List.foldl_cons, ← LLOPlugin.countAddVotes] at hd
    rcases countAddVotes_find? l _ hd with hd | ⟨hh, hm⟩
    · simp only [GoMap.find?_insert] at hd
      split_ifs at hd with he
      · cases hd; exact .inr ⟨he.symm, List.mem_cons_self _ _⟩
      · exact .inl hd
    · exact .inr ⟨hh, List.mem_cons_of_mem _ hm⟩

/-- A hash is filed after the loop over one observation's proposals exactly when it was before
or one of them hashes to it. -/
theorem mem_countAddVotes (h : ChannelHash) :
    ∀ (l : List (ChannelID × ChannelDefinition))
      (acc : GoMap ChannelHash Nat × GoMap ChannelHash ChannelDefinitionWithID),
      h ∈ (p.countAddVotes acc l).2 ↔ h ∈ acc.2 ∨ ∃ e ∈ l, p.makeChannelHash ⟨e.2, e.1⟩ = h
  | [], _ => by
    simp only [LLOPlugin.countAddVotes, List.foldl_nil, List.not_mem_nil, false_and, exists_false,
      or_false]
  | e :: l, acc => by
    rw [LLOPlugin.countAddVotes, List.foldl_cons, ← LLOPlugin.countAddVotes,
      mem_countAddVotes h l, GoMap.mem_insert]
    simp only [List.mem_cons, exists_eq_or_imp]
    rw [or_assoc, or_left_comm, eq_comm]

theorem collectStreamValues_findD (s : StreamID) :
    ∀ (l : List (StreamID × ObsResult)) (obs : GoMap StreamID (List (Option Int))),
      (collectStreamValues obs l).findD s [] =
        obs.findD s [] ++ (l.filter fun e => e.1 = s ∧ e.2.valid).map fun e => e.2.val
  | [], _ => by simp [collectStreamValues]
  | e :: l, obs => by
    rw [collectStreamValues, List.foldl_cons, ← collectStreamValues,
      collectStreamValues_findD s l]
    by_cases hv : e.2.valid
    · by_cases he : e.1 = s
      · subst he; simp [GoMap.findD_eq, hv]
      · simp [GoMap.findD_eq, hv, he, Ne.symm he]
    · simp [hv]

/-- The values one observation contributes to a stream: its value, if it is marked valid. -/
def Observation.validValues (o : Observation) (s : StreamID) : List (Option Int) :=
  match o.streamValues.find? s with
  | some r => if r.valid then [r.val] else []
  | none => []

theorem foldl_countObservation_shouldRetireVotes :
    ∀ (acc : List Observation) (t : Tally),
      (acc.foldl (p.countObservation ord) t).shouldRetireVotes =
        t.shouldRetireVotes + acc.countP (·.shouldRetire)
  | [], _ => rfl
  | o :: acc, t => by
    rw [List.foldl_cons, foldl_countObservation_shouldRetireVotes acc, List.countP_cons]
    by_cases h : o.shouldRetire <;> simp [LLOPlugin.countObservation, h]
    omega

theorem foldl_countObservation_timestampsNanoseconds :
    ∀ (acc : List Observation) (t : Tally),
      (acc.foldl (p.countObservation ord) t).timestampsNanoseconds =
        t.timestampsNanoseconds ++ acc.map (·.unixTimestampNanoseconds)
  | [], _ => by simp
  | o :: acc, t => by
    rw [List.foldl_cons, foldl_countObservation_timestampsNanoseconds acc]
    simp [LLOPlugin.countObservation]

theorem foldl_countObservation_removeVotes (c : ChannelID) :
    ∀ (acc : List Observation) (t : Tally),
      (acc.foldl (p.countObservation ord) t).removeChannelVotesByID.findD c 0 =
        t.removeChannelVotesByID.findD c 0 + acc.countP fun o => c ∈ o.removeChannelIDs
  | [], _ => rfl
  | o :: acc, t => by
    rw [List.foldl_cons, foldl_countObservation_removeVotes c acc, List.countP_cons]
    simp only [LLOPlugin.countObservation, countRemoveVotes_findD,
      GoMap.count_of_perm_keys ((ord.removeChannelIDs _).perm _)]
    split_ifs <;> simp_all
    omega

theorem foldl_countObservation_addVotes (h : ChannelHash) :
    ∀ (acc : List Observation) (t : Tally),
      (acc.foldl (p.countObservation ord) t).addChannelVotesByHash.findD h 0 =
        t.addChannelVotesByHash.findD h 0 + (acc.map fun o =>
          o.addChannelDefinitions.toList.countP fun e => p.makeChannelHash ⟨e.2, e.1⟩ = h).sum
  | [], _ => rfl
  | o :: acc, t => by
    rw [List.foldl_cons, foldl_countObservation_addVotes h acc]
    simp only [LLOPlugin.countObservation, countAddVotes_findD,
      ((ord.addChannelDefinitions _).perm _).countP_eq, List.map_cons, List.sum_cons]
    omega

theorem foldl_countObservation_addDefinition {h : ChannelHash} {d : ChannelDefinitionWithID} :
    ∀ (acc : List Observation) (t : Tally),
      (acc.foldl (p.countObservation ord) t).addChannelDefinitionsByHash.find? h = some d →
        t.addChannelDefinitionsByHash.find? h = some d ∨ (p.makeChannelHash d = h ∧
          ∃ o ∈ acc, o.addChannelDefinitions.find? d.channelID = some d.channelDefinition)
  | [], _, hd => .inl hd
  | o :: acc, t, hd => by
    rw [List.foldl_cons] at hd
    rcases foldl_countObservation_addDefinition acc _ hd with hd | ⟨hh, o', ho', hf⟩
    · rcases countAddVotes_find? p _ _ hd with hd | ⟨hh, hm⟩
      · exact .inl hd
      · exact .inr ⟨hh, o, List.mem_cons_self _ _,
          GoMap.mem_toList_iff.1 (((ord.addChannelDefinitions _).perm _).subset hm)⟩
    · exact .inr ⟨hh, o', List.mem_cons_of_mem _ ho', hf⟩

/-- A hash is filed after the loop exactly when it was before or an accepted observation
proposes a definition with that hash. -/
theorem mem_foldl_countObservation_addDefinitions (h : ChannelHash) :
    ∀ (acc : List Observation) (t : Tally),
      h ∈ (acc.foldl (p.countObservation ord) t).addChannelDefinitionsByHash ↔
        h ∈ t.addChannelDefinitionsByHash ∨
          ∃ o ∈ acc, ∃ e ∈ o.addChannelDefinitions.toList, p.makeChannelHash ⟨e.2, e.1⟩ = h
  | [], _ => by
    simp only [List.foldl_nil, List.not_mem_nil, Prod.exists, false_and, exists_false, or_false]
  | o :: acc, t => by
    rw [List.foldl_cons, mem_foldl_countObservation_addDefinitions h acc]
    simp only [LLOPlugin.countObservation, mem_countAddVotes,
      ((ord.addChannelDefinitions _).perm _).mem_iff, List.mem_cons, exists_eq_or_imp, or_assoc]

/-- A `range` over an observation's stream values contributes its valid value of a stream. -/
theorem filter_streamValues_of_perm (o : Observation) (s : StreamID)
    {l : List (StreamID × ObsResult)} (hl : l.Perm o.streamValues.toList) :
    (l.filter fun e => e.1 = s ∧ e.2.valid).map (fun e => e.2.val) = o.validValues s := by
  have hf : (l.filter fun e => e.1 = s ∧ e.2.valid) =
      (l.filter fun e => e.1 = s).filter fun e => e.2.valid := by
    rw [List.filter_filter]
    congr 1
    funext e
    simp [and_comm]
  rw [hf, GoMap.filter_key_of_perm hl, Observation.validValues]
  cases o.streamValues.find? s with
  | none => rfl
  | some r => by_cases hv : r.valid <;> simp [hv]

theorem foldl_countObservation_streamObservations (s : StreamID) :
    ∀ (acc : List Observation) (t : Tally),
      (acc.foldl (p.countObservation ord) t).streamObservations.findD s [] =
        t.streamObservations.findD s [] ++ (acc.map fun o => o.validValues s).flatten
  | [], _ => by simp
  | o :: acc, t => by
    rw [List.foldl_cons, foldl_countObservation_streamObservations s acc]
    simp only [LLOPlugin.countObservation, collectStreamValues_findD,
      filter_streamValues_of_perm o s ((ord.streamValues _).perm _), List.map_cons, List.flatten_cons,
      List.append_assoc]

/-- Observations without stream values leave the stream accumulator alone. -/
theorem foldl_countObservation_streamObservations_of_empty :
    ∀ (acc : List Observation) (t : Tally), (∀ o ∈ acc, o.streamValues = ∅) →
      (acc.foldl (p.countObservation ord) t).streamObservations = t.streamObservations
  | [], _, _ => rfl
  | o :: acc, t, h => by
    rw [List.foldl_cons, foldl_countObservation_streamObservations_of_empty acc _
      fun o' ho' => h o' (List.mem_cons_of_mem _ ho')]
    simp [LLOPlugin.countObservation, h o (List.mem_cons_self _ _), collectStreamValues]

end LloPlugin
