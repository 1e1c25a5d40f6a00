import LloPlugin.Lifecycle

/-!
# Channel definitions across a step

The two loops over the channel definitions in `Outcome` are the only writers of the map: the
removal loop deletes every channel with more than `f` removal votes, and the addition loop
inserts a definition with more than `f` votes, unless its channel ID is taken or the map
already holds more than `MAX_OUTCOME_CHANNEL_DEFINITIONS_LENGTH` channels. This module gives
each loop its spec, reads the votes off the tally of the accepted observations, and derives
what a step can do to the map and to `ValidAfterSeconds`.

## Main definitions

* `LloPlugin.HashesDistinct` — `MakeChannelHash` tells apart the definitions that the accepted
  observations propose.

## Main results

* `LloPlugin.removeChannels_find?`, `LloPlugin.removeChannels_snd` — the removal loop.
* `LloPlugin.addChannels_find?_of_find?`, `LloPlugin.addChannels_find?_cases`,
  `LloPlugin.addChannels_size_le` — the addition loop.
* `LloPlugin.channelDefinitions_voted` — a step changes the channel definitions only as more
  than `f` accepted observations voted, and not at all once retired.
* `LloPlugin.validAfterSeconds_of_channelDefinitions` — a step's channels all have a
  `ValidAfterSeconds` entry, except the ones it removed by vote.

## Implementation notes

The votes of an observation are counted per map key: an observation lists a channel ID for
removal at most once, and proposes at most one definition per channel ID. A definition's
votes are counted per hash, so they count the observations proposing exactly that definition
only when no two proposed definitions share a hash (`HashesDistinct`).
-/

set_option autoImplicit false

namespace LloPlugin

/-! ### The removal loop -/

section Removal

variable (f : Int) (c : ChannelID)

theorem exists_vote_cons (e : ChannelID × Nat) (l : List (ChannelID × Nat)) :
    (∃ x ∈ e :: l, x.1 = c ∧ f < x.2) ↔ (e.1 = c ∧ f < e.2) ∨ ∃ x ∈ l, x.1 = c ∧ f < x.2 := by
  simp only [List.mem_cons, or_and_right, exists_or, exists_eq_left, Prod.exists]

/-- After the removal loop a channel is gone exactly when a visited entry gave it more than `f`
votes. -/
theorem removeChannels_find? :
    ∀ (defs : ChannelDefinitions) (l : List (ChannelID × Nat)),
      (removeChannels f defs l).1.find? c =
        if ∃ e ∈ l, e.1 = c ∧ f < e.2 then none else defs.find? c
  | defs, [] => by
    simp only [removeChannels, List.not_mem_nil, false_and, exists_false, ↓reduceIte]
  | defs, e :: l => by
    simp only [exists_vote_cons]
    by_cases hv : (e.2 : Int) ≤ f
    · simp only [removeChannels, if_pos hv, removeChannels_find? defs l, not_lt.2 hv, and_false,
        false_or]
    · have hv' : f < e.2 := not_le.1 hv
      by_cases hc : e.1 = c
      · simp only [removeChannels, hv, ↓reduceIte, hc, removeChannels_find? _ l, Prod.exists,
          GoMap.find?_erase, ite_self, hv', and_self, true_or]
      · simp only [removeChannels, if_neg hv, removeChannels_find? _ l, GoMap.find?_erase,
          if_neg (Ne.symm hc), hc, false_and, false_or]

/-- The removal loop lists the channels with more than `f` votes, in the order visited. -/
theorem removeChannels_snd :
    ∀ (defs : ChannelDefinitions) (l : List (ChannelID × Nat)),
      (removeChannels f defs l).2 = (l.filter fun e => f < e.2).map Prod.fst
  | _, [] => rfl
  | defs, e :: l => by
    by_cases hv : (e.2 : Int) ≤ f
    · rw [removeChannels, if_pos hv, removeChannels_snd defs l,
        List.filter_cons_of_neg (by simpa using hv)]
    · rw [removeChannels, if_neg hv, List.filter_cons_of_pos (by simpa using hv), List.map_cons,
        ← removeChannels_snd _ l]

/-- The removal loop lists the channels it removes. -/
theorem mem_removeChannels_removed (defs : ChannelDefinitions) (l : List (ChannelID × Nat)) :
    c ∈ (removeChannels f defs l).2 ↔ ∃ e ∈ l, e.1 = c ∧ f < e.2 := by
  simp only [removeChannels_snd, List.mem_map, List.mem_filter, decide_eq_true_eq]
  exact exists_congr fun e => ⟨fun ⟨⟨he, hv⟩, hc⟩ => ⟨he, hc, hv⟩, fun ⟨he, hc, hv⟩ => ⟨⟨he, hv⟩, hc⟩⟩

end Removal

/-! ### The addition loop -/

section Addition

variable {f : Int} {votes : GoMap ChannelHash Nat} {c : ChannelID} {d : ChannelDefinition}

/-- One iteration of the addition loop leaves the map, or inserts a channel it lacks, with
more than `f` votes, into a map of at most `MAX_OUTCOME_CHANNEL_DEFINITIONS_LENGTH` channels. -/
theorem addChannel_cases (defs : ChannelDefinitions) (e : ChannelHash × ChannelDefinitionWithID) :
    addChannel f votes defs e = defs ∨
      (f < votes.findD e.1 0 ∧ e.2.channelID ∉ defs ∧
        defs.size ≤ maxOutcomeChannelDefinitionsLength ∧
        addChannel f votes defs e = defs.insert e.2.channelID e.2.channelDefinition) := by
  unfold addChannel
  split_ifs with hv hm hs
  · exact .inl rfl
  · exact .inl rfl
  · exact .inl rfl
  · exact .inr ⟨not_le.1 hv, hm, not_lt.1 hs, rfl⟩

/-- The addition loop never overwrites a channel. -/
theorem addChannels_find?_of_find? :
    ∀ (defs : ChannelDefinitions) (l : List (ChannelHash × ChannelDefinitionWithID)),
      defs.find? c = some d → (addChannels f votes defs l).find? c = some d
  | _, [], hd => hd
  | defs, e :: l, hd => by
    refine addChannels_find?_of_find? (addChannel f votes defs e) l ?_
    rcases addChannel_cases defs e with h | ⟨-, hm, -, h⟩ <;> rw [h]
    · exact hd
    · have hc : c ≠ e.2.channelID := fun h => hm (h ▸ GoMap.mem_iff_isSome.2 (by simp [hd]))
      simp [hc, hd]

/-- A channel after the addition loop was there before, or is a visited candidate with more
than `f` votes. -/
theorem addChannels_find?_cases :
    ∀ (defs : ChannelDefinitions) (l : List (ChannelHash × ChannelDefinitionWithID)),
      (addChannels f votes defs l).find? c = some d →
        defs.find? c = some d ∨ ∃ e ∈ l, f < votes.findD e.1 0 ∧ e.2.channelID = c ∧
          e.2.channelDefinition = d
  | _, [], hd => .inl hd
  | defs, e :: l, hd => by
    rcases addChannels_find?_cases (addChannel f votes defs e) l hd with
      hd | ⟨e', he', hv, hc, hd'⟩
    · rcases addChannel_cases defs e with h | ⟨hv, -, -, h⟩ <;> rw [h] at hd
      · exact .inl hd
      · rw [GoMap.find?_insert] at hd
        split_ifs at hd with hc
        · exact .inr ⟨e, List.mem_cons_self _ _, hv, hc.symm, Option.some.inj hd⟩
        · exact .inl hd
    · exact .inr ⟨e', List.mem_cons_of_mem _ he', hv, hc, hd'⟩

/-- The addition loop grows a map only up to `MAX_OUTCOME_CHANNEL_DEFINITIONS_LENGTH + 1`
channels. -/
theorem addChannels_size_le :
    ∀ (defs : ChannelDefinitions) (l : List (ChannelHash × ChannelDefinitionWithID)),
      (addChannels f votes defs l).size ≤ max defs.size (maxOutcomeChannelDefinitionsLength + 1)
  | defs, [] => le_max_left _ _
  | defs, e :: l => by
    refine (addChannels_size_le (addChannel f votes defs e) l).trans (max_le ?_ (le_max_right _ _))
    rcases addChannel_cases defs e with h | ⟨-, hm, hs, h⟩ <;> rw [h]
    · exact le_max_left _ _
    · rw [GoMap.size_insert, if_neg hm]
      omega

/-- The candidates of channels the map does not define. -/
def freshCandidates (defs : ChannelDefinitions) (l : List (ChannelHash × ChannelDefinitionWithID)) :
    List (ChannelHash × ChannelDefinitionWithID) :=
  l.filter fun e => e.2.channelID ∉ defs

/-- The addition loop never shrinks the map. -/
theorem le_size_addChannels :
    ∀ (defs : ChannelDefinitions) (l : List (ChannelHash × ChannelDefinitionWithID)),
      defs.size ≤ (addChannels f votes defs l).size
  | _, [] => le_rfl
  | defs, e :: l => by
    refine le_trans ?_ (le_size_addChannels (addChannel f votes defs e) l)
    rcases addChannel_cases defs e with h | ⟨-, hm, -, h⟩ <;> rw [h]
    rw [GoMap.size_insert, if_neg hm]
    omega

/-- Looking a channel up past a candidate for a channel the map has: the map's entry wins. -/
theorem or_find?_cons_of_mem {defs : ChannelDefinitions} {e : ChannelHash × ChannelDefinitionWithID}
    (hm : e.2.channelID ∈ defs) (l : List (ChannelHash × ChannelDefinitionWithID)) (c : ChannelID) :
    (defs.find? c).or (((e :: l).find? (·.2.channelID = c)).map (·.2.channelDefinition)) =
      (defs.find? c).or ((l.find? (·.2.channelID = c)).map (·.2.channelDefinition)) := by
  rw [List.find?_cons]
  by_cases hc : e.2.channelID = c
  · obtain ⟨d, hd⟩ := Option.isSome_iff_exists.1 (GoMap.mem_iff_isSome.1 (hc ▸ hm))
    simp [hd]
  · simp [hc]

/-- Looking a channel up after adding a candidate for a new channel. -/
theorem or_find?_cons_of_not_mem {defs : ChannelDefinitions}
    {e : ChannelHash × ChannelDefinitionWithID} (hm : e.2.channelID ∉ defs)
    (l : List (ChannelHash × ChannelDefinitionWithID)) (c : ChannelID) :
    ((defs.insert e.2.channelID e.2.channelDefinition).find? c).or
        ((l.find? (·.2.channelID = c)).map (·.2.channelDefinition)) =
      (defs.find? c).or (((e :: l).find? (·.2.channelID = c)).map (·.2.channelDefinition)) := by
  rw [List.find?_cons, GoMap.find?_insert]
  by_cases hc : e.2.channelID = c
  · subst hc
    have hd : defs.find? e.2.channelID = none := by
      simpa [GoMap.mem_iff_isSome] using hm
    simp [hd]
  · simp [hc, Ne.symm hc]

/-- **The addition loop when everything fits.** If every candidate has more than `f` votes, no
two name the same channel, and the map has room for all candidates of new channels, the loop
adds exactly those. -/
theorem addChannels_of_room :
    ∀ (defs : ChannelDefinitions) (l : List (ChannelHash × ChannelDefinitionWithID)),
      (∀ e ∈ l, f < votes.findD e.1 0) → (l.map (·.2.channelID)).Nodup →
      defs.size + (freshCandidates defs l).length ≤ maxOutcomeChannelDefinitionsLength + 1 →
      (∀ c, (addChannels f votes defs l).find? c =
        (defs.find? c).or ((l.find? (·.2.channelID = c)).map (·.2.channelDefinition))) ∧
      (addChannels f votes defs l).size = defs.size + (freshCandidates defs l).length
  | defs, [], _, _, _ => ⟨fun c => by simp [addChannels], rfl⟩
  | defs, e :: l, hv, hnd, hroom => by
    rw [List.map_cons, List.nodup_cons] at hnd
    have hne : ∀ e' ∈ l, e'.2.channelID ≠ e.2.channelID := fun e' he' h =>
      hnd.1 (h ▸ List.mem_map_of_mem _ he')
    by_cases hm : e.2.channelID ∈ defs
    · have hfresh : freshCandidates defs (e :: l) = freshCandidates defs l := by
        simp [freshCandidates, hm]
      have hstep : addChannel f votes defs e = defs := by simp [addChannel, hm]
      rw [hfresh] at hroom ⊢
      obtain ⟨hfind, hsize⟩ := addChannels_of_room defs l
        (fun e' he' => hv e' (List.mem_cons_of_mem _ he')) hnd.2 hroom
      rw [addChannels, List.foldl_cons, hstep, ← addChannels]
      exact ⟨fun c => (hfind c).trans (or_find?_cons_of_mem hm l c).symm, hsize⟩
    · have hfresh' : freshCandidates (defs.insert e.2.channelID e.2.channelDefinition) l =
          freshCandidates defs l :=
        List.filter_congr fun e' he' => by simp [hne e' he']
      have hfresh : freshCandidates defs (e :: l) = e :: freshCandidates defs l := by
        simp [freshCandidates, hm]
      have hsize₀ : (defs.insert e.2.channelID e.2.channelDefinition).size = defs.size + 1 := by
        rw [GoMap.size_insert, if_neg hm]
      rw [hfresh, List.length_cons] at hroom
      have hstep : addChannel f votes defs e = defs.insert e.2.channelID e.2.channelDefinition := by
        have hs : ¬ defs.size > maxOutcomeChannelDefinitionsLength := by omega
        simp [addChannel, not_le.2 (hv e (List.mem_cons_self _ _)), hm, hs]
      obtain ⟨hfind, hsize⟩ := addChannels_of_room (defs.insert e.2.channelID
        e.2.channelDefinition) l (fun e' he' => hv e' (List.mem_cons_of_mem _ he')) hnd.2
        (by rw [hsize₀, hfresh']; omega)
      rw [addChannels, List.foldl_cons, hstep, ← addChannels, hfresh]
      exact ⟨fun c => (hfind c).trans (or_find?_cons_of_not_mem hm l c),
        by rw [hsize, hsize₀, hfresh', List.length_cons]; omega⟩

/-- **The addition loop adds every candidate or fills the map.** If every candidate has more
than `f` votes, the loop either adds the candidates of every new channel, the first visited for
each, or ends with more than `MAX_OUTCOME_CHANNEL_DEFINITIONS_LENGTH` channels: it only skips a
candidate of a new channel once the map is over the cap. -/
theorem addChannels_or_full :
    ∀ (defs : ChannelDefinitions) (l : List (ChannelHash × ChannelDefinitionWithID)),
      (∀ e ∈ l, f < votes.findD e.1 0) →
      (∀ c, (addChannels f votes defs l).find? c =
        (defs.find? c).or ((l.find? (·.2.channelID = c)).map (·.2.channelDefinition))) ∨
      maxOutcomeChannelDefinitionsLength < (addChannels f votes defs l).size
  | defs, [], _ => .inl fun c => by simp [addChannels]
  | defs, e :: l, hv => by
    have hrest := fun defs' => addChannels_or_full defs' l
      fun e' he' => hv e' (List.mem_cons_of_mem _ he')
    by_cases hfull : maxOutcomeChannelDefinitionsLength < defs.size
    · exact .inr (lt_of_lt_of_le hfull (le_size_addChannels defs (e :: l)))
    rw [addChannels, List.foldl_cons, ← addChannels]
    by_cases hm : e.2.channelID ∈ defs
    · rw [show addChannel f votes defs e = defs by simp [addChannel, hm]]
      exact (hrest defs).imp_left fun h c => (h c).trans (or_find?_cons_of_mem hm l c).symm
    · rw [show addChannel f votes defs e = defs.insert e.2.channelID e.2.channelDefinition by
        simp [addChannel, not_le.2 (hv e (List.mem_cons_self _ _)), hm, hfull]]
      exact (hrest _).imp_left fun h c => (h c).trans (or_find?_cons_of_not_mem hm l c)

end Addition

/-! ### The `ValidAfterSeconds` loops -/

/-- The loop over the previous `ValidAfterSeconds`, in any order, channel by channel. -/
theorem carryValidAfterSeconds_find? (isReportable : ChannelID → Except String Unit)
    (ts : UInt32) {m : GoMap ChannelID UInt32} {l : List (ChannelID × UInt32)}
    (hl : l.Perm m.toList) (c : ChannelID) :
    (carryValidAfterSeconds isReportable ts l).find? c =
      (m.find? c).map (carriedValue isReportable ts c) :=
  GoMap.find?_foldl_insert_of_perm hl _ c

section ValidAfterSeconds

variable (c : ChannelID)

/-- The loop over the new channels adds an entry for each visited channel. -/
theorem mem_addNewChannels (ts : UInt32) :
    ∀ (vas : GoMap ChannelID UInt32) (ids : List ChannelID),
      c ∈ addNewChannels ts vas ids ↔ c ∈ vas ∨ c ∈ ids
  | vas, [] => by simp [addNewChannels]
  | vas, i :: ids => by
    -- one iteration adds `i` when it is missing
    have hstep : c ∈ (if i ∈ vas then vas else vas.insert i ts) ↔ c = i ∨ c ∈ vas := by
      split_ifs with hi
      · exact ⟨.inr, fun h => h.elim (· ▸ hi) id⟩
      · exact GoMap.mem_insert
    rw [addNewChannels, List.foldl_cons, ← addNewChannels, mem_addNewChannels ts _ ids, hstep,
      List.mem_cons, or_assoc, or_left_comm]

/-- Deleting the removed channels, one after the other. -/
theorem mem_foldl_erase :
    ∀ (vas : GoMap ChannelID UInt32) (removed : List ChannelID),
      c ∈ removed.foldl GoMap.erase vas ↔ c ∉ removed ∧ c ∈ vas
  | vas, [] => by simp
  | vas, r :: removed => by
    rw [List.foldl_cons, mem_foldl_erase _ removed, GoMap.mem_erase, List.mem_cons, not_or,
      and_assoc, and_left_comm]

/-- The loop over the new channels keeps the entries there were. -/
theorem find?_addNewChannels_of_mem (ts : UInt32) :
    ∀ {vas : GoMap ChannelID UInt32} (ids : List ChannelID), c ∈ vas →
      (addNewChannels ts vas ids).find? c = vas.find? c
  | _, [], _ => rfl
  | vas, i :: ids, hc => by
    rw [addNewChannels, List.foldl_cons, ← addNewChannels]
    split_ifs with hi
    · exact find?_addNewChannels_of_mem ts ids hc
    · have hne : c ≠ i := fun h => hi (h ▸ hc)
      rw [find?_addNewChannels_of_mem ts ids (GoMap.mem_insert.2 (.inr hc)), GoMap.find?_insert,
        if_neg hne]

/-- Deleting the removed channels leaves the others. -/
theorem find?_foldl_erase_of_not_mem {removed : List ChannelID} (hc : c ∉ removed) :
    ∀ vas : GoMap ChannelID UInt32, (removed.foldl GoMap.erase vas).find? c = vas.find? c := by
  induction removed with
  | nil => exact fun _ => rfl
  | cons r removed ih =>
    intro vas
    rw [List.mem_cons, not_or] at hc
    rw [List.foldl_cons, ih hc.2, GoMap.find?_erase, if_neg hc.1]

/-- After the last two loops, a channel has an entry exactly when it was not removed and had
one before or has a definition. -/
theorem mem_finishValidAfterSeconds (ord : OutcomeOrders) (ts : UInt32)
    (vas : GoMap ChannelID UInt32) (defs : ChannelDefinitions) (removed : List ChannelID) :
    c ∈ finishValidAfterSeconds ord ts vas defs removed ↔ c ∉ removed ∧ (c ∈ vas ∨ c ∈ defs) := by
  rw [finishValidAfterSeconds, mem_foldl_erase, mem_addNewChannels,
    (ord.channelDefinitions.perm _).mem_iff, ← GoMap.mem_iff_mem_keys]

end ValidAfterSeconds

/-! ### Votes of the accepted observations -/

/-- `MakeChannelHash` tells apart the definitions that the observations `acc` propose. -/
def HashesDistinct (p : LLOPlugin) (acc : List Observation) : Prop :=
  ∀ o₁ ∈ acc, ∀ o₂ ∈ acc, ∀ e₁ ∈ o₁.addChannelDefinitions.toList,
    ∀ e₂ ∈ o₂.addChannelDefinitions.toList,
      p.makeChannelHash ⟨e₁.2, e₁.1⟩ = p.makeChannelHash ⟨e₂.2, e₂.1⟩ → e₁ = e₂

section Votes

variable {p : LLOPlugin} {ord : OutcomeOrders} {f : Int} {c : ChannelID} {d : ChannelDefinition}

/-- A channel the removal loop visits with more than `f` votes has more than `f` votes in the
map it ranges over. -/
theorem lt_findD_of_vote {m : GoMap ChannelID Nat} {l : List (ChannelID × Nat)}
    (hl : l.Perm m.toList) (h : ∃ e ∈ l, e.1 = c ∧ f < e.2) : f < m.findD c 0 := by
  obtain ⟨⟨c', n⟩, he, rfl, hv⟩ := h
  rwa [GoMap.findD_eq, GoMap.mem_toList_iff.1 (hl.subset he)]

theorem removeVotes_eq_countP (acc : List Observation) :
    (acc.foldl (p.countObservation ord) Tally.init).removeChannelVotesByID.findD c 0 =
      acc.countP fun o => c ∈ o.removeChannelIDs := by
  rw [foldl_countObservation_removeVotes]
  exact Nat.zero_add _

theorem sum_map_eq_countP {α : Type} {g : α → Nat} {q : α → Prop} [DecidablePred q] :
    ∀ {l : List α}, (∀ a ∈ l, g a = if q a then 1 else 0) → (l.map g).sum = l.countP fun a => q a
  | [], _ => rfl
  | a :: l, h => by
    rw [List.map_cons, List.sum_cons, List.countP_cons, h a (List.mem_cons_self _ _),
      sum_map_eq_countP fun b hb => h b (List.mem_cons_of_mem _ hb), Nat.add_comm]
    simp

/-- Without hash collisions, the votes for the hash of a proposed definition are the
observations proposing exactly that definition. -/
theorem addVotes_eq_countP {acc : List Observation} (hd : HashesDistinct p acc)
    {o₀ : Observation} (ho : o₀ ∈ acc) (hc : o₀.addChannelDefinitions.find? c = some d) :
    (acc.map fun o => o.addChannelDefinitions.toList.countP fun e =>
        p.makeChannelHash ⟨e.2, e.1⟩ = p.makeChannelHash ⟨d, c⟩).sum =
      acc.countP fun o => o.addChannelDefinitions.find? c = some d := by
  have hm₀ : (c, d) ∈ o₀.addChannelDefinitions.toList := GoMap.mem_toList_iff.2 hc
  refine sum_map_eq_countP fun o ho' => ?_
  rw [List.countP_congr (q := fun e => decide (e = (c, d))) fun e he =>
    ⟨fun hh => by simpa using hd o ho' o₀ ho e he (c, d) hm₀ (by simpa using hh),
      fun he' => by simp only [decide_eq_true_eq] at he'; simp [he']⟩]
  have hcount := List.count_eq_of_nodup (a := (c, d)) (GoMap.toList_nodup o.addChannelDefinitions)
  simpa only [List.count_eq_countP, beq_iff_eq, GoMap.mem_toList_iff] using hcount

/-! ### Unanimous votes -/

/-- The observations all propose the definitions of `S`, as correct oracles that expect the
same channels do. -/
def Proposes (S : ChannelDefinitions) (acc : List Observation) : Prop :=
  ∀ o ∈ acc, o.addChannelDefinitions = S

/-- The observations all list the channels of `R` for removal and propose the definitions of
`S`. -/
def Unanimous (R : GoMap ChannelID Unit) (S : ChannelDefinitions) (acc : List Observation) :
    Prop :=
  ∀ o ∈ acc, o.removeChannelIDs = R ∧ o.addChannelDefinitions = S

/-- `MakeChannelHash` tells apart the definitions of `S`. -/
def HashInjective (p : LLOPlugin) (S : ChannelDefinitions) : Prop :=
  ∀ e₁ ∈ S.toList, ∀ e₂ ∈ S.toList,
    p.makeChannelHash ⟨e₁.2, e₁.1⟩ = p.makeChannelHash ⟨e₂.2, e₂.1⟩ → e₁ = e₂

theorem hashInjective_singleton (p : LLOPlugin) (c : ChannelID) (d : ChannelDefinition) :
    HashInjective p ((∅ : ChannelDefinitions).insert c d) := fun _ h₁ _ h₂ _ => by
  rw [List.mem_singleton.1 h₁, List.mem_singleton.1 h₂]

namespace Unanimous

variable (p ord) {R : GoMap ChannelID Unit} {S : ChannelDefinitions} {acc : List Observation}

theorem proposes (h : Unanimous R S acc) : Proposes S acc := fun o ho => (h o ho).2

/-- Unanimous removal votes: every observation's vote, or none. -/
theorem removeVotes (h : Unanimous R S acc) (c : ChannelID) :
    (acc.foldl (p.countObservation ord) Tally.init).removeChannelVotesByID.findD c 0 =
      if c ∈ R then acc.length else 0 := by
  rw [removeVotes_eq_countP]
  by_cases hc : c ∈ R
  · rw [if_pos hc, List.countP_eq_length]
    exact fun o ho => by simpa [(h o ho).1] using hc
  · rw [if_neg hc, List.countP_eq_zero]
    exact fun o ho => by simpa [(h o ho).1] using hc

end Unanimous

namespace Proposes

variable (p ord) {S : ChannelDefinitions} {acc : List Observation}

theorem hashesDistinct (h : Proposes S acc) (hinj : HashInjective p S) :
    HashesDistinct p acc := fun o₁ h₁ o₂ h₂ e₁ he₁ e₂ he₂ =>
  hinj e₁ (h o₁ h₁ ▸ he₁) e₂ (h o₂ h₂ ▸ he₂)

/-- Every definition of `S` gets every observation's vote. -/
theorem addVotes (h : Proposes S acc) (hinj : HashInjective p S) (hne : acc ≠ [])
    (hcd : S.find? c = some d) :
    (acc.foldl (p.countObservation ord) Tally.init).addChannelVotesByHash.findD
      (p.makeChannelHash ⟨d, c⟩) 0 = acc.length := by
  obtain ⟨o₀, ho₀⟩ := List.exists_mem_of_ne_nil acc hne
  rw [foldl_countObservation_addVotes, addVotes_eq_countP (h.hashesDistinct p hinj) ho₀
    (h o₀ ho₀ ▸ hcd), List.countP_eq_length.2 fun o ho => by simp [h o ho, hcd]]
  exact Nat.zero_add _

/-- An entry filed under hash `k` is a definition of `S` with hash `k`. -/
theorem filed (h : Proposes S acc) {k : ChannelHash} {w : ChannelDefinitionWithID}
    (hw : (acc.foldl (p.countObservation ord) Tally.init).addChannelDefinitionsByHash.find? k =
      some w) :
    p.makeChannelHash w = k ∧ S.find? w.channelID = some w.channelDefinition := by
  rcases foldl_countObservation_addDefinition p ord acc Tally.init hw with h₀ | ⟨hk, o, ho, hf⟩
  · simp [Tally.init] at h₀
  · exact ⟨hk, h o ho ▸ hf⟩

/-- Every candidate of the addition loop has every observation's vote. -/
theorem candidates_votes (h : Proposes S acc) (hinj : HashInjective p S) (hne : acc ≠ [])
    {e : ChannelHash × ChannelDefinitionWithID}
    (he : e ∈ ord.addChannelDefinitionsByHash.order
      (acc.foldl (p.countObservation ord) Tally.init).addChannelDefinitionsByHash.toList) :
    (acc.foldl (p.countObservation ord) Tally.init).addChannelVotesByHash.findD e.1 0 =
      acc.length := by
  obtain ⟨hk, hS⟩ :=
    h.filed p ord (GoMap.mem_toList_iff.1 ((ord.addChannelDefinitionsByHash.perm _).subset he))
  rw [← hk]
  exact h.addVotes p ord hinj hne hS

/-- The addition loop's candidates are the definitions of `S`, each once. -/
theorem candidates_perm (h : Proposes S acc) (hinj : HashInjective p S) (hne : acc ≠ []) :
    ((ord.addChannelDefinitionsByHash.order
        (acc.foldl (p.countObservation ord) Tally.init).addChannelDefinitionsByHash.toList).map
      fun e => (e.2.channelID, e.2.channelDefinition)).Perm S.toList := by
  set T := acc.foldl (p.countObservation ord) Tally.init
  have hperm := ord.addChannelDefinitionsByHash.perm T.addChannelDefinitionsByHash.toList
  refine (List.perm_ext_iff_of_nodup ?_ (GoMap.toList_nodup _)).2 fun x => ⟨fun hx => ?_, fun hx => ?_⟩
  · refine (List.Nodup.map_on (fun x hx y hy hxy => ?_) (hperm.nodup_iff.2 (GoMap.toList_nodup _)))
    have hx' := h.filed p ord (GoMap.mem_toList_iff.1 (hperm.subset hx))
    have hy' := h.filed p ord (GoMap.mem_toList_iff.1 (hperm.subset hy))
    have hw : x.2 = y.2 := by
      obtain ⟨k, ⟨d, c⟩⟩ := x
      obtain ⟨k', ⟨d', c'⟩⟩ := y
      simp only [Prod.mk.injEq] at hxy
      simp [hxy]
    exact Prod.ext (hx'.1.symm.trans (hw ▸ hy'.1)) hw
  · obtain ⟨⟨k, w⟩, hm, rfl⟩ := List.mem_map.1 hx
    exact GoMap.mem_toList_iff.2 (h.filed p ord (GoMap.mem_toList_iff.1 (hperm.subset hm))).2
  · obtain ⟨o₀, ho₀⟩ := List.exists_mem_of_ne_nil acc hne
    have hk : p.makeChannelHash ⟨x.2, x.1⟩ ∈ T.addChannelDefinitionsByHash :=
      (mem_foldl_countObservation_addDefinitions p ord _ acc Tally.init).2
        (.inr ⟨o₀, ho₀, x, h o₀ ho₀ ▸ hx, rfl⟩)
    obtain ⟨w, hw⟩ := Option.isSome_iff_exists.1 (GoMap.mem_iff_isSome.1 hk)
    obtain ⟨hwk, hwS⟩ := h.filed p ord hw
    have hwx : (w.channelID, w.channelDefinition) = x :=
      hinj _ (GoMap.mem_toList_iff.2 hwS) x hx hwk
    exact List.mem_map.2 ⟨_, hperm.symm.subset (GoMap.mem_toList_iff.2 hw), hwx⟩

/-- With a single definition proposed, the addition loop visits exactly that candidate, with
every observation's vote. -/
theorem single_candidate (h : Proposes ((∅ : ChannelDefinitions).insert c d) acc)
    (hne : acc ≠ []) :
    ∃ e, ord.addChannelDefinitionsByHash.order
        (acc.foldl (p.countObservation ord) Tally.init).addChannelDefinitionsByHash.toList = [e] ∧
      e.2.channelID = c ∧ e.2.channelDefinition = d ∧
      (acc.foldl (p.countObservation ord) Tally.init).addChannelVotesByHash.findD e.1 0 =
        acc.length := by
  have hperm := h.candidates_perm p ord (hashInjective_singleton p c d) hne
  rw [show ((∅ : ChannelDefinitions).insert c d).toList = [(c, d)] from rfl,
    List.perm_singleton, List.map_eq_cons_iff] at hperm
  obtain ⟨e, l, hl, he, hnil⟩ := hperm
  rw [List.map_eq_nil_iff] at hnil
  subst hnil
  simp only [Prod.mk.injEq] at he
  exact ⟨e, hl, he.1, he.2, h.candidates_votes p ord (hashInjective_singleton p c d) hne
    (hl ▸ List.mem_singleton_self e)⟩

end Proposes

/-- A channel the removal loop does not visit with more than `f` votes keeps its definition
through both loops. -/
theorem removal_voted {votes : GoMap ChannelID Nat} {l : List (ChannelID × Nat)}
    (hl : l.Perm votes.toList) {addVotes : GoMap ChannelHash Nat}
    {candidates : List (ChannelHash × ChannelDefinitionWithID)} {defs : ChannelDefinitions}
    (hd : defs.find? c = some d)
    (hne : (addChannels f addVotes (removeChannels f defs l).1 candidates).find? c ≠ some d) :
    f < votes.findD c 0 := by
  refine lt_findD_of_vote hl (by_contra fun hno => hne (addChannels_find?_of_find? _ _ ?_))
  rw [removeChannels_find?, if_neg hno, hd]

/-- A definition the addition loop installs has more than `f` votes from the observations
proposing exactly it, when no two proposed definitions share a hash. -/
theorem addition_voted {acc : List Observation} (hd : HashesDistinct p acc)
    {defs : ChannelDefinitions} {l : List (ChannelID × Nat)}
    (hc : (addChannels p.f (acc.foldl (p.countObservation ord) Tally.init).addChannelVotesByHash
      (removeChannels p.f defs l).1 (ord.addChannelDefinitionsByHash.order
        (acc.foldl (p.countObservation ord) Tally.init).addChannelDefinitionsByHash.toList)).find? c
      = some d)
    (hne : defs.find? c ≠ some d) :
    p.f < acc.countP fun o => o.addChannelDefinitions.find? c = some d := by
  rcases addChannels_find?_cases _ _ hc with hr | ⟨⟨h, ⟨d', c'⟩⟩, he, hv, rfl, rfl⟩
  · rw [removeChannels_find?] at hr
    split_ifs at hr
    exact absurd hr hne
  · have hdef := GoMap.mem_toList_iff.1 ((ord.addChannelDefinitionsByHash.perm _).subset he)
    rcases foldl_countObservation_addDefinition p ord acc Tally.init hdef with h₀ | ⟨rfl, o₀, ho, hf⟩
    · simp [Tally.init] at h₀
    · rw [foldl_countObservation_addVotes, addVotes_eq_countP (c := c') (d := d') hd ho hf] at hv
      simpa [Tally.init, GoMap.findD_eq] using hv

/-- The edit of a retired outcome: nothing is removed or added. -/
theorem editChannelDefinitions_retired (prev : Outcome) (t : Tally) :
    p.editChannelDefinitions ord prev t lifeCycleStageRetired = (prev.channelDefinitions, []) := by
  simp [LLOPlugin.editChannelDefinitions, removeChannels, addChannels]

theorem editChannelDefinitions_of_ne_retired {prev : Outcome} {t : Tally}
    {stage : LLOLifeCycleStage} (h : stage ≠ lifeCycleStageRetired) :
    p.editChannelDefinitions ord prev t stage =
      let removed := removeChannels p.f prev.channelDefinitions
        (ord.removeChannelVotesByID.order t.removeChannelVotesByID.toList)
      (addChannels p.f t.addChannelVotesByHash removed.1
        (ord.addChannelDefinitionsByHash.order t.addChannelDefinitionsByHash.toList), removed.2) := by
  simp [LLOPlugin.editChannelDefinitions, h]

end Votes

/-! ### What a step does to the channel definitions -/

section Step

variable {p : LLOPlugin} {ord : OutcomeOrders}

/-- **Channel definitions change only by vote.** A step to a retired outcome keeps the previous
channel definitions. Otherwise every channel whose definition the step drops or changes was
listed for removal by more than `f` of the observations the step accepts, and every definition
it installs was proposed, exactly, by more than `f` of them, when `MakeChannelHash` tells apart
the definitions they propose. -/
theorem channelDefinitions_voted {seqNr : Nat} {prev o' : Outcome}
    {aos : List (Payload Observation)} (hs : 1 < seqNr)
    (h : p.outcome ord ⟨seqNr, .encoded prev⟩ aos = .ok o') :
    ∃ k acc, p.screenObservations none aos = .ok (k, acc) ∧
      (o'.lifeCycleStage = lifeCycleStageRetired →
        o'.channelDefinitions = prev.channelDefinitions) ∧
      (o'.lifeCycleStage ≠ lifeCycleStageRetired →
        (∀ c d, prev.channelDefinitions.find? c = some d → o'.channelDefinitions.find? c ≠ some d →
          p.f < acc.countP fun o => c ∈ o.removeChannelIDs) ∧
        (HashesDistinct p acc → ∀ c d, o'.channelDefinitions.find? c = some d →
          prev.channelDefinitions.find? c ≠ some d →
            p.f < acc.countP fun o => o.addChannelDefinitions.find? c = some d)) := by
  obtain ⟨t, ht, hstep⟩ := outcomeStep_eq_ok (outcome_eq_outcomeStep hs h)
  obtain ⟨k, acc, hscreen, rfl⟩ := tally_eq ht
  rw [hstep.channelDefinitions]
  refine ⟨k, acc, hscreen, fun hr => by rw [hr, editChannelDefinitions_retired], fun hr => ?_⟩
  rw [editChannelDefinitions_of_ne_retired hr]
  refine ⟨fun c d hd hne => ?_, fun hd c d hc hne => addition_voted hd hc hne⟩
  simpa only [removeVotes_eq_countP] using removal_voted (ord.removeChannelVotesByID.perm _) hd hne

/-- An observation listing channel 5 for removal and proposing a definition for it. -/
def reAddChannel : Observation :=
  ⟨[], false, 1000000000, (∅ : GoMap ChannelID Unit).insert 5 (),
    (∅ : ChannelDefinitions).insert 5 ⟨reportFormatJSON, knownSelector, [7]⟩, ∅⟩

theorem channelDefinitions_voted_reAdd :
    ∃ o', (runPlugin 0 none rejectAll).outcome .ascending
        ⟨2, .encoded (runPlugin 0 none rejectAll).initialOutcome⟩ [.encoded reAddChannel] = .ok o' ∧
      ∃ k acc, (runPlugin 0 none rejectAll).screenObservations none [.encoded reAddChannel] =
          .ok (k, acc) ∧
        (o'.lifeCycleStage = lifeCycleStageRetired →
          o'.channelDefinitions = (runPlugin 0 none rejectAll).initialOutcome.channelDefinitions) ∧
        (o'.lifeCycleStage ≠ lifeCycleStageRetired →
          (∀ c d, (runPlugin 0 none rejectAll).initialOutcome.channelDefinitions.find? c = some d →
            o'.channelDefinitions.find? c ≠ some d →
              (runPlugin 0 none rejectAll).f < acc.countP fun o => c ∈ o.removeChannelIDs) ∧
          (HashesDistinct (runPlugin 0 none rejectAll) acc → ∀ c d,
            o'.channelDefinitions.find? c = some d →
            (runPlugin 0 none rejectAll).initialOutcome.channelDefinitions.find? c ≠ some d →
              (runPlugin 0 none rejectAll).f <
                acc.countP fun o => o.addChannelDefinitions.find? c = some d)) :=
  ⟨_, rfl, @channelDefinitions_voted (runPlugin 0 none rejectAll) .ascending 2
    (runPlugin 0 none rejectAll).initialOutcome _ [.encoded reAddChannel] (by decide) rfl⟩

/-- **Defined channels have a `ValidAfterSeconds` entry**, except a channel that more than `f`
of the observations accepted by a non-retiring step listed for removal: that step drops the
channel's entry even when it adds the channel again. -/
theorem validAfterSeconds_of_channelDefinitions {seqNr : Nat} {prev o' : Outcome}
    {aos : List (Payload Observation)} (hs : 1 < seqNr)
    (h : p.outcome ord ⟨seqNr, .encoded prev⟩ aos = .ok o') (c : ChannelID)
    (hc : c ∈ o'.channelDefinitions) :
    c ∈ o'.validAfterSeconds ∨
      (o'.lifeCycleStage ≠ lifeCycleStageRetired ∧ ∃ k acc,
        p.screenObservations none aos = .ok (k, acc) ∧
          p.f < acc.countP fun o => c ∈ o.removeChannelIDs) := by
  obtain ⟨t, ht, hstep⟩ := outcomeStep_eq_ok (outcome_eq_outcomeStep hs h)
  obtain ⟨k, acc, hscreen, rfl⟩ := tally_eq ht
  obtain ⟨vas, ts, -, -, hvas⟩ := hstep.validAfterSeconds
  rw [hstep.channelDefinitions] at hc
  rw [hvas, mem_finishValidAfterSeconds]
  by_cases hrem : c ∈ (p.editChannelDefinitions ord prev
    { acc.foldl (p.countObservation ord) Tally.init with validPredecessorRetirementReport := k }
    o'.lifeCycleStage).2
  · by_cases hr : o'.lifeCycleStage = lifeCycleStageRetired
    · rw [hr, editChannelDefinitions_retired] at hrem
      simp at hrem
    · rw [editChannelDefinitions_of_ne_retired hr, mem_removeChannels_removed] at hrem
      refine .inr ⟨hr, k, acc, hscreen, ?_⟩
      simpa only [removeVotes_eq_countP] using
        lt_findD_of_vote (ord.removeChannelVotesByID.perm _) hrem
  · exact .inl ⟨hrem, .inr hc⟩

theorem validAfterSeconds_of_channelDefinitions_reAdd :
    ∃ o', (runPlugin 0 none rejectAll).outcome .ascending
        ⟨2, .encoded (runPlugin 0 none rejectAll).initialOutcome⟩ [.encoded reAddChannel] = .ok o' ∧
      (5 ∈ o'.channelDefinitions → 5 ∈ o'.validAfterSeconds ∨
        (o'.lifeCycleStage ≠ lifeCycleStageRetired ∧ ∃ k acc,
          (runPlugin 0 none rejectAll).screenObservations none [.encoded reAddChannel] =
            .ok (k, acc) ∧
          (runPlugin 0 none rejectAll).f < acc.countP fun o => 5 ∈ o.removeChannelIDs)) :=
  ⟨_, rfl, @validAfterSeconds_of_channelDefinitions (runPlugin 0 none rejectAll) .ascending 2
    (runPlugin 0 none rejectAll).initialOutcome _ [.encoded reAddChannel] (by decide) rfl 5⟩

/-- The channel that the first step of an instance removes and adds again has a definition
but no `ValidAfterSeconds` entry. -/
theorem reAddedChannel_lacks_validAfterSeconds :
    ∃ o', (runPlugin 0 none rejectAll).outcome .ascending
        ⟨2, .encoded (runPlugin 0 none rejectAll).initialOutcome⟩ [.encoded reAddChannel] = .ok o' ∧
      5 ∈ o'.channelDefinitions ∧ 5 ∉ o'.validAfterSeconds :=
  ⟨_, rfl, by decide, by decide⟩

/-- Observations that carry no attested retirement report, no retire vote and no stream value,
all at the same second. -/
def Quiet (acc : List Observation) : Prop :=
  ∀ o ∈ acc, o.attestedPredecessorRetirement = [] ∧ o.shouldRetire = false ∧
    o.unixTimestampNanoseconds = 1000000000 ∧ o.streamValues = ∅

/-- **A quiet round succeeds** from every outcome whose timestamp fits, at 1 s. -/
theorem quiet_ok {seqNr : Nat} {prev : Outcome} {s : UInt32} {acc : List Observation}
    (hs : 1 < seqNr) (hts : prev.observationsTimestampSeconds = .ok s)
    (hl : 2 * p.f + 1 ≤ acc.length) (hacc : acc ≠ []) (hq : Quiet acc) :
    ∃ o', p.outcome ord ⟨seqNr, .encoded prev⟩ (acc.map .encoded) = .ok o' ∧
      StepOf p ord prev { acc.foldl (p.countObservation ord) Tally.init with
        validPredecessorRetirementReport := none } o' ∧
      o'.observationsTimestampSeconds = .ok 1 := by
  set T := acc.foldl (p.countObservation ord) Tally.init
  have htally : (acc.map .encoded).foldlM (p.tallyObservation ord) Tally.init =
      .ok { T with validPredecessorRetirementReport := none } := by
    rw [foldlM_tallyObservation, show Tally.init.validPredecessorRetirementReport = none from rfl,
      screenObservations_unattested p none acc fun o ho => (hq o ho).1]
    rfl
  have htimestamps : T.timestampsNanoseconds = acc.map (·.unixTimestampNanoseconds) := by
    simp [T, foldl_countObservation_timestampsNanoseconds, Tally.init]
  have hts₁ : ∀ ns ∈ T.timestampsNanoseconds, ns = 1000000000 := fun ns hns => by
    obtain ⟨o, ho, rfl⟩ := List.mem_map.1 (htimestamps ▸ hns)
    exact (hq o ho).2.2.1
  obtain ⟨o', ho', hstep⟩ := outcomeStep_ok htally
    (by simp [htimestamps, hacc])
    (fun ns hns => ⟨1, by rw [hts₁ ns hns]; rfl⟩)
    (baseValidAfterSeconds_ok hts _ _)
    ⟨∅, by
      rw [show T.streamObservations = ∅ from foldl_countObservation_streamObservations_of_empty
        p ord acc Tally.init fun o ho => (hq o ho).2.2.2, GoMap.toList_empty, RangeOrder.order_nil]
      rfl⟩
  refine ⟨o', (outcome_step (by rwa [List.length_map]) hs).trans ho', hstep, ?_⟩
  obtain ⟨ns, hns, hmed⟩ := medianTimestamp_ok hstep.timestamps_ne_nil
  rw [Outcome.observationsTimestampSeconds,
    ← GoResult.ok.inj (hmed.symm.trans hstep.medianTimestamp_eq), hts₁ ns hns]
  rfl

/-- **A quiet step.** From a production outcome whose timestamp fits, a quorum of quiet
observations makes a step that succeeds, stays in production at 1 s, and edits the channel
definitions by the observations' votes. -/
theorem quiet_step {seqNr : Nat} {prev : Outcome} {s : UInt32} {acc : List Observation}
    (hf : 0 ≤ p.f) (hs : 1 < seqNr) (hstage : prev.lifeCycleStage = lifeCycleStageProduction)
    (hts : prev.observationsTimestampSeconds = .ok s) (hl : 2 * p.f + 1 ≤ acc.length)
    (hq : Quiet acc) :
    ∃ o', p.outcome ord ⟨seqNr, .encoded prev⟩ (acc.map .encoded) = .ok o' ∧
      o'.lifeCycleStage = lifeCycleStageProduction ∧ o'.observationsTimestampSeconds = .ok 1 ∧
      o'.channelDefinitions = (p.editChannelDefinitions ord prev
        { acc.foldl (p.countObservation ord) Tally.init with validPredecessorRetirementReport := none }
        lifeCycleStageProduction).1 := by
  have hacc : acc ≠ [] := fun h => by subst h; simp at hl; omega
  obtain ⟨o', ho', hstep, hts'⟩ := @quiet_ok p ord _ _ _ _ hs hts hl hacc hq
  have hstage' : o'.lifeCycleStage = lifeCycleStageProduction := by
    have h0 : acc.countP (·.shouldRetire) = 0 :=
      List.countP_eq_zero.2 fun o ho => by simp [(hq o ho).2.1]
    have hretire : (acc.foldl (p.countObservation ord) Tally.init).shouldRetireVotes = 0 := by
      simp only [foldl_countObservation_shouldRetireVotes, h0]
      rfl
    rw [hstep.lifeCycleStage_eq, hstage]
    simp [nextLifeCycleStage, hretire, not_lt.2 hf]
  exact ⟨o', ho', hstage', hts', by rw [hstep.channelDefinitions, hstage']⟩

/-- The observation at 1 s that proposes `d` for channel `c` and nothing else. -/
def proposalObservation (c : ChannelID) (d : ChannelDefinition) : Observation :=
  ⟨[], false, 1000000000, ∅, (∅ : ChannelDefinitions).insert c d, ∅⟩

/-- A round in which a quorum of `2f+1` oracles observe `proposalObservation c d`. -/
def proposalRound (f : Int) (c : ChannelID) (d : ChannelDefinition) : List (Payload Observation) :=
  (List.replicate (2 * f.toNat + 1) (proposalObservation c d)).map .encoded

theorem length_proposalRound {f : Int} (hf : 0 ≤ f) (c : ChannelID) (d : ChannelDefinition) :
    2 * f + 1 ≤ (proposalRound f c d).length := by
  simp only [proposalRound, List.length_map, List.length_replicate]
  omega

/-- **A proposal round** adds the proposed channel to a production outcome that lacks it and
has room for it. -/
theorem proposal_step {prev : Outcome} {c : ChannelID} {d : ChannelDefinition} {seqNr : Nat}
    {s : UInt32} (hf : 0 ≤ p.f) (hs : 1 < seqNr)
    (hstage : prev.lifeCycleStage = lifeCycleStageProduction)
    (hts : prev.observationsTimestampSeconds = .ok s) (hc : c ∉ prev.channelDefinitions)
    (hsize : prev.channelDefinitions.size ≤ maxOutcomeChannelDefinitionsLength) :
    ∃ o', p.outcome ord ⟨seqNr, .encoded prev⟩ (proposalRound p.f c d) = .ok o' ∧
      o'.lifeCycleStage = lifeCycleStageProduction ∧
      o'.observationsTimestampSeconds = .ok 1 ∧
      o'.channelDefinitions = prev.channelDefinitions.insert c d := by
  set acc := List.replicate (2 * p.f.toNat + 1) (proposalObservation c d)
  set T := acc.foldl (p.countObservation ord) Tally.init
  have hmem : ∀ o ∈ acc, o = proposalObservation c d := fun o ho => List.eq_of_mem_replicate ho
  have hacc : acc ≠ [] := by simp [acc]
  obtain ⟨o', hstep, hstage', hts', hdefs⟩ := @quiet_step p ord _ _ _ acc hf hs hstage hts
    (by simp only [acc, List.length_replicate]; omega)
    (fun o ho => by rw [hmem o ho]; exact ⟨rfl, rfl, rfl, rfl⟩)
  refine ⟨o', hstep, hstage', hts', ?_⟩
  have hunan : Unanimous ∅ ((∅ : ChannelDefinitions).insert c d) acc := fun o ho => by
    rw [hmem o ho]
    exact ⟨rfl, rfl⟩
  have hremoved : (removeChannels p.f prev.channelDefinitions
      (ord.removeChannelVotesByID.order T.removeChannelVotesByID.toList)).1 =
      prev.channelDefinitions := GoMap.ext fun c => by
    rw [removeChannels_find?, if_neg]
    rintro ⟨e, he, -, hv⟩
    have h0 := hunan.removeVotes p ord e.1
    rw [GoMap.findD_eq, GoMap.mem_toList_iff.1 ((ord.removeChannelVotesByID.perm _).subset he)]
      at h0
    simp only [GoMap.not_mem_empty, if_false, Option.getD_some] at h0
    omega
  obtain ⟨e, hl, hec, hed, hv⟩ := hunan.proposes.single_candidate p ord hacc
  have hvotes : ¬ ((T.addChannelVotesByHash.findD e.1 0 : Nat) : Int) ≤ p.f := by
    rw [hv, List.length_replicate]
    omega
  have hroom : ¬ prev.channelDefinitions.size > maxOutcomeChannelDefinitionsLength := by omega
  rw [hdefs, editChannelDefinitions_of_ne_retired retired_ne_production.symm]
  dsimp only
  rw [hremoved, hl, addChannels, List.foldl_cons, List.foldl_nil, addChannel, if_neg hvotes,
    if_neg (hec ▸ hc), if_neg hroom, hec, hed]

end Step

end LloPlugin
