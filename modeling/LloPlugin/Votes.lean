import LloPlugin.Validation

/-!
# The channel votes of correct oracles

`Observation` votes to add the channels its cache expects and the previous outcome lacks, and
to remove the channels of the previous outcome that its cache does not expect, at most five of
each. The additions come from `subtractChannelDefinitions`, which sorts before it cuts: every
oracle that shares the previous outcome and the cache proposes the same channels, the five
lowest IDs. The removals are cut twice. `subtractChannelDefinitions` takes the five lowest
stale channel definitions, and the loop over the previous outcome's `ValidAfterSeconds` then
lists stale entries until it holds five, in the order Go's run time visits that map and with a
`break`. Which entries make it depends on that order, so two correct oracles that share the
previous outcome and the cache can vote to remove different channels.

Call a channel stale when the previous outcome defines it or holds a `ValidAfterSeconds`
entry for it, and the cache does not expect it.

## Main results

* `LloPlugin.channelVotes_spec` — in every iteration order, the removal votes are stale
  channels, five of them or all of them, among them the stale channel definitions of the five
  lowest IDs; the additions are the five lowest expected channels the previous outcome lacks.
* `LloPlugin.removeChannelIDs_depend_on_range_order` — with six stale `ValidAfterSeconds`
  entries and no stale definition, two iteration orders give different removal votes.
-/

set_option autoImplicit false

namespace LloPlugin

section Spec

variable (ord : ObservationOrders) (prev : Outcome) (expected : ChannelDefinitions)

/-- The channels listed before the loop over `ValidAfterSeconds`: the stale definitions
`subtractChannelDefinitions` keeps. -/
theorem mem_removeChannelDefinitions {c : ChannelID} :
    c ∈ (subtractChannelDefinitions ord.removeChannelDefinitions prev.channelDefinitions
        expected maxObservationRemoveChannelIDsLength).mapValues (fun _ _ => ()) ↔
      c ∈ prev.channelDefinitions ∧ c ∉ expected ∧ prev.channelDefinitions.keys.countP
        (fun c' => c' ∉ expected ∧ c' < c) < maxObservationRemoveChannelIDsLength := by
  rw [GoMap.mem_mapValues, mem_subtractChannelDefinitions]

/-- The removal votes are stale channels. -/
theorem stale_of_mem_channelVotes_removals {c : ChannelID}
    (hc : c ∈ (channelVotes ord prev expected).1) :
    (c ∈ prev.channelDefinitions ∨ c ∈ prev.validAfterSeconds) ∧ c ∉ expected := by
  rcases mem_removeStaleChannelIDs_entries expected _ _ hc with h | ⟨he, hl⟩
  · obtain ⟨hd, he, -⟩ := (mem_removeChannelDefinitions ord prev expected).1 h
    exact ⟨.inl hd, he⟩
  · exact ⟨.inr (GoMap.mem_iff_mem_keys.2
      (((ord.previousValidAfterSeconds.perm _).map Prod.fst).mem_iff.1 hl)), he⟩

/-- The removal votes hold five channels, or every stale channel. -/
theorem channelVotes_removals_full_or :
    (channelVotes ord prev expected).1.size = maxObservationRemoveChannelIDsLength ∨
      ∀ c, (c ∈ prev.channelDefinitions ∨ c ∈ prev.validAfterSeconds) → c ∉ expected →
        c ∈ (channelVotes ord prev expected).1 := by
  have hle := channelVotes_removals_le expected ord prev
  set ids := (subtractChannelDefinitions ord.removeChannelDefinitions prev.channelDefinitions
    expected maxObservationRemoveChannelIDsLength).mapValues (fun _ _ => ())
  by_cases hfull : maxObservationRemoveChannelIDsLength ≤ ids.size
  · -- five stale definitions already: the loop stops at once
    left
    exact le_antisymm hle (by rwa [channelVotes, removeStaleChannelIDs_of_full expected hfull])
  -- fewer than five stale definitions: all of them are listed
  have hdefs : prev.channelDefinitions.keys.countP (· ∉ expected) <
      maxObservationRemoveChannelIDsLength := by
    rw [GoMap.size_mapValues, size_subtractChannelDefinitions] at hfull
    omega
  rcases removeStaleChannelIDs_full_or expected ids
    (ord.previousValidAfterSeconds.order prev.validAfterSeconds.toList) with h | h
  · exact .inl (le_antisymm hle h)
  refine .inr fun c hc he => hc.elim (fun hd => ?_) fun hv => ?_
  · refine mem_removeStaleChannelIDs_of_mem expected ids _
      ((mem_removeChannelDefinitions ord prev expected).2 ⟨hd, he, ?_⟩)
    exact lt_of_le_of_lt (List.countP_mono_left fun _ _ h' =>
      decide_eq_true (of_decide_eq_true h').1) hdefs
  · obtain ⟨v, hv⟩ := Option.isSome_iff_exists.1 (GoMap.mem_iff_isSome.1 hv)
    exact h (c, v) ((ord.previousValidAfterSeconds.perm _).mem_iff.2
      (GoMap.mem_toList_iff.2 hv)) he

/-- **What a correct oracle votes on channels, in every iteration order.** It votes to remove
stale channels only, five of them or all of them, and among them every stale channel definition
with fewer than five stale channel definitions below it. It proposes exactly the expected
channels that the previous outcome lacks and that have fewer than five such channels below
them, each with the cache's definition. -/
theorem channelVotes_spec :
    (∀ c ∈ (channelVotes ord prev expected).1,
      (c ∈ prev.channelDefinitions ∨ c ∈ prev.validAfterSeconds) ∧ c ∉ expected) ∧
    ((channelVotes ord prev expected).1.size = maxObservationRemoveChannelIDsLength ∨
      ∀ c, (c ∈ prev.channelDefinitions ∨ c ∈ prev.validAfterSeconds) → c ∉ expected →
        c ∈ (channelVotes ord prev expected).1) ∧
    (∀ c ∈ prev.channelDefinitions, c ∉ expected →
      prev.channelDefinitions.keys.countP (fun c' => c' ∉ expected ∧ c' < c) <
        maxObservationRemoveChannelIDsLength → c ∈ (channelVotes ord prev expected).1) ∧
    ∀ c, (channelVotes ord prev expected).2.find? c =
      if c ∉ prev.channelDefinitions ∧ expected.keys.countP
          (fun c' => c' ∉ prev.channelDefinitions ∧ c' < c) <
            maxObservationAddChannelDefinitionsLength
      then expected.find? c else none :=
  ⟨fun _ => stale_of_mem_channelVotes_removals ord prev expected,
    channelVotes_removals_full_or ord prev expected,
    fun _ hd he hlt => mem_removeStaleChannelIDs_of_mem expected _ _
      ((mem_removeChannelDefinitions ord prev expected).2 ⟨hd, he, hlt⟩),
    find?_subtractChannelDefinitions _ _ _ _⟩

end Spec

/-! ### Two orders, two votes -/

/-- A previous outcome without channel definitions whose `ValidAfterSeconds` still holds
channels 1 to 6. -/
def staleOutcome : Outcome :=
  ⟨lifeCycleStageProduction, 10000000000, none,
    some (GoMap.ofList [(1, 0), (2, 0), (3, 0), (4, 0), (5, 0), (6, 0)]), ∅⟩

/-- **The removal votes depend on the iteration order.** From `staleOutcome`, an oracle whose
cache expects no channel votes to remove channels 1 to 5 when the loop over `ValidAfterSeconds`
starts at channel 1, and channels 2 to 6 when it starts at channel 2. -/
theorem removeChannelIDs_depend_on_range_order {p : LLOPlugin} {env : ObservationEnv}
    (hE : env.definitions = ∅) {o₁ o₂ : Observation}
    (h₁ : p.observation .ascending env ⟨2, .encoded staleOutcome⟩ = .ok (.encoded o₁))
    (h₂ : p.observation ⟨.ascending, .rotate 1, .ascending⟩ env ⟨2, .encoded staleOutcome⟩ =
      .ok (.encoded o₂)) :
    o₁.removeChannelIDs.keys = [1, 2, 3, 4, 5] ∧ o₂.removeChannelIDs.keys = [2, 3, 4, 5, 6] := by
  obtain ⟨-, -, -, -, -, -, rfl⟩ := buildObservation_eq_ok (buildObservation_of_observation
    (by decide) h₁)
  obtain ⟨-, -, -, -, -, -, rfl⟩ := buildObservation_eq_ok (buildObservation_of_observation
    (by decide) h₂)
  rw [hE]
  exact ⟨rfl, rfl⟩

theorem removeChannelIDs_depend_on_range_order_echo :
    ∃ o₁ o₂, (echoEnv ∅).definitions = ∅ ∧
      (runPlugin 0 none rejectAll).observation .ascending (echoEnv ∅)
        ⟨2, .encoded staleOutcome⟩ = .ok (.encoded o₁) ∧
      (runPlugin 0 none rejectAll).observation ⟨.ascending, .rotate 1, .ascending⟩ (echoEnv ∅)
        ⟨2, .encoded staleOutcome⟩ = .ok (.encoded o₂) ∧
      o₁.removeChannelIDs.keys = [1, 2, 3, 4, 5] ∧ o₂.removeChannelIDs.keys = [2, 3, 4, 5, 6] :=
  ⟨_, _, rfl, rfl, rfl,
    @removeChannelIDs_depend_on_range_order (runPlugin 0 none rejectAll) (echoEnv ∅) rfl _ _ rfl
      rfl⟩

end LloPlugin
