import Mathlib.Data.List.Sort
import Mathlib.Data.List.Rotate
import Mathlib.Algebra.Order.Ring.Nat
import Mathlib.Algebra.Order.Ring.Int

/-!
# Go maps

The plugin keeps its state in Go maps (`map[ChannelID]ChannelDefinition`,
`map[ChannelID]uint32`, …) and exchanges them as JSON, which `encoding/json` writes with the
keys in ascending order. A map is modelled by that canonical form: its entries in strictly
ascending key order. Two maps are equal exactly when they hold the same entries
(`LloPlugin.GoMap.ext`), which is exactly when their JSON encodings agree.

What the canonical form leaves open is the order of a `range` statement over a map: Go does
not specify it and randomises it on every run. A `LloPlugin.RangeOrder` is one choice of it,
and every loop of the model visits a map in an order it is handed.

## Main definitions

* `LloPlugin.GoMap` — a map as its ascending entries, with `find?` (`m[k]`), `insert`
  (`m[k] = v`), `erase` (`delete(m, k)`) and `size` (`len(m)`).
* `LloPlugin.RangeOrder` — an order a `range` over a map may take: any permutation.

## Main results

* `LloPlugin.GoMap.ext` — maps with the same lookups are equal.
* `LloPlugin.GoMap.find?_insert`, `LloPlugin.GoMap.find?_erase` — the lookup laws.
* `LloPlugin.GoMap.mem_toList_iff` — an entry is listed exactly when the map holds it.
-/

set_option autoImplicit false

/-- `uint32`, ordered as the numbers it holds: channel and stream IDs are map keys. -/
instance instUInt32LinearOrder : LinearOrder UInt32 where
  le := (· ≤ ·)
  lt := (· < ·)
  le_refl := UInt32.le_refl
  le_trans _ _ _ := UInt32.le_trans
  le_antisymm _ _ h₁ h₂ := UInt32.toNat.inj (Nat.le_antisymm h₁ h₂)
  le_total := UInt32.le_total
  lt_iff_le_not_le _ _ := Nat.lt_iff_le_not_le
  min := min
  max := max
  decidableLE := inferInstance
  decidableEq := inferInstance
  decidableLT := inferInstance
  min_def _ _ := rfl
  max_def _ _ := rfl

namespace LloPlugin

/-- A Go `map[K]V`, kept as its entries in ascending key order. -/
structure GoMap (K V : Type) [LinearOrder K] where
  /-- The entries, in the order `encoding/json` writes them. -/
  toList : List (K × V)
  /-- Keys strictly ascend, so no key occurs twice. -/
  sorted : toList.Pairwise (fun a b => a.1 < b.1)

/-- An order in which a `range` statement may visit a collection: Go leaves it unspecified,
so it is any permutation. -/
structure RangeOrder (α : Type) where
  /-- The visiting order chosen for a given listing. -/
  order : List α → List α
  /-- Every element is visited exactly once. -/
  perm : ∀ l, (order l).Perm l

/-- Visiting in the listed (ascending) order. -/
def RangeOrder.ascending {α : Type} : RangeOrder α := ⟨id, List.Perm.refl⟩

/-- Visiting in descending order. -/
def RangeOrder.descending {α : Type} : RangeOrder α := ⟨List.reverse, List.reverse_perm⟩

/-- Visiting from the `n`-th entry on and wrapping around: the order Go's run time takes for a
map of one bucket when it starts the iteration at slot `n`. -/
def RangeOrder.rotate {α : Type} (n : Nat) : RangeOrder α :=
  ⟨(·.rotate n), (List.rotate_perm · n)⟩

/-- A `range` over an empty map visits nothing. -/
@[simp] theorem RangeOrder.order_nil {α : Type} (r : RangeOrder α) : r.order [] = [] :=
  List.perm_nil.1 (r.perm [])

namespace GoMap

variable {K V : Type} [LinearOrder K]

/-! ### Entry lists -/

/-- Insert `(k, v)` into an ascending entry list, replacing the entry of key `k`. -/
def insertEntry (k : K) (v : V) : List (K × V) → List (K × V)
  | [] => [(k, v)]
  | e :: t =>
    if k < e.1 then (k, v) :: e :: t else if k = e.1 then (k, v) :: t else e :: insertEntry k v t

theorem lookup_cons_ite (k k' : K) (v : V) (l : List (K × V)) :
    ((k, v) :: l).lookup k' = if k' = k then some v else l.lookup k' := by
  by_cases h : k' = k
  · simp [h]
  · rw [List.lookup_cons, beq_eq_false_iff_ne.2 h, if_neg h]

theorem lookup_insertEntry (k k' : K) (v : V) (l : List (K × V)) :
    (insertEntry k v l).lookup k' = if k' = k then some v else l.lookup k' := by
  induction l with
  | nil => simp [insertEntry, lookup_cons_ite]
  | cons e t ih =>
    obtain ⟨k₀, v₀⟩ := e
    simp only [insertEntry]
    by_cases h₁ : k < k₀
    · -- in front of `k₀`
      rw [if_pos h₁, lookup_cons_ite]
    by_cases h₂ : k = k₀
    · -- in place of the entry of `k₀ = k`
      rw [if_neg h₁, if_pos h₂, lookup_cons_ite, lookup_cons_ite, ← h₂]
      exact ite_congr rfl (fun _ => rfl) fun h => (if_neg h).symm
    · -- behind `k₀ ≠ k`
      rw [if_neg h₁, if_neg h₂, lookup_cons_ite, ih, lookup_cons_ite]
      exact ite_ite_comm (k' = k₀) (k' = k) _ _ fun h h' => h₂ (h'.symm.trans h)

theorem mem_insertEntry {k : K} {v : V} {x : K × V} {l : List (K × V)}
    (h : x ∈ insertEntry k v l) : x = (k, v) ∨ x ∈ l := by
  induction l with
  | nil => simpa [insertEntry] using h
  | cons e t ih =>
    simp only [insertEntry] at h
    split_ifs at h
    · exact (List.mem_cons.1 h).imp_right id
    · exact (List.mem_cons.1 h).imp_right (List.mem_cons_of_mem _)
    · rcases List.mem_cons.1 h with rfl | h
      · exact .inr (List.mem_cons_self _ _)
      · exact (ih h).imp_right (List.mem_cons_of_mem _)

theorem insertEntry_sorted {k : K} {v : V} {l : List (K × V)}
    (hl : l.Pairwise (fun a b => a.1 < b.1)) :
    (insertEntry k v l).Pairwise (fun a b => a.1 < b.1) := by
  induction l with
  | nil => simp [insertEntry]
  | cons e t ih =>
    rw [List.pairwise_cons] at hl
    simp only [insertEntry]
    split_ifs with h₁ h₂
    · exact List.Pairwise.cons (fun x hx => by
        rcases List.mem_cons.1 hx with rfl | hx
        exacts [h₁, h₁.trans (hl.1 x hx)]) (List.Pairwise.cons hl.1 hl.2)
    · exact List.Pairwise.cons (fun x hx => h₂ ▸ hl.1 x hx) hl.2
    · have hlt : e.1 < k := lt_of_le_of_ne (not_lt.1 h₁) (Ne.symm h₂)
      exact List.Pairwise.cons (fun x hx => by
        rcases mem_insertEntry hx with rfl | hx
        exacts [hlt, hl.1 x hx]) (ih hl.2)

theorem lookup_eq_none_of_lt {k : K} {l : List (K × V)} (h : ∀ e ∈ l, k < e.1) :
    l.lookup k = none :=
  List.lookup_eq_none_iff.2 fun e he => bne_iff_ne.2 (ne_of_lt (h e he))

theorem lookup_cons_eq_none_of_lt {k k₀ : K} {v₀ : V} {t : List (K × V)} (hk : k < k₀)
    (ht : ∀ e ∈ t, k₀ < e.1) : ((k₀, v₀) :: t).lookup k = none :=
  lookup_eq_none_of_lt fun e he => by
    rcases List.mem_cons.1 he with rfl | he
    exacts [hk, hk.trans (ht e he)]

theorem length_insertEntry {k : K} {v : V} {l : List (K × V)}
    (hl : l.Pairwise (fun a b => a.1 < b.1)) :
    (insertEntry k v l).length = if (l.lookup k).isSome then l.length else l.length + 1 := by
  induction l with
  | nil => simp [insertEntry]
  | cons e t ih =>
    obtain ⟨k₀, v₀⟩ := e
    rw [List.pairwise_cons] at hl
    rw [lookup_cons_ite]
    by_cases h₁ : k < k₀
    · rw [insertEntry, if_pos h₁, if_neg (ne_of_lt h₁),
        lookup_eq_none_of_lt fun e he => h₁.trans (hl.1 e he)]
      simp
    · by_cases h₂ : k = k₀
      · simp [insertEntry, h₁, h₂]
      · simp only [insertEntry, if_neg h₁, if_neg h₂, List.length_cons, ih hl.2]
        split_ifs <;> rfl

/-- Keeping the entries whose key passes `q` keeps the lookups of those keys. -/
theorem lookup_filter_key (q : K → Bool) (k : K) (l : List (K × V)) :
    (l.filter fun e => q e.1).lookup k = if q k then l.lookup k else none := by
  induction l with
  | nil => simp
  | cons e t ih =>
    obtain ⟨k₀, v₀⟩ := e
    by_cases h : k = k₀
    · subst h
      cases hq : q k <;> simp [List.filter_cons, hq, ih]
    · rw [List.filter_cons, lookup_cons_ite, if_neg h, ← ih]
      split <;> simp only [lookup_cons_ite, if_neg h]

theorem lookup_filter_ne (k k' : K) (l : List (K × V)) :
    (l.filter fun e => e.1 != k).lookup k' = if k' = k then none else l.lookup k' := by
  rw [lookup_filter_key (· != k)]
  by_cases h : k' = k <;> simp [h]

/-- The first `n` entries of a strictly ascending list hold exactly the keys that have fewer
than `n` smaller keys in it. -/
theorem lookup_take : ∀ {l : List (K × V)}, l.Pairwise (fun a b => a.1 < b.1) →
    ∀ (n : Nat) (k : K),
      (l.take n).lookup k = if l.countP (fun e => e.1 < k) < n then l.lookup k else none
  | [], _, _, _ => by simp only [List.take_nil, List.lookup_nil, List.countP_nil, ite_self]
  | _ :: _, _, 0, _ => by simp only [List.take_zero, List.lookup_nil, not_lt_zero', ↓reduceIte]
  | (k₀, v₀) :: t, hs, n + 1, k => by
    rw [List.pairwise_cons] at hs
    rw [List.take_succ_cons, List.countP_cons, lookup_cons_ite, lookup_cons_ite,
      lookup_take hs.2 n k]
    rcases lt_trichotomy k k₀ with hk | rfl | hk
    · -- `k` lies below every key
      have hnone : t.lookup k = none := lookup_eq_none_of_lt fun e he => hk.trans (hs.1 e he)
      simp only [ne_of_lt hk, ↓reduceIte, hnone, ite_self]
    · -- `k` is the first key
      have : t.countP (fun e => e.1 < k) = 0 :=
        List.countP_eq_zero.2 fun e he => by
          simpa only [decide_eq_true_eq, not_lt] using (hs.1 e he).le
      simp only [↓reduceIte, this, lt_self_iff_false, decide_False, Bool.false_eq_true, add_zero,
        lt_add_iff_pos_left, add_pos_iff, zero_lt_one, or_true]
    · -- `k` lies behind the first key
      simp only [ne_of_gt hk, ↓reduceIte, hk, decide_True, add_lt_add_iff_right]

/-- Strictly ascending entry lists with the same lookups are equal. -/
theorem eq_of_lookup_eq : ∀ {l l' : List (K × V)}, l.Pairwise (fun a b => a.1 < b.1) →
    l'.Pairwise (fun a b => a.1 < b.1) → (∀ k, l.lookup k = l'.lookup k) → l = l'
  | [], [], _, _, _ => rfl
  | [], (k, _) :: _, _, _, h => by simpa using h k
  | (k, _) :: _, [], _, _, h => by simpa using h k
  | (k₁, v₁) :: t₁, (k₂, v₂) :: t₂, hs₁, hs₂, h => by
    rw [List.pairwise_cons] at hs₁ hs₂
    rcases lt_trichotomy k₁ k₂ with hk | rfl | hk
    · have := h k₁
      rw [List.lookup_cons_self, lookup_cons_eq_none_of_lt hk hs₂.1] at this
      cases this
    · have hv : v₁ = v₂ := by simpa using h k₁
      subst hv
      refine congrArg _ (eq_of_lookup_eq hs₁.2 hs₂.2 fun k => ?_)
      by_cases hk : k = k₁
      · subst hk; rw [lookup_eq_none_of_lt hs₁.1, lookup_eq_none_of_lt hs₂.1]
      · simpa [lookup_cons_ite, hk] using h k
    · have := h k₂
      rw [List.lookup_cons_self, lookup_cons_eq_none_of_lt hk hs₁.1] at this
      cases this

/-! ### Maps -/

theorem toList_injective : ∀ {m m' : GoMap K V}, m.toList = m'.toList → m = m'
  | ⟨_, _⟩, ⟨_, _⟩, rfl => rfl

instance [DecidableEq V] : DecidableEq (GoMap K V) := fun m m' =>
  decidable_of_iff (m.toList = m'.toList) ⟨toList_injective, congrArg _⟩

/-- The empty map; Go's `nil` map reads the same. -/
instance : EmptyCollection (GoMap K V) := ⟨⟨[], .nil⟩⟩

/-- `m[k]` with its presence flag: Go's `v, ok := m[k]`. -/
def find? (m : GoMap K V) (k : K) : Option V := m.toList.lookup k

/-- `m[k]` read with the zero value `d` for a missing key. -/
def findD (m : GoMap K V) (k : K) (d : V) : V := (m.find? k).getD d

/-- `len(m)`. -/
def size (m : GoMap K V) : Nat := m.toList.length

/-- The keys, ascending. -/
def keys (m : GoMap K V) : List K := m.toList.map Prod.fst

instance : Membership K (GoMap K V) := ⟨fun m k => (m.find? k).isSome⟩

instance (k : K) (m : GoMap K V) : Decidable (k ∈ m) :=
  inferInstanceAs (Decidable ((m.find? k).isSome = true))

/-- `m[k] = v`. -/
def insert (m : GoMap K V) (k : K) (v : V) : GoMap K V :=
  ⟨insertEntry k v m.toList, insertEntry_sorted m.sorted⟩

/-- `delete(m, k)`. -/
def erase (m : GoMap K V) (k : K) : GoMap K V :=
  ⟨m.toList.filter fun e => e.1 != k, m.sorted.filter _⟩

variable {m m' : GoMap K V} {k k' : K} {v : V}

theorem mem_iff_isSome : k ∈ m ↔ (m.find? k).isSome := Iff.rfl

@[simp] theorem toList_empty : (∅ : GoMap K V).toList = [] := rfl

@[simp] theorem find?_empty : (∅ : GoMap K V).find? k = none := rfl

@[simp] theorem size_empty : (∅ : GoMap K V).size = 0 := rfl

@[simp] theorem not_mem_empty : k ∉ (∅ : GoMap K V) := by simp [mem_iff_isSome]

@[simp] theorem find?_insert : (m.insert k v).find? k' = if k' = k then some v else m.find? k' :=
  lookup_insertEntry k k' v m.toList

@[simp] theorem find?_erase : (m.erase k).find? k' = if k' = k then none else m.find? k' :=
  lookup_filter_ne k k' m.toList

theorem findD_eq (d : V) : m.findD k d = (m.find? k).getD d := rfl

/-- A lookup that does not fall back to its default finds the key. -/
theorem find?_of_findD_ne {d : V} (h : m.findD k d = v) (hv : v ≠ d) : m.find? k = some v := by
  rw [findD_eq] at h
  cases hk : m.find? k with
  | none => rw [hk, Option.getD_none] at h; exact absurd h.symm hv
  | some w => rw [hk, Option.getD_some] at h; rw [h]

@[simp] theorem mem_insert : k' ∈ m.insert k v ↔ k' = k ∨ k' ∈ m := by
  by_cases h : k' = k <;> simp [mem_iff_isSome, h]

@[simp] theorem mem_erase : k' ∈ m.erase k ↔ k' ≠ k ∧ k' ∈ m := by
  by_cases h : k' = k <;> simp [mem_iff_isSome, h]

/-- **Maps with the same lookups are equal.** -/
theorem ext (h : ∀ k, m.find? k = m'.find? k) : m = m' :=
  toList_injective (eq_of_lookup_eq m.sorted m'.sorted h)

/-- Writes to two different keys commute. -/
theorem insert_insert_of_ne {v' : V} (h : k ≠ k') :
    (m.insert k v).insert k' v' = (m.insert k' v').insert k v :=
  ext fun x => by
    by_cases hx : x = k'
    · simp [hx, Ne.symm h]
    · simp [hx]

/-- Deletions commute. -/
theorem erase_erase : (m.erase k).erase k' = (m.erase k').erase k :=
  ext fun x => by
    simp only [find?_erase]
    split_ifs <;> rfl

theorem size_insert : (m.insert k v).size = if k ∈ m then m.size else m.size + 1 :=
  length_insertEntry m.sorted

theorem size_erase_le : (m.erase k).size ≤ m.size := List.length_filter_le _ _

theorem keys_nodup (m : GoMap K V) : m.keys.Nodup :=
  List.pairwise_map.2 (m.sorted.imp ne_of_lt)

theorem toList_nodup (m : GoMap K V) : m.toList.Nodup := m.keys_nodup.of_map Prod.fst

/-- An entry is listed exactly when the map holds it. -/
theorem mem_toList_iff : (k, v) ∈ m.toList ↔ m.find? k = some v := by
  obtain ⟨l, hl⟩ := m
  simp only [find?]
  induction l with
  | nil => simp
  | cons e t ih =>
    obtain ⟨k₀, v₀⟩ := e
    rw [List.pairwise_cons] at hl
    by_cases h : k = k₀
    · subst h
      simp only [List.mem_cons, Prod.mk.injEq, true_and, List.lookup_cons_self,
        Option.some.injEq]
      exact ⟨fun h' => h'.elim Eq.symm fun h' => absurd (hl.1 _ h') (lt_irrefl _), fun h' => .inl h'.symm⟩
    · simp [h, lookup_cons_ite, ← ih hl.2]

theorem mem_iff_mem_keys : k ∈ m ↔ k ∈ m.keys := by
  simp only [mem_iff_isSome, Option.isSome_iff_exists, keys, List.mem_map, Prod.exists,
    mem_toList_iff, exists_and_right, exists_eq_right]

/-- The entries of one key: at most one. -/
theorem filter_key_eq (m : GoMap K V) (k : K) :
    m.toList.filter (fun e => e.1 = k) = ((m.find? k).map fun v => (k, v)).toList := by
  obtain ⟨l, hl⟩ := m
  simp only [find?]
  induction l with
  | nil => simp
  | cons e t ih =>
    obtain ⟨k₀, v₀⟩ := e
    rw [List.pairwise_cons] at hl
    by_cases h : k₀ = k
    · subst h
      have ht : t.filter (fun e => decide (e.1 = k₀)) = [] :=
        List.filter_eq_nil_iff.2 fun e he => by simpa using ne_of_gt (hl.1 e he)
      simp [ht]
    · simp [List.filter_cons, h, lookup_cons_ite, Ne.symm h, ih hl.2]

/-- A `range` over a map visits the entries of one key as the map holds them. -/
theorem filter_key_of_perm {l : List (K × V)} (hl : l.Perm m.toList) (k : K) :
    l.filter (fun e => e.1 = k) = ((m.find? k).map fun v => (k, v)).toList := by
  have := (hl.filter (fun e => e.1 = k)).trans (List.Perm.of_eq (m.filter_key_eq k))
  cases h : m.find? k with
  | none =>
    simpa only [Option.map_none', Option.toList_none, List.filter_eq_nil_iff, decide_eq_true_eq,
      Prod.forall, h, List.perm_nil] using this
  | some v =>
    simpa only [Option.map_some', Option.toList_some, h, List.perm_singleton] using this

section Rewrite

variable {W : Type}

theorem find?_foldl_insert_of_not_mem (g : K → V → W) (k : K) :
    ∀ (l : List (K × V)) (acc : GoMap K W), (∀ e ∈ l, e.1 ≠ k) →
      (l.foldl (fun acc e => acc.insert e.1 (g e.1 e.2)) acc).find? k = acc.find? k
  | [], _, _ => rfl
  | e :: l, acc, h => by
    rw [List.foldl_cons, find?_foldl_insert_of_not_mem g k l _
      fun e' he' => h e' (List.mem_cons_of_mem _ he'), find?_insert,
      if_neg (h e (List.mem_cons_self _ _)).symm]

theorem find?_foldl_insert_of_mem (g : K → V → W) {k : K} {v : V} :
    ∀ (l : List (K × V)) (acc : GoMap K W), (l.map Prod.fst).Nodup → (k, v) ∈ l →
      (l.foldl (fun acc e => acc.insert e.1 (g e.1 e.2)) acc).find? k = some (g k v)
  | e :: l, acc, hnd, hm => by
    rw [List.map_cons, List.nodup_cons] at hnd
    rw [List.foldl_cons]
    rcases List.mem_cons.1 hm with rfl | hm
    · rw [find?_foldl_insert_of_not_mem g k l _
        fun e' he' h => hnd.1 (show k ∈ l.map Prod.fst from h ▸ List.mem_map_of_mem _ he'),
        find?_insert, if_pos rfl]
    · exact find?_foldl_insert_of_mem g l _ hnd.2 hm

/-- A `range` over a map that writes each entry back under a new value, in any order. -/
theorem find?_foldl_insert_of_perm {l : List (K × V)} (hl : l.Perm m.toList) (g : K → V → W)
    (k : K) :
    (l.foldl (fun acc e => acc.insert e.1 (g e.1 e.2)) (∅ : GoMap K W)).find? k =
      (m.find? k).map (g k) := by
  cases hk : m.find? k with
  | none =>
    refine find?_foldl_insert_of_not_mem g k l ∅ fun e he h => ?_
    have := mem_toList_iff.1 (hl.subset he)
    rw [h, hk] at this
    cases this
  | some v =>
    exact find?_foldl_insert_of_mem g l ∅ ((hl.map Prod.fst).nodup_iff.2 m.keys_nodup)
      (hl.symm.subset (mem_toList_iff.2 hk))

end Rewrite

/-- A `range` over a map's keys visits each key it holds once. -/
theorem count_of_perm_keys {l : List K} (hl : l.Perm m.keys) (k : K) :
    l.count k = if k ∈ m then 1 else 0 := by
  rw [hl.count_eq]
  by_cases h : k ∈ m
  · rw [if_pos h, List.count_eq_one_of_mem m.keys_nodup (mem_iff_mem_keys.1 h)]
  · rw [if_neg h, List.count_eq_zero_of_not_mem (mt mem_iff_mem_keys.2 h)]

/-! ### Building maps -/

theorem size_insert_le : (m.insert k v).size ≤ m.size + 1 := by
  rw [size_insert]
  split_ifs <;> omega

theorem insertEntry_of_lt : ∀ {l : List (K × V)}, (∀ e ∈ l, e.1 < k) →
    insertEntry k v l = l ++ [(k, v)]
  | [], _ => rfl
  | e :: t, h => by
    have he := h e (List.mem_cons_self _ _)
    rw [insertEntry, if_neg (not_lt.2 he.le), if_neg (ne_of_gt he),
      insertEntry_of_lt fun x hx => h x (List.mem_cons_of_mem _ hx), List.cons_append]

/-- The map an entry list writes, entry by entry: `m[k] = v` for each `(k, v)`. -/
def ofList (l : List (K × V)) : GoMap K V := l.foldl (fun m e => m.insert e.1 e.2) ∅

theorem toList_foldl_insert_of_lt : ∀ (l : List (K × V)) (m : GoMap K V),
    l.Pairwise (fun a b => a.1 < b.1) → (∀ a ∈ m.toList, ∀ b ∈ l, a.1 < b.1) →
      (l.foldl (fun m e => m.insert e.1 e.2) m).toList = m.toList ++ l
  | [], m, _, _ => by simp
  | e :: l, m, hl, hm => by
    rw [List.pairwise_cons] at hl
    have hins : (m.insert e.1 e.2).toList = m.toList ++ [e] :=
      insertEntry_of_lt fun a ha => hm a ha e (List.mem_cons_self _ _)
    rw [List.foldl_cons, toList_foldl_insert_of_lt l _ hl.2, hins, List.append_assoc,
      List.singleton_append]
    intro a ha b hb
    rcases List.mem_append.1 (hins ▸ ha) with ha | ha
    · exact hm a ha b (List.mem_cons_of_mem _ hb)
    · exact List.mem_singleton.1 ha ▸ hl.1 b hb

/-- An entry list with ascending keys is the listing of the map it writes. -/
theorem toList_ofList {l : List (K × V)} (hl : l.Pairwise (fun a b => a.1 < b.1)) :
    (ofList l).toList = l :=
  toList_foldl_insert_of_lt l ∅ hl fun _ h => absurd h (List.not_mem_nil _)

/-- Two listings with ascending keys of the same entries are equal. -/
theorem eq_of_perm_of_keys_lt {l l' : List (K × V)} (hp : l.Perm l')
    (hl : l.Pairwise (fun a b => a.1 < b.1)) (hl' : l'.Pairwise (fun a b => a.1 < b.1)) :
    l = l' :=
  haveI : IsAntisymm (K × V) (fun a b => a.1 < b.1) :=
    ⟨fun _ _ h h' => absurd (h.trans h') (lt_irrefl _)⟩
  List.eq_of_perm_of_sorted hp hl hl'

/-- Sorting by key a listing of entries with ascending keys, in any order, restores it. -/
theorem insertionSort_of_perm {l l' : List (K × V)} (hp : l.Perm l')
    (hl' : l'.Pairwise (fun a b => a.1 < b.1)) :
    l.insertionSort (fun a b => a.1 ≤ b.1) = l' := by
  haveI : IsTotal (K × V) (fun a b => a.1 ≤ b.1) := ⟨fun a b => le_total a.1 b.1⟩
  haveI : IsTrans (K × V) (fun a b => a.1 ≤ b.1) := ⟨fun _ _ _ => le_trans⟩
  have hperm := (List.perm_insertionSort (fun a b : K × V => a.1 ≤ b.1) l).trans hp
  have hne := (hperm.pairwise_iff fun h => Ne.symm h).2 (hl'.imp ne_of_lt)
  exact eq_of_perm_of_keys_lt hperm (((List.sorted_insertionSort (fun a b : K × V => a.1 ≤ b.1) l).and hne).imp
    fun h => lt_of_le_of_ne h.1 h.2) hl'

/-- Sorting a listing of ascending keys, in any order, restores it. -/
theorem insertionSort_keys_of_perm {l l' : List K} (hp : l.Perm l') (hl' : l'.Pairwise (· < ·)) :
    l.insertionSort (· ≤ ·) = l' := by
  have hperm := (List.perm_insertionSort (· ≤ ·) l).trans hp
  have hne := (hperm.pairwise_iff fun h => Ne.symm h).2 (hl'.imp ne_of_lt)
  exact List.eq_of_perm_of_sorted hperm (((List.sorted_insertionSort (· ≤ ·) l).and hne).imp
    fun h => lt_of_le_of_ne h.1 h.2) hl'

theorem keys_sorted (m : GoMap K V) : m.keys.Pairwise (· < ·) := List.pairwise_map.2 m.sorted

section Values

variable {W : Type} (g : K → V → W)

/-- The map with the value `v` of every key `k` replaced by `g k v`. -/
def mapValues (m : GoMap K V) : GoMap K W :=
  ⟨m.toList.map fun e => (e.1, g e.1 e.2), List.pairwise_map.2 m.sorted⟩

@[simp] theorem size_mapValues : (m.mapValues g).size = m.size := List.length_map _ _

@[simp] theorem find?_mapValues : (m.mapValues g).find? k = (m.find? k).map (g k) := by
  obtain ⟨l, hl⟩ := m
  simp only [find?, mapValues]
  induction l with
  | nil => rfl
  | cons e t ih =>
    obtain ⟨k₀, v₀⟩ := e
    rw [List.map_cons, lookup_cons_ite, lookup_cons_ite, ih hl.of_cons]
    split_ifs with h
    · rw [h]
      rfl
    · rfl

@[simp] theorem mem_mapValues : k ∈ m.mapValues g ↔ k ∈ m := by
  simp [mem_iff_isSome]

end Values

end GoMap

end LloPlugin
