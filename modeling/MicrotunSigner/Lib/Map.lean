import Mathlib.Data.List.AList
import Mathlib.Data.Finset.Card

/-!
# Hash maps with eviction

`Map κ ν` is Mathlib's association list with distinct keys. Added here is what an evicting store
needs: the number of entries, `retain` (keep the entries with a property) and `retainMut` (change
or drop each value), with the lookup and the size after each operation.

The second half is about entries that expire. `Map.live now` is what a reader that ignores expired
entries sees; `Map.purge now` evicts them. A purge shows nothing to a later reader
(`live_purge`), so a store that purges only now and then is, for its readers, one that never
purges.
-/

namespace Lib

/-- A hash map: an association list with distinct keys. -/
abbrev Map (κ ν : Type) := AList fun _ : κ => ν

namespace Map

variable {κ ν : Type}

/-- The map without entries. -/
def empty : Map κ ν := ∅

/-- The number of entries. -/
def size (m : Map κ ν) : Nat := m.keys.length

/-- Change each value by `f`, or drop its entry. -/
def retainMut (m : Map κ ν) (f : ν → Option ν) : Map κ ν where
  entries := m.entries.filterMap fun e => (f e.2).map fun v => ⟨e.1, v⟩
  nodupKeys := by
    have h := m.nodupKeys
    rw [List.nodupKeys_iff_pairwise] at h ⊢
    refine List.Pairwise.filterMap _ (fun a a' hne b hb b' hb' => ?_) h
    simp only [Option.map_eq_some_iff] at hb hb'
    obtain ⟨-, -, rfl⟩ := hb
    obtain ⟨-, -, rfl⟩ := hb'
    exact hne

/-- Keep the entries whose value satisfies `p`. -/
def retain (m : Map κ ν) (p : ν → Bool) : Map κ ν := m.retainMut fun v => if p v then some v else none

variable [DecidableEq κ]

/-- The value under `k`. -/
def lookup (m : Map κ ν) (k : κ) : Option ν := AList.lookup k m

/-- Put `v` under `k`, in the place of the old value if there is one. -/
def insert (m : Map κ ν) (k : κ) (v : ν) : Map κ ν := AList.insert k v m

/-- Remove the entry under `k`. -/
def erase (m : Map κ ν) (k : κ) : Map κ ν := AList.erase k m

theorem lookup_eq_some_iff {m : Map κ ν} {k : κ} {v : ν} :
    m.lookup k = some v ↔ (⟨k, v⟩ : Sigma fun _ : κ => ν) ∈ m.entries :=
  AList.mem_lookup_iff

@[simp] theorem lookup_empty (k : κ) : (empty : Map κ ν).lookup k = none := rfl

theorem lookup_insert (m : Map κ ν) (k k' : κ) (v : ν) :
    (m.insert k v).lookup k' = if k' = k then some v else m.lookup k' := by
  split
  · rename_i h; subst h; exact AList.lookup_insert m
  · rename_i h; exact AList.lookup_insert_ne h

theorem lookup_erase (m : Map κ ν) (k k' : κ) :
    (m.erase k).lookup k' = if k' = k then none else m.lookup k' := by
  split
  · rename_i h; subst h; exact AList.lookup_erase k' m
  · rename_i h; exact AList.lookup_erase_ne h

@[simp] theorem lookup_retainMut (m : Map κ ν) (f : ν → Option ν) (k : κ) :
    (m.retainMut f).lookup k = (m.lookup k).bind f := by
  ext v
  rw [lookup_eq_some_iff, Option.bind_eq_some_iff]
  simp only [retainMut, List.mem_filterMap, Option.map_eq_some_iff]
  constructor
  · rintro ⟨⟨k', w⟩, hm, v', hv, he⟩
    cases he
    exact ⟨w, lookup_eq_some_iff.mpr hm, hv⟩
  · rintro ⟨w, hw, hv⟩
    exact ⟨⟨k, w⟩, lookup_eq_some_iff.mp hw, v, hv, rfl⟩

@[simp] theorem lookup_retain (m : Map κ ν) (p : ν → Bool) (k : κ) :
    (m.retain p).lookup k = (m.lookup k).filter p := by
  rw [retain, lookup_retainMut]
  cases m.lookup k with
  | none => rfl
  | some v => rw [Option.bind_some, Option.filter_some]

theorem mem_iff_lookup {m : Map κ ν} {k : κ} : k ∈ m ↔ ∃ v, m.lookup k = some v := by
  rw [← AList.lookup_isSome, Option.isSome_iff_exists]
  rfl

theorem mem_of_lookup {m : Map κ ν} {k : κ} {v : ν} (h : m.lookup k = some v) : k ∈ m :=
  mem_iff_lookup.mpr ⟨v, h⟩

theorem lookup_eq_none {m : Map κ ν} {k : κ} : m.lookup k = none ↔ k ∉ m :=
  AList.lookup_eq_none

theorem mem_insert {m : Map κ ν} {k k' : κ} {v : ν} : k' ∈ m.insert k v ↔ k' = k ∨ k' ∈ m :=
  AList.mem_insert m

/-- A loop that puts the elements with a property in the map, each under its key, leaves the last
such element under each key. -/
theorem lookup_collect {α : Type} (key : α → κ) (p : α → Bool) (xs : List α) (k : κ) :
    (xs.foldl (fun m x => if p x then m.insert (key x) x else m) (empty : Map κ α)).lookup k =
      xs.reverse.find? fun x => p x && key x == k := by
  induction xs using List.reverseRecOn with
  | nil => rfl
  | append_singleton xs x ih =>
    rw [List.foldl_append, List.reverse_append, List.reverse_singleton, List.singleton_append,
      List.foldl_cons, List.foldl_nil, List.find?_cons]
    by_cases hp : p x = true
    · rw [if_pos hp, lookup_insert, hp, Bool.true_and]
      by_cases hk : k = key x
      · simp [hk]
      · have hne : (key x == k) = false := by simpa using fun e => hk e.symm
        rw [if_neg hk, ih, hne]
    · have hno : p x = false := by simpa using hp
      rw [if_neg hp, ih, hno, Bool.false_and]

/-! ## The number of entries -/

/-- The keys, as a set to count. -/
def keySet (m : Map κ ν) : Finset κ := m.keys.toFinset

@[simp] theorem mem_keySet {m : Map κ ν} {k : κ} : k ∈ m.keySet ↔ k ∈ m := by
  rw [keySet, List.mem_toFinset, AList.mem_keys]

theorem card_keySet (m : Map κ ν) : m.keySet.card = m.size :=
  List.toFinset_card_of_nodup m.nodupKeys

theorem size_mono {ν' : Type} {m : Map κ ν} {m' : Map κ ν'} (h : ∀ k, k ∈ m → k ∈ m') :
    m.size ≤ m'.size := by
  rw [← card_keySet, ← card_keySet]
  apply Finset.card_le_card
  intro k hk
  exact mem_keySet.mpr (h k (mem_keySet.mp hk))

/-- Two maps with the same keys have the same number of entries. -/
theorem size_congr {ν' : Type} {m : Map κ ν} {m' : Map κ ν'} (h : ∀ k, k ∈ m ↔ k ∈ m') :
    m.size = m'.size :=
  Nat.le_antisymm (size_mono fun k => (h k).mp) (size_mono fun k => (h k).mpr)

omit [DecidableEq κ] in
@[simp] theorem size_empty : (empty : Map κ ν).size = 0 := rfl

theorem size_insert_new {m : Map κ ν} {k : κ} (v : ν) (h : k ∉ m) :
    (m.insert k v).size = m.size + 1 := by
  rw [size, insert, AList.keys_insert, List.length_cons,
    List.erase_of_not_mem (AList.mem_keys.not.mp h), size]

theorem size_insert_mem {m : Map κ ν} {k : κ} (v : ν) (h : k ∈ m) :
    (m.insert k v).size = m.size := by
  refine size_congr fun k' => ?_
  rw [mem_insert]
  exact ⟨fun h' => h'.elim (fun e => e ▸ h) id, .inr⟩

theorem size_insert_le (m : Map κ ν) (k : κ) (v : ν) : (m.insert k v).size ≤ m.size + 1 := by
  by_cases h : k ∈ m
  · rw [size_insert_mem v h]
    exact Nat.le_succ _
  · rw [size_insert_new v h]

theorem size_retain_le (m : Map κ ν) (p : ν → Bool) : (m.retain p).size ≤ m.size := by
  refine size_mono fun k hk => ?_
  obtain ⟨v, hv⟩ := mem_iff_lookup.mp hk
  rw [lookup_retain] at hv
  exact mem_of_lookup (Option.filter_eq_some_iff.mp hv).1

/-! ## Entries that expire -/

section Expiry

variable {τ : Type} [LinearOrder τ] (exp : ν → τ)

omit [DecidableEq κ] in
/-- Evict the entries that have expired at `now`. -/
def purge (now : τ) (m : Map κ ν) : Map κ ν := m.retain fun v => decide (now < exp v)

/-- What a reader at `now` sees under `k`: an entry that has not expired. -/
def live (now : τ) (m : Map κ ν) (k : κ) : Option ν := (m.lookup k).filter fun v => decide (now < exp v)

variable {exp} {now now' : τ} {m : Map κ ν} {k : κ} {v : ν}

@[simp] theorem lookup_purge : (m.purge exp now).lookup k = m.live exp now k := lookup_retain _ _ _

theorem live_eq_some : m.live exp now k = some v ↔ m.lookup k = some v ∧ now < exp v := by
  simp [live, Option.filter_eq_some_iff]

theorem mem_purge : k ∈ m.purge exp now ↔ ∃ v, m.lookup k = some v ∧ now < exp v := by
  simp only [mem_iff_lookup, lookup_purge, live_eq_some]

theorem not_mem_purge : k ∉ m.purge exp now ↔ ∀ v, m.lookup k = some v → exp v ≤ now := by
  simp only [mem_purge, not_exists, not_and, not_lt]

/-- A purge is invisible to a reader that comes no earlier. -/
theorem live_purge (h : now ≤ now') : (m.purge exp now).live exp now' k = m.live exp now' k := by
  ext w
  simp only [live_eq_some, lookup_purge]
  constructor
  · rintro ⟨⟨h1, -⟩, h2⟩
    exact ⟨h1, h2⟩
  · rintro ⟨h1, h2⟩
    exact ⟨⟨h1, lt_of_le_of_lt h h2⟩, h2⟩

theorem live_insert {k' : κ} : (m.insert k v).live exp now k' =
    if k' = k then (if now < exp v then some v else none) else m.live exp now k' := by
  unfold live
  rw [lookup_insert]
  split
  · simp [Option.filter_some]
  · rfl

theorem size_purge_le : (m.purge exp now).size ≤ m.size := size_retain_le _ _

end Expiry

end Map

end Lib
