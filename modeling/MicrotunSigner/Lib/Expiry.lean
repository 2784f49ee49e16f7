import MicrotunSigner.Lib.Map

/-!
# An expiring map and its history

The **history** of an expiring map is the list of what was ever put into it, under keys that are
never used twice. `Reflects now m H` is the coupling of a map with its history at the time `now`:
the map holds nothing but entries of the history, and all that have not expired. Evictions and
insertions keep it (`Reflects.purge`, `Reflects.insert`), and at any later time it decides what a
reader sees (`Reflects.live_iff`) and how many entries are unexpired (`Reflects.size_purge`).
-/

namespace Lib.Map

variable {κ ν τ : Type} [DecidableEq κ] [LinearOrder τ]

/-- The map `m` holds the unexpired entries of the history `H`, and no others but expired ones. -/
structure Reflects (exp : ν → τ) (now : τ) (m : Map κ ν) (H : List (κ × ν)) : Prop where
  sound : ∀ k v, m.lookup k = some v → (k, v) ∈ H
  complete : ∀ k v, (k, v) ∈ H → now < exp v → m.lookup k = some v

variable {exp : ν → τ} {now now' : τ} {m : Map κ ν} {H : List (κ × ν)} {k : κ} {v : ν}

theorem reflects_empty : Reflects exp now (empty : Map κ ν) [] where
  sound := fun k v h => by rw [lookup_empty] at h; cases h
  complete := fun k v h => by cases h

theorem Reflects.later (h : Reflects exp now m H) (hle : now ≤ now') : Reflects exp now' m H where
  sound := h.sound
  complete := fun k v hm hlt => h.complete k v hm (lt_of_le_of_lt hle hlt)

theorem Reflects.purge (h : Reflects exp now m H) (hle : now ≤ now') :
    Reflects exp now' (m.purge exp now') H where
  sound := fun k v hl => by
    rw [lookup_purge, live_eq_some] at hl
    exact h.sound k v hl.1
  complete := fun k v hm hlt => by
    rw [lookup_purge, live_eq_some]
    exact ⟨h.complete k v hm (lt_of_le_of_lt hle hlt), hlt⟩

/-- An insertion under a new key is one more entry of the history. -/
theorem Reflects.insert (h : Reflects exp now m H) (hk : k ∉ H.map Prod.fst) :
    Reflects exp now (m.insert k v) (H ++ [(k, v)]) where
  sound := fun k' v' hl => by
    rw [lookup_insert] at hl
    split at hl
    · rename_i he
      cases hl
      rw [he]
      exact List.mem_append_right _ (List.mem_singleton_self _)
    · exact List.mem_append_left _ (h.sound k' v' hl)
  complete := fun k' v' hm hlt => by
    rw [lookup_insert]
    rcases List.mem_append.mp hm with hold | hnew
    · have hne : k' ≠ k := fun he => hk (he ▸ List.mem_map_of_mem hold)
      rw [if_neg hne]
      exact h.complete k' v' hold hlt
    · rw [List.mem_singleton] at hnew
      cases hnew
      exact if_pos rfl

/-- What a later reader sees is the history without its expired entries. -/
theorem Reflects.live_iff (h : Reflects exp now m H) (hle : now ≤ now') :
    m.live exp now' k = some v ↔ (k, v) ∈ H ∧ now' < exp v := by
  rw [live_eq_some]
  constructor
  · rintro ⟨hl, hlt⟩
    exact ⟨h.sound k v hl, hlt⟩
  · rintro ⟨hm, hlt⟩
    exact ⟨h.complete k v hm (lt_of_le_of_lt hle hlt), hlt⟩

/-- What an eviction leaves is counted by the history. -/
theorem Reflects.size_purge (h : Reflects exp now m H) (hle : now ≤ now')
    (hd : (H.map Prod.fst).Nodup) :
    (m.purge exp now').size = (H.filter fun e => decide (now' < exp e.2)).length := by
  have hsub : ((H.filter fun e => decide (now' < exp e.2)).map Prod.fst).Nodup :=
    hd.sublist (List.filter_sublist.map Prod.fst)
  have hset : (m.purge exp now').keySet =
      ((H.filter fun e => decide (now' < exp e.2)).map Prod.fst).toFinset := by
    ext k'
    rw [mem_keySet, mem_purge, List.mem_toFinset, List.mem_map]
    constructor
    · rintro ⟨v', hl, hlt⟩
      exact ⟨(k', v'), List.mem_filter.mpr ⟨h.sound k' v' hl, decide_eq_true hlt⟩, rfl⟩
    · rintro ⟨⟨k'', v'⟩, hm, rfl⟩
      obtain ⟨hm, hlt⟩ := List.mem_filter.mp hm
      have hlt : now' < exp v' := of_decide_eq_true hlt
      exact ⟨v', h.complete _ v' hm (lt_of_le_of_lt hle hlt), hlt⟩
  rw [← card_keySet, hset, List.toFinset_card_of_nodup hsub, List.length_map]

end Lib.Map
