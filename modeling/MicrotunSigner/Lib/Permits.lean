import MicrotunSigner.Lib.Sys
import Mathlib.Data.Finset.Card

/-!
# Permits

A semaphore with `n` permits: each permit is free or held by one of the parties (`Permits`). A party
takes one permit at most at a time. `acquire`, `release` and `congr` are what the moves of a party
do, and `take`, `giveBack` and `move` the same when the parties are at places of a function.
`eq_of_held` is mutual exclusion at one permit, and `card_le` its general form.
-/

namespace Lib

variable {ι : Type} {n free : Nat} {holds holds' : ι → Prop}

/-- Of the `n` permits, `free` are free, and the parties with the property `holds` have the others,
one each. -/
def Permits (n free : Nat) (holds : ι → Prop) : Prop :=
  ∃ holders : Finset ι, (∀ c, c ∈ holders ↔ holds c) ∧ free + holders.card = n

namespace Permits

theorem all_free (h : ∀ c, ¬ holds c) : Permits n n holds :=
  ⟨∅, fun c => iff_of_false (Finset.notMem_empty c) (h c), rfl⟩

/-- A move of a party that takes no permit and gives none back. -/
theorem congr (h : Permits n free holds) (hsame : ∀ c, holds' c ↔ holds c) :
    Permits n free holds' := by
  obtain ⟨holders, hmem, hn⟩ := h
  exact ⟨holders, fun c => (hmem c).trans (hsame c).symm, hn⟩

/-- The party `c` takes a free permit. -/
theorem acquire (h : Permits n free holds) {c : ι} (hfree : free ≠ 0) (hc : ¬ holds c)
    (hc' : holds' c) (hother : ∀ d, d ≠ c → (holds' d ↔ holds d)) :
    Permits n (free - 1) holds' := by
  classical
  obtain ⟨holders, hmem, hn⟩ := h
  refine ⟨insert c holders, fun d => ?_, ?_⟩
  · rw [Finset.mem_insert]
    by_cases hd : d = c
    · subst hd
      exact iff_of_true (.inl rfl) hc'
    · rw [or_iff_right hd, hmem, hother d hd]
  · rw [Finset.card_insert_of_notMem fun hm => hc ((hmem c).mp hm)]
    omega

/-- The party `c` gives its permit back. -/
theorem release (h : Permits n free holds) {c : ι} (hc : holds c) (hc' : ¬ holds' c)
    (hother : ∀ d, d ≠ c → (holds' d ↔ holds d)) : Permits n (free + 1) holds' := by
  classical
  obtain ⟨holders, hmem, hn⟩ := h
  refine ⟨holders.erase c, fun d => ?_, ?_⟩
  · rw [Finset.mem_erase]
    by_cases hd : d = c
    · subst hd
      exact iff_of_false (fun hm => hm.1 rfl) hc'
    · rw [and_iff_right hd, hmem, hother d hd]
  · have hcard := Finset.card_erase_add_one ((hmem c).mpr hc)
    omega

/-- No more parties hold a permit than there are permits. -/
theorem card_le (h : Permits n free holds) (parties : Finset ι) (hp : ∀ c ∈ parties, holds c) :
    parties.card + free ≤ n := by
  obtain ⟨holders, hmem, hn⟩ := h
  have hle := Finset.card_le_card fun c hc => (hmem c).mpr (hp c hc)
  omega

/-- **Mutual exclusion**: the only permit has one holder. -/
theorem eq_of_held (h : Permits 1 free holds) {c d : ι} (hc : holds c) (hd : holds d) : c = d := by
  classical
  by_contra hne
  have hle := h.card_le {c, d} fun e he => by
    rcases Finset.mem_insert.mp he with rfl | he
    · exact hc
    · rw [Finset.mem_singleton.mp he]
      exact hd
  rw [Finset.card_pair hne] at hle
  omega

/-- All permits are free iff nobody holds one. -/
theorem free_eq_iff (h : Permits n free holds) : free = n ↔ ∀ c, ¬ holds c := by
  obtain ⟨holders, hmem, hn⟩ := h
  constructor
  · intro he c hc
    have hpos := Finset.card_pos.mpr ⟨c, (hmem c).mpr hc⟩
    omega
  · intro hnone
    have hempty : holders = ∅ :=
      Finset.eq_empty_of_forall_notMem fun c hc => hnone c ((hmem c).mp hc)
    rw [hempty, Finset.card_empty] at hn
    exact hn

/-- All permits are taken iff that many parties have one. -/
theorem taken_iff (h : Permits n free holds) :
    free = 0 ↔ ∃ parties : Finset ι, parties.card = n ∧ ∀ c ∈ parties, holds c := by
  constructor
  · rintro rfl
    obtain ⟨holders, hmem, hn⟩ := h
    exact ⟨holders, by omega, fun c hc => (hmem c).mp hc⟩
  · rintro ⟨parties, hcard, hp⟩
    have hle := h.card_le parties hp
    omega

/-! ### The moves of a party at a place -/

section Places

variable {β : Type} {places : ι → β} {p : β → Prop} {c : ι} {x : β} [DecidableEq ι]

/-- The party goes on with what it has. -/
theorem move (h : Permits n free fun d => p (places d)) (hx : p x ↔ p (places c)) :
    Permits n free fun d => p (Function.update places c x d) := by
  refine h.congr fun d => ?_
  rcases update_cases places c x d with ⟨rfl, he⟩ | ⟨-, he⟩
  · rw [he, hx]
  · rw [he]

theorem take (h : Permits n free fun d => p (places d)) (hfree : free ≠ 0) (hc : ¬ p (places c))
    (hx : p x) : Permits n (free - 1) fun d => p (Function.update places c x d) := by
  refine h.acquire hfree hc ?_ fun d hd => ?_
  · rw [Function.update_self]
    exact hx
  · rw [Function.update_of_ne hd]

theorem giveBack (h : Permits n free fun d => p (places d)) (hc : p (places c)) (hx : ¬ p x) :
    Permits n (free + 1) fun d => p (Function.update places c x d) := by
  refine h.release hc ?_ fun d hd => ?_
  · rw [Function.update_self]
    exact hx
  · rw [Function.update_of_ne hd]

end Places

end Permits

end Lib
