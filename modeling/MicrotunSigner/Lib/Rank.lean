import MicrotunSigner.Lib.Sys

/-!
# Ranks

Progress of one party among others: a rank that each own step of the party lowers and no step of
another one raises bounds the number of own steps (`Sys.count_le_rank`). A party that is never
blocked then gets where it wants, whatever the others do.
-/

namespace Lib.Sys

variable {σ α : Type} {S : Sys σ α} {I : σ → Prop} {s t : σ} {as : List α}

/-- In a run whose states all have the property `I`, no more own steps happen than the rank sinks. -/
theorem count_le_rank (rank : σ → Nat) (own : α → Bool)
    (hI : ∀ t a u, I t → S.step t a = some u → I u)
    (hown : ∀ t a u, I t → S.step t a = some u → own a = true → rank u < rank t)
    (hother : ∀ t a u, I t → S.step t a = some u → own a = false → rank u ≤ rank t)
    (hs : I s) (hrun : S.run s as = some t) : as.countP own + rank t ≤ rank s := by
  refine run_induction (P := fun as t => as.countP own + rank t ≤ rank s) (by simp) ?_ as t hrun
  intro as t a u ht hle hu
  have ht' : I t := run_keeps hI hs ht
  rw [List.countP_append, List.countP_singleton]
  cases ha : own a with
  | true =>
    have hlt := hown t a u ht' hu ha
    rw [if_pos rfl]
    omega
  | false =>
    have hle' := hother t a u ht' hu ha
    rw [if_neg Bool.false_ne_true]
    omega

end Lib.Sys
