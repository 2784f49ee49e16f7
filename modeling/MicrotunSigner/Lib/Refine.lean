import MicrotunSigner.Lib.Sys

/-!
# Refinement of systems

A system `S` refines a system `T` (`Sys.Refines`) when each state of `S` stands for a state of `T`,
and each step of `S` for some steps of `T`: none, if it is invisible there. A component of a larger
system is such a view, and so is the specification of a system.

* `Refines.run`: what a run of `S` does is a run of `T`, of the actions `Refines.actions`.

The view may be valid only in the states with a property `I`; `Through` says that a run stays in
them.
-/

namespace Lib.Sys

variable {σ τ α β : Type}

/-- All states of the run of `as` from `s` have the property `I`. -/
def Through (S : Sys σ α) (I : σ → Prop) (s : σ) (as : List α) : Prop :=
  ∀ pre post t, as = pre ++ post → S.run s pre = some t → I t

section Through

variable {S : Sys σ α} {I : σ → Prop} {s t : σ} {as : List α}

theorem Through.init {bs : List α} (h : S.Through I s (as ++ bs)) : S.Through I s as := by
  intro pre post t he ht
  exact h pre (post ++ bs) t (by rw [he, List.append_assoc]) ht

theorem Through.last (h : S.Through I s as) (ht : S.run s as = some t) : I t :=
  h as [] t (by rw [List.append_nil]) ht

end Through

/-- A view of `S` as `T`, valid between states with the property `I`. -/
structure Refines (S : Sys σ α) (T : Sys τ β) (I : σ → Prop) where
  abs : σ → τ
  /-- What a step of `S` is in `T`. -/
  moves : σ → α → σ → List β
  step : ∀ s a s', I s → I s' → S.step s a = some s' →
    T.run (abs s) (moves s a s') = some (abs s')

namespace Refines

variable {S : Sys σ α} {T : Sys τ β} {I : σ → Prop} (R : S.Refines T I) {s t : σ} {as : List α}

/-- What the run of `as` is in `T`. -/
def actions (s : σ) (as : List α) : List β := S.trace R.moves s as

variable {R}

theorem actions_snoc {u : σ} {a : α} (ht : S.run s as = some t) (hu : S.step t a = some u) :
    R.actions s (as ++ [a]) = R.actions s as ++ R.moves t a u := trace_snoc ht hu

/-- **A run of `S` is a run of `T`.** -/
theorem run (h : S.Through I s as) (ht : S.run s as = some t) :
    T.run (R.abs s) (R.actions s as) = some (R.abs t) := by
  revert h
  refine run_induction (P := fun as t => S.Through I s as →
    T.run (R.abs s) (R.actions s as) = some (R.abs t)) (fun _ => rfl) ?_ as t ht
  intro as t a u ht ih hu h
  have hu' : S.run s (as ++ [a]) = some u := run_snoc.mpr ⟨t, ht, hu⟩
  rw [actions_snoc ht hu, run_append, ih h.init]
  exact R.step t a u (h.init.last ht) (h.last hu') hu

end Refines

end Lib.Sys
