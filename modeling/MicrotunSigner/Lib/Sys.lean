import Mathlib.Data.List.Induction
import Mathlib.Logic.Function.Basic

/-!
# Systems, runs and histories

A **system** is a type of global states with a partial step function: an action either happens
(`some`, the state after it) or cannot happen in that state (`none`). Whatever a scheduler, a
clock or the other end of a connection may choose is part of the action, so a list of actions is
one interleaving and determines the run.

* `Sys.run`: the state after a list of actions; `Sys.run_induction`: the rule for a property of
  the actions so far and the state they lead to.
* `Sys.Inductive`: an inductive invariant; `Sys.Inductive.run`: it holds after every run.
* `Sys.Did`: a step with a given property happened. A history only grows (`Did.append`), by its
  newest step (`did_snoc`).
* `Sys.trace`: what an observer writes down of the steps of a run.
* `update_cases`: in a system of many parties, where each of them is after one has moved.
-/

namespace Lib

/-- A system: its initial states, and what an action does to a state (`none`: it cannot
happen). -/
structure Sys (σ α : Type) where
  init : σ → Prop
  step : σ → α → Option σ

namespace Sys

variable {σ α : Type} (S : Sys σ α)

/-- The state after the actions `as` from `s`, if each of them can happen in its turn. -/
def run : σ → List α → Option σ
  | s, [] => some s
  | s, a :: as => (S.step s a).bind fun t => run t as

variable {S}

@[simp] theorem run_nil (s : σ) : S.run s [] = some s := rfl

theorem run_append (s : σ) (as bs : List α) :
    S.run s (as ++ bs) = (S.run s as).bind fun t => S.run t bs := by
  induction as generalizing s with
  | nil => rfl
  | cons a as ih =>
    simp only [List.cons_append, run]
    cases S.step s a with
    | none => rfl
    | some t => exact ih t

theorem run_snoc {s u : σ} {as : List α} {a : α} :
    S.run s (as ++ [a]) = some u ↔ ∃ t, S.run s as = some t ∧ S.step t a = some u := by
  rw [run_append]
  simp only [run, Option.bind_eq_some_iff]
  constructor
  · rintro ⟨t, ht, u', hu, he⟩
    cases he
    exact ⟨t, ht, hu⟩
  · rintro ⟨t, ht, hu⟩
    exact ⟨t, ht, u, hu, rfl⟩

/-- A run splits at each of its actions. -/
theorem run_split {s v : σ} {pre post : List α} {a : α} (h : S.run s (pre ++ a :: post) = some v) :
    ∃ t u, S.run s pre = some t ∧ S.step t a = some u ∧ S.run u post = some v := by
  rw [run_append] at h
  simp only [run, Option.bind_eq_some_iff] at h
  obtain ⟨t, ht, u, hu, hv⟩ := h
  exact ⟨t, u, ht, hu, hv⟩

/-- Induction over a run, newest action last: the property is of the actions so far and of the
state they lead to. -/
theorem run_induction {s : σ} {P : List α → σ → Prop} (h0 : P [] s)
    (hs : ∀ as t a u, S.run s as = some t → P as t → S.step t a = some u → P (as ++ [a]) u) :
    ∀ as t, S.run s as = some t → P as t := by
  intro as
  induction as using List.reverseRecOn with
  | nil => intro t ht; cases ht; exact h0
  | append_singleton as a ih =>
    intro u hu
    obtain ⟨t, ht, hstep⟩ := run_snoc.mp hu
    exact hs as t a u ht (ih t ht) hstep

/-- A property that every step keeps is kept by every run. -/
theorem run_keeps {P : σ → Prop} (hs : ∀ t a u, P t → S.step t a = some u → P u) {s t : σ}
    {as : List α} (h0 : P s) (h : S.run s as = some t) : P t :=
  run_induction (P := fun _ t => P t) h0 (fun _ t a u _ ht hu => hs t a u ht hu) as t h

variable (S)

/-- An inductive invariant: it holds initially and every step keeps it. -/
structure Inductive (I : σ → Prop) : Prop where
  init : ∀ s, S.init s → I s
  step : ∀ s a s', I s → S.step s a = some s' → I s'

variable {S}

theorem Inductive.run {I : σ → Prop} (h : S.Inductive I) {s t : σ} {as : List α} (hs : S.init s)
    (hr : S.run s as = some t) : I t :=
  run_keeps h.step (h.init s hs) hr

/-! ## Histories -/

variable (S)

/-- A step with the property `P` happened in the run of `as` from `s`. The property is of the state
before the step, the action and the state after it. -/
def Did (s : σ) (P : σ → α → σ → Prop) (as : List α) : Prop :=
  ∃ pre a post t u, as = pre ++ a :: post ∧ S.run s pre = some t ∧ S.step t a = some u ∧ P t a u

variable {S} {s : σ} {as : List α} {P : σ → α → σ → Prop}

theorem not_did_nil : ¬ S.Did s P [] := by
  rintro ⟨pre, a, post, -, -, h, -⟩
  simp at h

/-- A history only grows. -/
theorem Did.append (h : S.Did s P as) (bs : List α) : S.Did s P (as ++ bs) := by
  obtain ⟨pre, a, post, t, u, rfl, ht, hu, hp⟩ := h
  exact ⟨pre, a, post ++ bs, t, u, by simp, ht, hu, hp⟩

/-- What happened after one more step: what happened before it, or that step. -/
theorem did_snoc {t u : σ} {a : α} (ht : S.run s as = some t) (hu : S.step t a = some u) :
    S.Did s P (as ++ [a]) ↔ S.Did s P as ∨ P t a u := by
  constructor
  · rintro ⟨pre, b, post, t', u', he, ht', hu', hp⟩
    rcases List.eq_nil_or_concat post with rfl | ⟨post, c, rfl⟩
    · obtain ⟨rfl, h1⟩ := List.append_inj' he rfl
      cases h1
      rw [ht] at ht'; cases ht'
      rw [hu] at hu'; cases hu'
      exact .inr hp
    · rw [List.concat_eq_append, ← List.cons_append, ← List.append_assoc] at he
      obtain ⟨rfl, -⟩ := List.append_inj' he rfl
      exact .inl ⟨pre, b, post, t', u', rfl, ht', hu', hp⟩
  · rintro (h | h)
    · exact h.append _
    · exact ⟨as, a, [], t, u, rfl, ht, hu, h⟩

theorem Did.mono {Q : σ → α → σ → Prop} (hpq : ∀ t a u, S.step t a = some u → P t a u → Q t a u)
    (h : S.Did s P as) : S.Did s Q as := by
  obtain ⟨pre, a, post, t, u, rfl, ht, hu, hp⟩ := h
  exact ⟨pre, a, post, t, u, rfl, ht, hu, hpq t a u hu hp⟩

/-! ## What a run shows -/

variable (S)

/-- What `obs` shows of each step of a run, in order. -/
def trace {ε : Type} (obs : σ → α → σ → List ε) : σ → List α → List ε
  | _, [] => []
  | s, a :: as => match S.step s a with
    | none => []
    | some t => obs s a t ++ trace obs t as

variable {S} {ε : Type} {obs : σ → α → σ → List ε}

theorem trace_append {t : σ} {bs : List α} (ht : S.run s as = some t) :
    S.trace obs s (as ++ bs) = S.trace obs s as ++ S.trace obs t bs := by
  induction as generalizing s with
  | nil =>
    cases ht
    rfl
  | cons a as ih =>
    obtain ⟨u, hu, hrest⟩ := Option.bind_eq_some_iff.mp ht
    simp only [List.cons_append, trace, hu, ih hrest, List.append_assoc]

theorem trace_snoc {t u : σ} {a : α} (ht : S.run s as = some t) (hu : S.step t a = some u) :
    S.trace obs s (as ++ [a]) = S.trace obs s as ++ obs t a u := by
  rw [trace_append ht]
  simp only [trace, hu, List.append_nil]

/-- What a run shows, one of its steps showed. -/
theorem did_of_mem_trace {e : ε} {t : σ} (ht : S.run s as = some t) (h : e ∈ S.trace obs s as) :
    S.Did s (fun t a u => e ∈ obs t a u) as := by
  revert h
  refine run_induction (P := fun as _ => e ∈ S.trace obs s as →
    S.Did s (fun t a u => e ∈ obs t a u) as) ?_ ?_ as t ht
  · intro h
    cases h
  · intro as t a u ht ih hu h
    rw [trace_snoc ht hu, List.mem_append] at h
    exact (did_snoc ht hu).mpr (h.imp ih id)

theorem mem_trace_of_did {e : ε} {t : σ} (ht : S.run s as = some t)
    (h : S.Did s (fun t a u => e ∈ obs t a u) as) : e ∈ S.trace obs s as := by
  obtain ⟨pre, a, post, v, u, rfl, hv, hu, he⟩ := h
  rw [trace_append hv]
  simp only [trace, hu]
  exact List.mem_append_right _ (List.mem_append_left _ he)

end Sys

/-- After the party `c` has moved, a party is that one, or it is where it was. -/
theorem update_cases {ι β : Type} [DecidableEq ι] (f : ι → β) (c : ι) (x : β) (d : ι) :
    d = c ∧ Function.update f c x d = x ∨ d ≠ c ∧ Function.update f c x d = f d := by
  by_cases hd : d = c
  · exact .inl ⟨hd, by rw [hd, Function.update_self]⟩
  · exact .inr ⟨hd, Function.update_of_ne hd _ _⟩

end Lib
