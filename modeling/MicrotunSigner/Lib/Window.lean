import Mathlib.Data.List.Basic
import Mathlib.Order.Lattice

/-!
# Sliding windows over a log of times

A queue of times, oldest first, that pops its expired front only when it is used, against the full
log of what was ever pushed. `Tracks c d h`: the queue `d` is in order and agrees with the log `h`
on everything after the cutoff `c`. Popping at a later cutoff (`Tracks.pop`) and pushing
(`Tracks.push`) keep this, and a popped queue is exactly the window of the log
(`Tracks.popExpired_eq`).

`expired`: what a pop takes. Where it takes nothing after `c`, the queue shows the same after `c` as
before (`after_popExpired`), in order or not. `within`: the times of a half-open window.
-/

namespace Lib.Window

variable {τ : Type} [LinearOrder τ]

/-- The times after the cutoff `c`. -/
def after (c : τ) (times : List τ) : List τ := times.filter fun t => decide (c < t)

/-- Pop the front entries up to the cutoff. -/
def popExpired (c : τ) (times : List τ) : List τ := times.dropWhile fun t => decide (t ≤ c)

/-- What `popExpired` pops. -/
def expired (c : τ) (times : List τ) : List τ := times.takeWhile fun t => decide (t ≤ c)

/-- The times after `c`, up to `t`. -/
def within (c t : τ) (times : List τ) : List τ := times.filter fun s => decide (c < s ∧ s ≤ t)

variable {c c' t : τ} {d h : List τ}

@[simp] theorem mem_after : t ∈ after c d ↔ t ∈ d ∧ c < t := by simp [after]

@[simp] theorem after_nil : after c ([] : List τ) = [] := rfl

theorem after_append (d h : List τ) : after c (d ++ h) = after c d ++ after c h :=
  List.filter_append d h

/-- A later cutoff sees the same after an earlier one was applied. -/
theorem after_after (hc : c ≤ c') : after c' (after c d) = after c' d := by
  unfold after
  rw [List.filter_filter]
  refine List.filter_congr fun t _ => ?_
  rw [Bool.and_eq_left_iff_imp, decide_eq_true_eq, decide_eq_true_eq]
  exact fun hlt => lt_of_le_of_lt hc hlt

theorem expired_append_popExpired (c : τ) (d : List τ) : expired c d ++ popExpired c d = d :=
  List.takeWhile_append_dropWhile

theorem le_of_mem_expired (h : t ∈ expired c d) : t ≤ c :=
  of_decide_eq_true (List.all_eq_true.mp List.all_takeWhile t h)

/-- A pop that takes only times up to `c` does not change what is after `c`. -/
theorem after_popExpired (hd : ∀ s ∈ expired c' d, s ≤ c) : after c (popExpired c' d) = after c d := by
  have hnone : after c (expired c' d) = [] :=
    List.filter_eq_nil_iff.mpr fun s hs => by simpa using hd s hs
  conv_rhs => rw [← expired_append_popExpired c' d, after_append, hnone, List.nil_append]

theorem within_append (d h : List τ) : within c t (d ++ h) = within c t d ++ within c t h :=
  List.filter_append d h

/-- A window is part of what is after its start, and after any earlier time. -/
theorem length_within_le (hc : c' ≤ c) : (within c t d).length ≤ (after c' d).length := by
  unfold within after
  rw [← List.countP_eq_length_filter, ← List.countP_eq_length_filter]
  refine List.countP_mono_left fun s _ hin => ?_
  rw [decide_eq_true_eq] at hin ⊢
  exact lt_of_le_of_lt hc hin.1

theorem length_after_le (c : τ) (d : List τ) : (after c d).length ≤ d.length :=
  List.length_filter_le _ _

/-- On a queue in order, popping the front removes all that has expired. -/
theorem popExpired_eq_after (hd : d.Pairwise (· ≤ ·)) : popExpired c d = after c d := by
  induction d with
  | nil => rfl
  | cons t d ih =>
    obtain ⟨hle, hd⟩ := List.pairwise_cons.mp hd
    unfold popExpired after
    by_cases ht : t ≤ c
    · rw [List.dropWhile_cons_of_pos (by simpa using ht), List.filter_cons_of_neg (by simpa using ht)]
      exact ih hd
    · rw [List.dropWhile_cons_of_neg (by simpa using ht)]
      refine (List.filter_eq_self.mpr fun s hs => decide_eq_true ?_).symm
      rcases List.mem_cons.mp hs with rfl | hs
      · exact lt_of_not_ge ht
      · exact lt_of_lt_of_le (lt_of_not_ge ht) (hle s hs)

/-- The queue `d` is in order and agrees with the log `h` after the cutoff `c`. -/
structure Tracks (c : τ) (d h : List τ) : Prop where
  sorted : d.Pairwise (· ≤ ·)
  agree : after c d = after c h

theorem tracks_nil : Tracks c ([] : List τ) [] := ⟨List.Pairwise.nil, rfl⟩

/-- A popped queue is the window of the log. -/
theorem Tracks.popExpired_eq (ht : Tracks c d h) (hc : c ≤ c') : popExpired c' d = after c' h := by
  rw [popExpired_eq_after ht.sorted, ← after_after hc, ht.agree, after_after hc]

theorem Tracks.later (ht : Tracks c d h) (hc : c ≤ c') : Tracks c' d h where
  sorted := ht.sorted
  agree := by rw [← after_after hc, ht.agree, after_after hc]

theorem Tracks.pop (ht : Tracks c d h) (hc : c ≤ c') : Tracks c' (popExpired c' d) h where
  sorted := ht.sorted.sublist (List.dropWhile_sublist _)
  agree := by rw [ht.popExpired_eq hc, after_after (le_refl c')]

theorem Tracks.push (ht : Tracks c d h) (hd : ∀ s ∈ d, s ≤ t) : Tracks c (d ++ [t]) (h ++ [t]) where
  sorted := by
    rw [List.pairwise_append]
    refine ⟨ht.sorted, List.pairwise_singleton _ _, fun s hs u hu => ?_⟩
    rw [List.mem_singleton] at hu
    exact hu ▸ hd s hs
  agree := by rw [after_append, after_append, ht.agree]

end Lib.Window
