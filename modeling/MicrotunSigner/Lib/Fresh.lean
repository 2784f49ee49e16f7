import Mathlib.Data.List.Basic
import Mathlib.Data.List.Perm.Basic

/-!
# Names that must be new

A loop that registers names refuses one that it has registered before. `Fresh taken xs` says that
such a loop, started when the names of `taken` are registered, accepts `xs`. Its three rules follow
the loop: nothing to register, one name first, one list of names first.
-/

namespace Lib

variable {α : Type}

/-- The names `xs` are distinct, and none of them is taken. -/
def Fresh (taken : α → Prop) (xs : List α) : Prop := xs.Nodup ∧ ∀ x ∈ xs, ¬ taken x

variable {taken taken' : α → Prop} {xs ys : List α} {x : α}

@[simp] theorem fresh_nil : Fresh taken [] := ⟨List.nodup_nil, fun _ hx => (nomatch hx)⟩

theorem fresh_cons : Fresh taken (x :: xs) ↔ ¬ taken x ∧ Fresh (fun y => y = x ∨ taken y) xs := by
  unfold Fresh
  rw [List.nodup_cons]
  constructor
  · rintro ⟨⟨hx, hd⟩, hall⟩
    refine ⟨hall x List.mem_cons_self, hd, fun y hy => ?_⟩
    rintro (rfl | ht)
    · exact hx hy
    · exact hall y (List.mem_cons_of_mem _ hy) ht
  · rintro ⟨hx, hd, hall⟩
    refine ⟨⟨fun hm => hall x hm (.inl rfl), hd⟩, fun y hy => ?_⟩
    rcases List.mem_cons.mp hy with rfl | hy
    · exact hx
    · exact fun ht => hall y hy (.inr ht)

theorem fresh_append :
    Fresh taken (xs ++ ys) ↔ Fresh taken xs ∧ Fresh (fun y => y ∈ xs ∨ taken y) ys := by
  unfold Fresh
  rw [List.nodup_append]
  constructor
  · rintro ⟨⟨hx, hy, hne⟩, hall⟩
    refine ⟨⟨hx, fun z hz => hall z (List.mem_append_left _ hz)⟩, hy, fun z hz => ?_⟩
    rintro (hz' | ht)
    · exact hne z hz' z hz rfl
    · exact hall z (List.mem_append_right _ hz) ht
  · rintro ⟨⟨hx, hx'⟩, hy, hy'⟩
    refine ⟨⟨hx, hy, fun a ha b hb he => hy' b hb (.inl (he ▸ ha))⟩, fun z hz => ?_⟩
    rcases List.mem_append.mp hz with hz | hz
    · exact hx' z hz
    · exact fun ht => hy' z hz (.inr ht)

/-- Nothing is taken at first. -/
theorem fresh_none : Fresh (fun _ => False) xs ↔ xs.Nodup :=
  ⟨fun h => h.1, fun h => ⟨h, fun _ _ => id⟩⟩

theorem fresh_congr (h : ∀ x, taken x ↔ taken' x) : Fresh taken xs ↔ Fresh taken' xs := by
  have he : taken = taken' := by
    funext x
    exact propext (h x)
  rw [he]

/-- The order of the names does not matter. -/
theorem fresh_perm (h : xs.Perm ys) : Fresh taken xs ↔ Fresh taken ys := by
  unfold Fresh
  rw [h.nodup_iff]
  exact and_congr_right fun _ => forall_congr' fun x => imp_congr_left h.mem_iff

end Lib
