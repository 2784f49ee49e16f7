import MicrotunSigner.Lib.Text
import Mathlib.Data.List.Induction

/-!
# Canonical decimals

A number is printed without leading zeros, but a text of digits may have some. `Canonical` texts
are exactly the printed numbers: printing the value of one gives it back (`repr_value`), and what
is printed is canonical (`canonical_repr`).
-/

namespace Lib.Decimal

open Lib.Text

/-- The number that a text of digits denotes. -/
def value (s : String) : Nat := Nat.ofDigitChars 10 s.toList 0

/-- Digits without a leading zero, but for `0` itself. -/
structure CanonicalDigits (l : List Char) : Prop where
  nonempty : l ≠ []
  digits : ∀ c ∈ l, isAsciiDigit c = true
  head : l.head? = some '0' → l = ['0']

def Canonical (s : String) : Prop := CanonicalDigits s.toList

theorem isAsciiDigit_iff {c : Char} : isAsciiDigit c = true ↔ ∃ d, d < 10 ∧ c = Nat.digitChar d := by
  unfold isAsciiDigit
  rw [Bool.and_eq_true, decide_eq_true_eq, decide_eq_true_eq]
  constructor
  · rintro ⟨hlo, hhi⟩
    have h1 : 48 ≤ c.toNat := hlo
    have h2 : c.toNat ≤ 57 := hhi
    refine ⟨c.toNat - 48, by omega, ?_⟩
    apply Char.toNat_inj.mp
    rw [Nat.toNat_digitChar_of_lt_ten (by omega)]
    omega
  · rintro ⟨d, hd, rfl⟩
    have h := Nat.toNat_digitChar_of_lt_ten hd
    constructor
    · show 48 ≤ (Nat.digitChar d).toNat
      omega
    · show (Nat.digitChar d).toNat ≤ 57
      omega

theorem isAsciiDigit_of_mem_toDigits {n : Nat} {c : Char} (h : c ∈ Nat.toDigits 10 n) :
    isAsciiDigit c = true := by
  have hd : c.isDigit = true := Nat.isDigit_of_mem_toDigits (by decide) (by decide) h
  exact hd

/-- Only zero is printed with a zero in front. -/
theorem head_toDigits (n : Nat) (h : (Nat.toDigits 10 n).head? = some '0') : n = 0 := by
  induction n using Nat.strong_induction_on with
  | _ n ih =>
    by_cases hn : n < 10
    · rw [Nat.toDigits_of_lt_base hn] at h
      simpa using h
    · have hne : Nat.toDigits 10 (n / 10) ≠ [] := Nat.toDigits_ne_nil
      rw [Nat.toDigits_of_base_le (by decide) (by omega), List.head?_append_of_ne_nil _ hne] at h
      have hzero := ih (n / 10) (by omega) h
      omega

theorem canonical_toDigits (n : Nat) : CanonicalDigits (Nat.toDigits 10 n) where
  nonempty := Nat.toDigits_ne_nil
  digits := fun _ h => isAsciiDigit_of_mem_toDigits h
  head := fun h => by
    rw [head_toDigits n h]
    rfl

/-- **Uniqueness.** Canonical digits are the printed form of their value. -/
theorem toDigits_value {l : List Char} (h : CanonicalDigits l) :
    Nat.toDigits 10 (Nat.ofDigitChars 10 l 0) = l := by
  induction l using List.reverseRecOn with
  | nil => exact absurd rfl h.nonempty
  | append_singleton l c ih =>
    obtain ⟨d, hd, rfl⟩ := isAsciiDigit_iff.mp (h.digits c (by simp))
    rw [Nat.ofDigitChars_append, Nat.ofDigitChars_cons_digitChar_of_lt_ten hd,
      Nat.ofDigitChars_nil]
    by_cases hl : l = []
    · subst hl
      rw [Nat.ofDigitChars_nil, Nat.mul_zero, Nat.zero_add, Nat.toDigits_of_lt_base hd]
      rfl
    · have hprefix : CanonicalDigits l := by
        refine ⟨hl, fun c hc => h.digits c (List.mem_append_left _ hc), fun hz => ?_⟩
        have hall := h.head (by rw [List.head?_append_of_ne_nil _ hl, hz])
        have hlen := congrArg List.length hall
        rw [List.length_append] at hlen
        simp only [List.length_singleton, Nat.add_eq_right, List.length_eq_zero_iff] at hlen
        exact absurd hlen hl
      have hdigits := ih hprefix
      -- A canonical text of two digits or more does not denote zero.
      have hpos : 0 < Nat.ofDigitChars 10 l 0 := by
        by_contra hz
        rw [Nat.eq_zero_of_not_pos hz] at hdigits
        have hall := h.head (by rw [← hdigits]; rfl)
        rw [← hdigits] at hall
        simp at hall
      rw [← Nat.toDigits_append_toDigits (by decide) hpos hd, hdigits, Nat.toDigits_of_lt_base hd]

theorem canonical_repr (n : Nat) : Canonical (toString n) := by
  unfold Canonical
  rw [Nat.toString_eq_repr, Nat.toList_repr]
  exact canonical_toDigits n

theorem value_repr (n : Nat) : value (toString n) = n := by
  unfold value
  rw [Nat.toString_eq_repr, Nat.toList_repr]
  exact Nat.ofDigitChars_ten_toDigits

theorem repr_value {s : String} (h : Canonical s) : toString (value s) = s := by
  rw [Nat.toString_eq_repr, ← String.toList_inj, Nat.toList_repr]
  exact toDigits_value h

/-- The printed 64-bit numbers are the canonical texts below `2^64`. -/
theorem exists_uint64_iff {s : String} :
    (∃ id : UInt64, s = toString id.toNat) ↔ Canonical s ∧ value s < 2 ^ 64 := by
  constructor
  · rintro ⟨id, rfl⟩
    refine ⟨canonical_repr _, ?_⟩
    rw [value_repr]
    exact id.toNat_lt
  · rintro ⟨hc, hlt⟩
    refine ⟨UInt64.ofNat (value s), ?_⟩
    rw [UInt64.toNat_ofNat_of_lt' hlt, repr_value hc]

end Lib.Decimal
