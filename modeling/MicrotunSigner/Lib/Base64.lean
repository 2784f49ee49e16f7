import Mathlib.Algebra.Group.Nat.Defs
import Mathlib.Data.List.Basic

/-!
# URL-safe base64 without padding

`Base64.encode` on bytes, three at a time, and the alphabet of what it writes.
-/

namespace Lib.Base64

def alphabet : List Char :=
  "ABCDEFGHIJKLMNOPQRSTUVWXYZabcdefghijklmnopqrstuvwxyz0123456789-_".toList

/-- The character of a six-bit group. -/
def char (group : Fin 64) : Char := alphabet.get (group.cast (by decide))

/-- The character of the six bits of `n` from bit `shift` on. -/
def charAt (n shift : Nat) : Char := char (Fin.ofNat 64 (n / 2 ^ shift))

def encode : List UInt8 → List Char
  | [] => []
  | [a] =>
    let n := a.toNat * 2 ^ 16
    [charAt n 18, charAt n 12]
  | [a, b] =>
    let n := a.toNat * 2 ^ 16 + b.toNat * 2 ^ 8
    [charAt n 18, charAt n 12, charAt n 6]
  | a :: b :: c :: rest =>
    let n := a.toNat * 2 ^ 16 + b.toNat * 2 ^ 8 + c.toNat
    charAt n 18 :: charAt n 12 :: charAt n 6 :: charAt n 0 :: encode rest

theorem charAt_mem (n shift : Nat) : charAt n shift ∈ alphabet := List.get_mem _ _

/-- Every character written is one of the alphabet. -/
theorem mem_alphabet_of_mem_encode {bytes : List UInt8} {c : Char} (h : c ∈ encode bytes) :
    c ∈ alphabet := by
  induction bytes using encode.induct with
  | case1 => cases h
  | case2 a =>
    simp only [encode, List.mem_cons, List.not_mem_nil, or_false] at h
    rcases h with rfl | rfl <;> exact charAt_mem _ _
  | case3 a b =>
    simp only [encode, List.mem_cons, List.not_mem_nil, or_false] at h
    rcases h with rfl | rfl | rfl <;> exact charAt_mem _ _
  | case4 a b d rest ih =>
    simp only [encode, List.mem_cons] at h
    rcases h with rfl | rfl | rfl | rfl | h
    · exact charAt_mem _ _
    · exact charAt_mem _ _
    · exact charAt_mem _ _
    · exact charAt_mem _ _
    · exact ih h

example : encode [0x14, 0xfb, 0x9c, 0x03] = "FPucAw".toList := by decide

end Lib.Base64
