import Mathlib.Data.List.Basic
import Mathlib.Data.String.Basic

/-!
# Text

The string operations of a standard library, on the characters of a `String`: lengths in UTF-8
bytes, comparison up to ASCII case, prefixes, splitting at a character, trimming white space, the
bytes of a text and the text of its bytes.
-/

namespace Lib.Text

/-- The length in bytes. -/
def len (s : String) : Nat := s.utf8ByteSize

def isEmpty (s : String) : Bool := s.toList.isEmpty

def toAsciiLowercase (c : Char) : Char :=
  if 'A' ≤ c ∧ c ≤ 'Z' then Char.ofNat (c.toNat + 32) else c

/-- Equal up to the case of ASCII letters. -/
def eqIgnoreAsciiCase (a b : String) : Bool :=
  a.toList.map toAsciiLowercase == b.toList.map toAsciiLowercase

/-- The Unicode property `White_Space`. -/
def isWhitespace (c : Char) : Bool :=
  let n := c.toNat
  (9 ≤ n && n ≤ 13) || n == 0x20 || n == 0x85 || n == 0xA0 || n == 0x1680 ||
    (0x2000 ≤ n && n ≤ 0x200A) || n == 0x2028 || n == 0x2029 || n == 0x202F || n == 0x205F || n == 0x3000

def trim (s : String) : String :=
  String.ofList ((s.toList.dropWhile isWhitespace).reverse.dropWhile isWhitespace).reverse

def trimEnd (s : String) : String := String.ofList (s.toList.reverse.dropWhile isWhitespace).reverse

def startsWith (s p : String) : Bool := p.toList.isPrefixOf s.toList

def endsWith (s p : String) : Bool := p.toList.isSuffixOf s.toList

def contains (s p : String) : Bool := s.toList.tails.any fun t => p.toList.isPrefixOf t

def stripPrefix (s p : String) : Option String :=
  (p.toList.isPrefixOf? s.toList).map String.ofList

/-- How often `p` is found from left to right, after the next `skip` characters. -/
def countFrom (p : List Char) : Nat → List Char → Nat
  | _, [] => 0
  | skip + 1, _ :: cs => countFrom p skip cs
  | 0, c :: cs =>
    if p.isPrefixOf (c :: cs) then countFrom p (p.length - 1) cs + 1 else countFrom p 0 cs

/-- The number of matches of `p` that do not overlap. -/
def matchCount (s p : String) : Nat := countFrom p.toList 0 s.toList

/-- The parts of `s` between the characters `c`. -/
def split (c : Char) (s : String) : List String := (s.toList.splitOn c).map String.ofList

/-- The parts of `s` before and after its first `c`. -/
def splitOnce (c : Char) (s : String) : Option (String × String) :=
  match s.toList.span (· ≠ c) with
  | (_, []) => none
  | (before, _ :: after) => some (String.ofList before, String.ofList after)

/-- The parts of `s` between ASCII white space, the empty ones left out. -/
def splitAsciiWhitespace (s : String) : List String :=
  let isSpace c := c == ' ' || c == '\t' || c == '\n' || c == '\x0c' || c == '\r'
  ((s.toList.splitOnP isSpace).filter fun part => !part.isEmpty).map String.ofList

def all (s : String) (p : Char → Bool) : Bool := s.toList.all p

def isAsciiDigit (c : Char) : Bool := '0' ≤ c && c ≤ '9'

def isAsciiAlphanumeric (c : Char) : Bool :=
  isAsciiDigit c || ('A' ≤ c && c ≤ 'Z') || ('a' ≤ c && c ≤ 'z')

def isAsciiHexdigit (c : Char) : Bool :=
  isAsciiDigit c || ('A' ≤ c && c ≤ 'F') || ('a' ≤ c && c ≤ 'f')

/-- One byte as two lower-case hex digits. -/
def hexByte (b : UInt8) : List Char := [(b.toNat / 16).digitChar, (b.toNat % 16).digitChar]

def hexEncode (bytes : List UInt8) : String := String.ofList (bytes.flatMap hexByte)

theorem stripPrefix_eq_some {s p r : String} (h : stripPrefix s p = some r) : s = p ++ r := by
  unfold stripPrefix at h
  obtain ⟨t, ht, rfl⟩ := Option.map_eq_some_iff.mp h
  rw [← String.toList_inj, String.toList_append, String.toList_ofList]
  exact (List.isPrefixOf?_eq_some_iff_append_eq.mp ht).symm

theorem stripPrefix_append (p r : String) : stripPrefix (p ++ r) p = some r := by
  unfold stripPrefix
  have h : p.toList.isPrefixOf? (p ++ r).toList = some r.toList := by
    rw [List.isPrefixOf?_eq_some_iff_append_eq, String.toList_append]
  rw [h, Option.map_some, String.ofList_toList]

theorem isEmpty_eq_false {s : String} : isEmpty s = false ↔ s ≠ "" := by
  unfold isEmpty
  rw [List.isEmpty_eq_false_iff, ne_eq, String.toList_eq_nil_iff]

/-- A hex digit is one of its values only. -/
theorem digitChar_inj {a b : Nat} (ha : a < 16) (hb : b < 16) (h : a.digitChar = b.digitChar) :
    a = b := by
  have hall : ∀ a < 16, ∀ b < 16, a.digitChar = b.digitChar → a = b := by decide
  exact hall a ha b hb h

theorem hexByte_inj {a b : UInt8} (h : hexByte a = hexByte b) : a = b := by
  obtain ⟨hhi, hlo⟩ : (a.toNat / 16).digitChar = (b.toNat / 16).digitChar ∧
      (a.toNat % 16).digitChar = (b.toNat % 16).digitChar := by simpa [hexByte] using h
  have ha := a.toNat_lt
  have hb := b.toNat_lt
  have hdiv := digitChar_inj (by omega) (by omega) hhi
  have hmod := digitChar_inj (by omega) (by omega) hlo
  apply UInt8.toNat_inj.mp
  omega

theorem hexEncode_inj {as bs : List UInt8} (h : hexEncode as = hexEncode bs) : as = bs := by
  have hchars : as.flatMap hexByte = bs.flatMap hexByte := String.ofList_injective h
  clear h
  induction as generalizing bs with
  | nil =>
    cases bs with
    | nil => rfl
    | cons b bs => simp [hexByte] at hchars
  | cons a as ih =>
    cases bs with
    | nil => simp [hexByte] at hchars
    | cons b bs =>
      rw [List.flatMap_cons, List.flatMap_cons] at hchars
      obtain ⟨hab, hrest⟩ := List.append_inj hchars rfl
      rw [hexByte_inj hab, ih hrest]

/-- Without the character `c`, a text is its only part. -/
theorem split_of_not_mem {c : Char} {s : String} (h : c ∉ s.toList) : split c s = [s] := by
  unfold split
  rw [List.splitOn_eq_singleton h]
  simp

/-- The parts have no separator. -/
theorem chars_split {c : Char} {s : String} {p : Char → Prop} (h : ∀ d ∈ s.toList, p d ∨ d = c) :
    ∀ part ∈ split c s, ∀ d ∈ part.toList, p d := by
  have hlist : ∀ part ∈ s.toList.splitOn c, ∀ d ∈ part, p d := by
    generalize s.toList = cs at h
    induction cs with
    | nil => simp
    | cons x cs ih =>
      have ih := ih fun d hd => h d (List.mem_cons_of_mem _ hd)
      rw [List.splitOn_cons_eq_if_modifyHead]
      by_cases hx : x = c
      · simpa [hx] using ih
      · obtain ⟨first, rest, hs⟩ := List.exists_cons_of_ne_nil (List.splitOn_ne_nil c cs)
        have hpx := (h x List.mem_cons_self).resolve_right hx
        rw [hs] at ih ⊢
        simpa [hx, hpx] using ih
  intro part hp d hd
  obtain ⟨cs, hcs, rfl⟩ := List.mem_map.mp hp
  rw [String.toList_ofList] at hd
  exact hlist cs hcs d hd

/-! ## ASCII case -/

/-- Below the lower-case letters only a character itself is lowered to a character. -/
theorem toAsciiLowercase_eq {c d : Char} (h : toAsciiLowercase c = d) (hd : d < 'a') : c = d := by
  unfold toAsciiLowercase at h
  split at h
  · rename_i hc
    have h1 : 65 ≤ c.toNat := hc.1
    have h2 : c.toNat ≤ 90 := hc.2
    have h3 : d.toNat < 97 := hd
    have hv : (c.toNat + 32).isValidChar := .inl (by omega)
    have h4 : (Char.ofNat (c.toNat + 32)).toNat = c.toNat + 32 := by
      rw [Char.ofNat, dif_pos hv]
      rfl
    rw [← h, h4] at h3
    omega
  · exact h

/-- A text without letters is equal only to itself. -/
theorem eqIgnoreAsciiCase_iff_eq {a b : String}
    (hb : b.toList.all fun d => toAsciiLowercase d < 'a') :
    eqIgnoreAsciiCase a b = true ↔ a = b := by
  simp only [List.all_eq_true, decide_eq_true_eq] at hb
  unfold eqIgnoreAsciiCase
  rw [beq_iff_eq, ← String.toList_inj]
  refine ⟨fun h => ?_, fun h => by rw [h]⟩
  generalize a.toList = as, b.toList = bs at h hb
  induction bs generalizing as with
  | nil => exact List.map_eq_nil_iff.mp h
  | cons d ds ih =>
    obtain ⟨c, cs, rfl, hc, hcs⟩ := List.map_eq_cons_iff.mp (h.trans List.map_cons)
    have hd := hb d List.mem_cons_self
    rw [toAsciiLowercase_eq hc hd, ← toAsciiLowercase_eq rfl hd,
      ih cs hcs fun e he => hb e (List.mem_cons_of_mem _ he)]

/-- Texts equal up to case share the characters below the lower-case letters. -/
theorem mem_of_eqIgnoreAsciiCase {a b : String} {d : Char} (h : eqIgnoreAsciiCase a b = true)
    (hd : d < 'a') (hmem : d ∈ b.toList.map toAsciiLowercase) : d ∈ a.toList := by
  unfold eqIgnoreAsciiCase at h
  rw [← beq_iff_eq.mp h] at hmem
  obtain ⟨c, hc, hcd⟩ := List.mem_map.mp hmem
  rw [← toAsciiLowercase_eq hcd hd]
  exact hc

/-! ## Bytes -/

/-- The text in UTF-8. -/
def bytes (s : String) : List UInt8 := s.toByteArray.data.toList

/-- The text that these bytes are in UTF-8, if they are one. -/
def fromUtf8 (bs : List UInt8) : Option String := String.fromUTF8? ⟨bs.toArray⟩

theorem length_bytes (s : String) : (bytes s).length = len s := rfl

theorem bytes_inj {s t : String} (h : bytes s = bytes t) : s = t :=
  String.toByteArray_inj.mp (ByteArray.ext (Array.toList_inj.mp h))

theorem fromUtf8_eq_some {bs : List UInt8} {s : String} : fromUtf8 bs = some s ↔ bytes s = bs := by
  unfold fromUtf8 String.fromUTF8?
  constructor
  · intro h
    split at h
    · cases h
      rfl
    · cases h
  · rintro rfl
    exact dif_pos s.isValidUTF8

end Lib.Text
