import MicrotunSigner.Lib.Text

/-!
# Paths of URLs

The path of a hierarchical URL as the list of its segments: `serialize` writes a `/` before each,
and splitting at `/` reads them back (`split_serialize`). `resolve` is the path state of a URL
parser: it appends the segments of a reference to a path, and removes the dot segments. Only a
reference with a dot segment is not appended as it is (`resolve_ordinary`).

`routeParam`: the parameter of a route that ends in one, `stem{param}`.
-/

namespace Lib.UrlPath

open Lib.Text

/-- A `.` segment, its dot percent-encoded or not. -/
def isSingleDot (segment : String) : Bool :=
  eqIgnoreAsciiCase segment "." || eqIgnoreAsciiCase segment "%2e"

/-- A `..` segment, its dots percent-encoded or not. -/
def isDoubleDot (segment : String) : Bool :=
  eqIgnoreAsciiCase segment ".." || eqIgnoreAsciiCase segment ".%2e" ||
    eqIgnoreAsciiCase segment "%2e." || eqIgnoreAsciiCase segment "%2e%2e"

/-- Not a dot segment. -/
def Ordinary (segment : String) : Prop :=
  isSingleDot segment = false ∧ isDoubleDot segment = false

instance (segment : String) : Decidable (Ordinary segment) := inferInstanceAs (Decidable (_ ∧ _))

/-- Append the segments of a reference to the path `out`. A dot segment at the end leaves an empty
segment. -/
def resolve (out : List String) : List String → List String
  | [] => out
  | [segment] =>
    if isDoubleDot segment then out.dropLast ++ [""]
    else if isSingleDot segment then out ++ [""]
    else out ++ [segment]
  | segment :: rest =>
    if isDoubleDot segment then resolve out.dropLast rest
    else if isSingleDot segment then resolve out rest
    else resolve (out ++ [segment]) rest

/-- A path as text. -/
def serialize : List String → String
  | [] => ""
  | segment :: rest => "/" ++ segment ++ serialize rest

/-- Segments as a parsed path has them, of the characters `p`. -/
structure Normal (p : Char → Bool) (segments : List String) : Prop where
  ne_nil : segments ≠ []
  ordinary : ∀ segment ∈ segments, Ordinary segment
  chars : ∀ segment ∈ segments, ∀ c ∈ segment.toList, p c = true

/-- The parameter of the route `stem{param}` in `path`: one segment, not empty. -/
def routeParam (stem path : String) : Option String :=
  (stripPrefix path stem).filter fun param => !isEmpty param && all param (· != '/')

section Paths

variable {p : Char → Bool} {out segments : List String} {segment a b : String}

theorem ordinary_empty : Ordinary "" := by decide

/-- Without percent-encoding there are two dot segments. -/
theorem isSingleDot_iff (h : '%' ∉ segment.toList) : isSingleDot segment = true ↔ segment = "." := by
  have henc : eqIgnoreAsciiCase segment "%2e" = false := eq_false_of_ne_true fun he =>
    h (mem_of_eqIgnoreAsciiCase he (by decide) (by decide))
  unfold isSingleDot
  rw [henc, Bool.or_false]
  exact eqIgnoreAsciiCase_iff_eq (by decide)

theorem isDoubleDot_iff (h : '%' ∉ segment.toList) :
    isDoubleDot segment = true ↔ segment = ".." := by
  have henc : ∀ b, '%' ∈ b.toList.map toAsciiLowercase → eqIgnoreAsciiCase segment b = false :=
    fun b hb => eq_false_of_ne_true fun he => h (mem_of_eqIgnoreAsciiCase he (by decide) hb)
  unfold isDoubleDot
  rw [henc ".%2e" (by decide), henc "%2e." (by decide), henc "%2e%2e" (by decide), Bool.or_false,
    Bool.or_false, Bool.or_false]
  exact eqIgnoreAsciiCase_iff_eq (by decide)

/-- A reference without dot segments is appended as it is. -/
theorem resolve_ordinary (h : ∀ segment ∈ segments, Ordinary segment) :
    resolve out segments = out ++ segments := by
  induction segments generalizing out with
  | nil => rw [resolve, List.append_nil]
  | cons segment rest ih =>
    obtain ⟨h1, h2⟩ := h segment List.mem_cons_self
    cases rest with
    | nil => rw [resolve, h1, h2, if_neg Bool.false_ne_true, if_neg Bool.false_ne_true]
    | cons next rest =>
      rw [resolve, h1, h2, if_neg Bool.false_ne_true, if_neg Bool.false_ne_true,
        ih fun s hs => h s (List.mem_cons_of_mem _ hs), List.append_assoc, List.singleton_append]
      simp

/-- Segments that are appended first make no difference, if they are ordinary. -/
theorem resolve_cons (h : Ordinary segment) (hne : segments ≠ []) :
    resolve out (segment :: segments) = resolve (out ++ [segment]) segments := by
  obtain ⟨h1, h2⟩ := h
  cases segments with
  | nil => exact absurd rfl hne
  | cons next rest =>
    rw [resolve, h1, h2, if_neg Bool.false_ne_true, if_neg Bool.false_ne_true]
    simp

/-- Ordinary segments and one more, without percent-encoding: where a path state leads. -/
theorem resolve_snoc {last : String} (h : ∀ segment ∈ segments, Ordinary segment)
    (hl : '%' ∉ last.toList) : resolve out (segments ++ [last]) =
      if last = ".." then (out ++ segments).dropLast ++ [""]
      else if last = "." then out ++ segments ++ [""]
      else out ++ segments ++ [last] := by
  induction segments generalizing out with
  | nil =>
    rw [List.nil_append, resolve, List.append_nil]
    simp only [isSingleDot_iff hl, isDoubleDot_iff hl]
  | cons segment rest ih =>
    rw [List.cons_append, resolve_cons (h segment List.mem_cons_self) (by simp),
      ih fun s hs => h s (List.mem_cons_of_mem _ hs)]
    simp only [List.append_assoc, List.singleton_append]

theorem serialize_append (out segments : List String) :
    serialize (out ++ segments) = serialize out ++ serialize segments := by
  induction out with
  | nil => simp [serialize]
  | cons segment out ih => rw [List.cons_append, serialize, serialize, ih, ← String.append_assoc]

theorem split_slash (a b : String) : split '/' (a ++ "/" ++ b) = split '/' a ++ split '/' b := by
  unfold split
  rw [String.toList_append, String.toList_append, List.append_assoc]
  have h : "/".toList ++ b.toList = '/' :: b.toList := rfl
  rw [h, List.splitOn_append_cons_self, List.map_append]

/-- The characters of a path. -/
theorem mem_serialize {c : Char} (h : c ∈ (serialize segments).toList) :
    c = '/' ∨ ∃ segment ∈ segments, c ∈ segment.toList := by
  induction segments with
  | nil => cases h
  | cons segment rest ih =>
    rw [serialize, String.toList_append, String.toList_append, List.mem_append, List.mem_append] at h
    rcases h with (h | h) | h
    · exact .inl (List.mem_singleton.mp h)
    · exact .inr ⟨segment, List.mem_cons_self, h⟩
    · exact (ih h).imp_right fun ⟨s, hs, hc⟩ => ⟨s, List.mem_cons_of_mem _ hs, hc⟩

/-- A path that ends in `/` has an empty last segment. -/
theorem eq_snoc_of_endsWith (hne : segments ≠ []) (h : ∀ segment ∈ segments, '/' ∉ segment.toList)
    (he : endsWith (serialize segments) "/" = true) : ∃ out, segments = out ++ [""] := by
  obtain rfl | ⟨out, last, rfl⟩ := List.eq_nil_or_concat segments
  · exact absurd rfl hne
  refine ⟨out, ?_⟩
  by_cases hlast : last = ""
  · rw [hlast, List.concat_eq_append]
  exfalso
  have hlist : last.toList ≠ [] := fun hn => hlast (String.toList_eq_nil_iff.mp hn)
  unfold endsWith at he
  obtain ⟨t, ht⟩ := List.isSuffixOf_iff_suffix.mp he
  have hend : (serialize (out.concat last)).toList.getLast? = some '/' := by
    rw [← ht]
    exact List.getLast?_concat
  rw [List.concat_eq_append, serialize_append, serialize, serialize, String.append_empty,
    String.toList_append, String.toList_append, List.getLast?_append_of_ne_nil _ (by simp),
    List.getLast?_append_of_ne_nil _ hlist] at hend
  exact h last (by simp) (List.mem_of_getLast? hend)

/-- Reading a path back. -/
theorem split_serialize (ha : '/' ∉ a.toList) (h : ∀ segment ∈ segments, '/' ∉ segment.toList) :
    split '/' (a ++ serialize segments) = a :: segments := by
  induction segments generalizing a with
  | nil => rw [serialize, String.append_empty, split_of_not_mem ha]
  | cons segment rest ih =>
    rw [serialize, ← String.append_assoc, ← String.append_assoc, String.append_assoc, split_slash,
      split_of_not_mem ha, ih (h segment List.mem_cons_self)
        fun s hs => h s (List.mem_cons_of_mem _ hs)]
    rfl

theorem routeParam_append {stem param : String} (hne : param ≠ "") (hs : '/' ∉ param.toList) :
    routeParam stem (stem ++ param) = some param := by
  unfold routeParam
  rw [stripPrefix_append, Option.filter_some, if_pos]
  rw [isEmpty_eq_false.mpr hne, Bool.not_false, Bool.true_and]
  exact List.all_eq_true.mpr fun c hc => bne_iff_ne.mpr fun he => hs (he ▸ hc)

/-- A path with one more segment. -/
theorem normal_snoc (ho : ∀ s ∈ out, Ordinary s ∧ ∀ c ∈ s.toList, p c = true)
    (hs : Ordinary segment) (hc : ∀ c ∈ segment.toList, p c = true) :
    Normal p (out ++ [segment]) := by
  have hall : ∀ s ∈ out ++ [segment], Ordinary s ∧ ∀ c ∈ s.toList, p c = true := fun s hm => by
    rcases List.mem_append.mp hm with hm | hm
    · exact ho s hm
    · rw [List.mem_singleton.mp hm]
      exact ⟨hs, hc⟩
  exact ⟨by simp, fun s hm => (hall s hm).1, fun s hm => (hall s hm).2⟩

/-- What a path state appends is normal. -/
theorem normal_resolve (hne : segments ≠ [])
    (ho : ∀ s ∈ out, Ordinary s ∧ ∀ c ∈ s.toList, p c = true)
    (hs : ∀ s ∈ segments, ∀ c ∈ s.toList, p c = true) : Normal p (resolve out segments) := by
  have hdrop : ∀ {out : List String}, (∀ s ∈ out, Ordinary s ∧ ∀ c ∈ s.toList, p c = true) →
      ∀ s ∈ out.dropLast, Ordinary s ∧ ∀ c ∈ s.toList, p c = true :=
    fun ho s hm => ho s ((List.dropLast_sublist _).subset hm)
  fun_induction resolve out segments with
  | case1 => exact absurd rfl hne
  | case2 out segment => exact normal_snoc (hdrop ho) ordinary_empty (by simp)
  | case3 out segment => exact normal_snoc ho ordinary_empty (by simp)
  | case4 out segment h1 h2 =>
    exact normal_snoc ho ⟨eq_false_of_ne_true h2, eq_false_of_ne_true h1⟩
      (hs segment List.mem_cons_self)
  | case5 out segment rest hrest h1 ih =>
    exact ih hrest (hdrop ho) fun s hm => hs s (List.mem_cons_of_mem _ hm)
  | case6 out segment rest hrest h1 h2 ih =>
    exact ih hrest ho fun s hm => hs s (List.mem_cons_of_mem _ hm)
  | case7 out segment rest hrest h1 h2 ih =>
    have hnew : Normal p (out ++ [segment]) :=
      normal_snoc ho ⟨eq_false_of_ne_true h2, eq_false_of_ne_true h1⟩ (hs segment List.mem_cons_self)
    exact ih hrest (fun s hm => ⟨hnew.ordinary s hm, hnew.chars s hm⟩)
      fun s hm => hs s (List.mem_cons_of_mem _ hm)

end Paths

end Lib.UrlPath
