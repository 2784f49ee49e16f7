import MicrotunSigner.Auth.JwksSteps
import MicrotunSigner.Config.Accepted

/-!
# Runs of the key lookups (`auth.rs`)

The cache of keys is what was fetched last (`JwksInv.keys`), at most one fetch is in progress,
because who fetches has the lock (`JwksInv.holder`), and fetches are an interval apart.
`jwks_cache_safe` says what this means for the callers of `jwk_for`.
-/

namespace MicrotunSigner

open Lib Lib.Text

variable {actions : GithubActionsConfig} {fromSlice : List UInt8 → Option JwksDocument}

/-! ## What a run shows -/

/-- The time recorded for the attempt, where a fetch starts. -/
def attemptedAt (s' : JwksShared) : JwksIn → JwksPc → List Int
  | .attempt _, .fetching _ => s'.cache.lastAttempt.toList
  | _, _ => []

/-- The time recorded for the fetch and what was fetched, where a document is installed. -/
def installedAt (s' : JwksShared) : JwksPc → JwksIn → List (Int × Option JwksResponse)
  | .installing _ reply _, .go => (s'.cache.fetchedAt.map fun at_ => (at_, reply)).toList
  | _, _ => []

def attemptOf (_ : JwksSt) (a : JwksAct) (u : JwksSt) : List Int :=
  match a with
  | .call c input => attemptedAt u.shared input (u.calls c)
  | _ => []

def fetchOf (t : JwksSt) (a : JwksAct) (u : JwksSt) : List (Int × Option JwksResponse) :=
  match a with
  | .call c input => installedAt u.shared (t.calls c) input
  | _ => []

/-- The attempts of a run, oldest first. -/
def attempts (actions : GithubActionsConfig) (fromSlice : List UInt8 → Option JwksDocument)
    (s : JwksSt) (as : List JwksAct) : List Int :=
  (jwksSys actions fromSlice).trace attemptOf s as

/-- The successful fetches of a run, oldest first. -/
def fetches (actions : GithubActionsConfig) (fromSlice : List UInt8 → Option JwksDocument)
    (s : JwksSt) (as : List JwksAct) : List (Int × Option JwksResponse) :=
  (jwksSys actions fromSlice).trace fetchOf s as

section Events

variable {c : Nat} {s s' : JwksShared} {pc pc' : JwksPc} {input : JwksIn}
  (hs : JwksStep actions fromSlice c s pc input s' pc')
include hs

/-- A step attempts a fetch, an interval after the last one, or leaves the last attempt as it is. -/
theorem JwksStep.attempt_cases :
    attemptedAt s' input pc' = [] ∧ s'.cache.lastAttempt = s.cache.lastAttempt ∨
    ∃ b, attemptedAt s' input pc' = [b] ∧ s'.cache.lastAttempt = some b ∧
      ∀ a, s.cache.lastAttempt = some a → a + jwksMinRefreshInterval ≤ b := by
  cases hs with
  | attempt kid d hallowed =>
    refine .inr ⟨s.now + d, rfl, rfl, fun a ha => ?_⟩
    have hle := hallowed a ha
    omega
  | hit | miss | lock | found | notFound | throttled | fetched | failed | install | answer | drop
  | leave | cancel => exact .inl ⟨rfl, rfl⟩

/-- A step installs the keys of a fetch, or leaves the keys and their time as they are. -/
theorem JwksStep.install_cases :
    installedAt s' pc input = [] ∧ s'.cache.fetchedAt = s.cache.fetchedAt ∧
      s'.cache.keys = s.cache.keys ∨
    ∃ kid reply keys, pc = .installing kid reply keys ∧ input = .go ∧
      installedAt s' pc input = [(s.now, reply)] ∧
      s'.cache.fetchedAt = some s.now ∧ s'.cache.keys = keys := by
  cases hs with
  | install kid reply keys => exact .inr ⟨kid, reply, keys, rfl, rfl, rfl, rfl, rfl⟩
  | leave pc kid ha | cancel pc kid ha =>
    refine .inl ⟨?_, rfl, rfl⟩
    cases pc <;> rfl
  | hit | miss | lock | found | notFound | attempt | throttled | fetched | failed | answer | drop =>
    exact .inl ⟨rfl, rfl, rfl⟩

/-- What waits to be installed was fetched. -/
theorem JwksStep.pending {kid : String} {reply : Option JwksResponse} {keys : Map String RsaJwk}
    (h : pc' = .installing kid reply keys) : fetchJwks fromSlice reply = .ok keys := by
  cases hs with
  | fetched kid reply keys hok =>
    cases h
    exact hok
  | hit | miss | lock | found | notFound | attempt | throttled | failed | install | answer | drop
  | leave | cancel => cases h

end Events

/-! ## The invariant -/

/-- What holds in every run, of its attempts and of its successful fetches. -/
structure JwksInv (fromSlice : List UInt8 → Option JwksDocument) (attempts : List Int)
    (fetches : List (Int × Option JwksResponse)) (t : JwksSt) : Prop where
  /-- Who is past the lock of the refreshes has it. -/
  holder : ∀ c, (t.calls c).holds = true → t.shared.holder = some c
  spaced : attempts.Pairwise fun (a b : Int) => a + jwksMinRefreshInterval ≤ b
  last : ∀ a ∈ attempts, ∃ b, t.shared.cache.lastAttempt = some b ∧ a ≤ b
  /-- The cache is what was fetched last. -/
  fetchedAt : t.shared.cache.fetchedAt = fetches.getLast?.map Prod.fst
  keys : ∀ at_ reply, fetches.getLast? = some (at_, reply) →
    fetchJwks fromSlice reply = .ok t.shared.cache.keys
  pending : ∀ c kid reply keys, t.calls c = .installing kid reply keys →
    fetchJwks fromSlice reply = .ok keys

/-- **One step of a call.** -/
theorem JwksInv.call {attempts : List Int} {fetches : List (Int × Option JwksResponse)} {t : JwksSt}
    (h : JwksInv fromSlice attempts fetches t) {c : Nat} {input : JwksIn} {shared : JwksShared}
    {pc : JwksPc} (hs : JwksStep actions fromSlice c t.shared (t.calls c) input shared pc) :
    JwksInv fromSlice (attempts ++ attemptedAt shared input pc)
      (fetches ++ installedAt shared (t.calls c) input)
      ⟨shared, Function.update t.calls c pc⟩ := by
  obtain ⟨hself, hother⟩ := hs.holder (h.holder c)
  have hcalls := update_cases t.calls c pc
  constructor
  case holder =>
    intro d hd
    have hd : (Function.update t.calls c pc d).holds = true := hd
    rcases hcalls d with ⟨rfl, he⟩ | ⟨hdc, he⟩
    · rw [he] at hd
      exact hself hd
    · rw [he] at hd
      exact hother d hdc (h.holder d hd)
  case spaced =>
    rcases hs.attempt_cases with ⟨hnil, -⟩ | ⟨b, he, -, hgap⟩
    · rw [hnil, List.append_nil]
      exact h.spaced
    · rw [he, List.pairwise_append]
      refine ⟨h.spaced, List.pairwise_singleton _ _, fun a ha b' hb' => ?_⟩
      obtain ⟨l, hl, hle⟩ := h.last a ha
      have hgap' := hgap l hl
      rw [List.mem_singleton.mp hb']
      omega
  case last =>
    intro a ha
    rcases hs.attempt_cases with ⟨hnil, hsame⟩ | ⟨b, he, hlast, hgap⟩
    · rw [hnil, List.append_nil] at ha
      obtain ⟨l, hl, hle⟩ := h.last a ha
      exact ⟨l, hsame.trans hl, hle⟩
    · rw [he, List.mem_append, List.mem_singleton] at ha
      rcases ha with ha | rfl
      · obtain ⟨l, hl, hle⟩ := h.last a ha
        have hgap' := hgap l hl
        exact ⟨b, hlast, by omega⟩
      · exact ⟨a, hlast, le_refl _⟩
  case fetchedAt =>
    rcases hs.install_cases with ⟨hnil, hsame, -⟩ | ⟨kid, reply, keys, -, -, he, hat, -⟩
    · rw [hnil, List.append_nil]
      exact hsame.trans h.fetchedAt
    · rw [he, List.getLast?_append]
      exact hat
  case keys =>
    intro at_ reply hlast
    show fetchJwks fromSlice reply = .ok shared.cache.keys
    rcases hs.install_cases with ⟨hnil, -, hsame⟩ | ⟨kid, reply', keys, hcall, -, he, -, hkeys⟩
    · rw [hnil, List.append_nil] at hlast
      rw [hsame]
      exact h.keys at_ reply hlast
    · rw [he, List.getLast?_append] at hlast
      cases hlast
      rw [hkeys]
      exact h.pending c kid reply keys hcall
  case pending =>
    intro d kid reply keys hd
    have hd : Function.update t.calls c pc d = .installing kid reply keys := hd
    rcases hcalls d with ⟨-, he⟩ | ⟨-, he⟩
    · exact hs.pending (he.symm.trans hd)
    · exact h.pending d kid reply keys (he.symm.trans hd)

/-- A call that starts has no part in the cache. -/
theorem JwksInv.start {attempts : List Int} {fetches : List (Int × Option JwksResponse)} {t : JwksSt}
    (h : JwksInv fromSlice attempts fetches t) (c : Nat) (kid : String) :
    JwksInv fromSlice attempts fetches
      { t with calls := Function.update t.calls c (.entered kid) } := by
  have hcalls := update_cases t.calls c (.entered kid)
  refine { h with
    holder := fun d hd => ?_
    pending := fun d kid' reply keys hd => ?_ }
  · have hd : (Function.update t.calls c (.entered kid) d).holds = true := hd
    rcases hcalls d with ⟨-, he⟩ | ⟨-, he⟩
    · rw [he] at hd
      cases hd
    · rw [he] at hd
      exact h.holder d hd
  · have hd : Function.update t.calls c (.entered kid) d = .installing kid' reply keys := hd
    rcases hcalls d with ⟨-, he⟩ | ⟨-, he⟩
    · rw [he] at hd
      cases hd
    · exact h.pending d kid' reply keys (he.symm.trans hd)

variable {t u v w : JwksSt} {a : JwksAct} {as bs : List JwksAct} {now₀ : Int}

/-- **The invariant holds in every run.** -/
theorem run_jwksInv (hrun : (jwksSys actions fromSlice).run (.new now₀) as = some t) :
    JwksInv fromSlice (attempts actions fromSlice (.new now₀) as)
      (fetches actions fromSlice (.new now₀) as) t := by
  refine Sys.run_induction (P := fun as t => JwksInv fromSlice
    (attempts actions fromSlice (.new now₀) as) (fetches actions fromSlice (.new now₀) as) t)
    ?_ ?_ as t hrun
  · exact ⟨fun c hc => (nomatch hc), .nil, fun a ha => (nomatch ha), rfl,
      fun at_ reply hl => (nomatch hl), fun c kid reply keys hc => (nomatch hc)⟩
  · intro as t a u ht ih hu
    have hatt : attempts actions fromSlice (.new now₀) (as ++ [a]) =
        attempts actions fromSlice (.new now₀) as ++ attemptOf t a u := Sys.trace_snoc ht hu
    have hfet : fetches actions fromSlice (.new now₀) (as ++ [a]) =
        fetches actions fromSlice (.new now₀) as ++ fetchOf t a u := Sys.trace_snoc ht hu
    rw [hatt, hfet]
    rcases jwks_cases hu with
      ⟨c, kid, rfl, hidle, rfl⟩ | ⟨c, input, shared, pc, rfl, hs, rfl⟩ | ⟨d, rfl, rfl⟩
    · show JwksInv _ (_ ++ []) (_ ++ []) _
      rw [List.append_nil, List.append_nil]
      exact ih.start c kid
    · have hpc : attemptOf t (.call c input) ⟨shared, Function.update t.calls c pc⟩ =
          attemptedAt shared input pc := by
        show attemptedAt shared input (Function.update t.calls c pc c) = _
        rw [Function.update_self]
      rw [hpc]
      exact ih.call hs
    · show JwksInv _ (_ ++ []) (_ ++ []) _
      rw [List.append_nil, List.append_nil]
      exact { ih with }

/-! ## One fetch at a time -/

theorem JwksPc.holds_of_fetches {pc : JwksPc} (h : pc.fetches = true) : pc.holds = true := by
  cases pc with
  | fetching | installing => rfl
  | idle | entered | missed | locked | attempting | reading | dropping | done => cases h

theorem JwksInv.one_fetch {attempts : List Int} {fetches : List (Int × Option JwksResponse)}
    (h : JwksInv fromSlice attempts fetches t) {c d : Nat} (hc : (t.calls c).fetches = true)
    (hd : (t.calls d).fetches = true) : c = d := by
  have hholder := h.holder c (JwksPc.holds_of_fetches hc)
  rw [h.holder d (JwksPc.holds_of_fetches hd)] at hholder
  exact (Option.some.inj hholder).symm

/-- A call decides about an attempt once. -/
theorem JwksStep.decided {c : Nat} {s s' : JwksShared} {pc pc' : JwksPc} {input : JwksIn}
    (hs : JwksStep actions fromSlice c s pc input s' pc') (h : pc.decided = true) :
    pc'.decided = true ∧ (pc'.fetches = true → pc.fetches = true) := by
  cases hs with
  | hit | miss | lock | found | notFound | attempt | throttled => cases h
  | fetched | failed | install => exact ⟨rfl, fun _ => rfl⟩
  | answer | drop | leave | cancel => exact ⟨rfl, fun hf => (nomatch hf)⟩

/-- **A fetch changes nothing until its document is installed**, and nobody else changes anything
meanwhile. -/
theorem fetch_keeps {c : Nat} (hrun : (jwksSys actions fromSlice).run (.new now₀) as = some t)
    (hc : (t.calls c).fetches = true) (hlater : (jwksSys actions fromSlice).run t bs = some v)
    (hv : (v.calls c).fetches = true) :
    v.shared.cache.keys = t.shared.cache.keys ∧
      v.shared.cache.fetchedAt = t.shared.cache.fetchedAt := by
  have hdecided : (t.calls c).decided = true := by
    revert hc
    cases t.calls c with
    | fetching | installing => exact fun _ => rfl
    | idle | entered | missed | locked | attempting | reading | dropping | done =>
      intro hc
      cases hc
  suffices h : (v.calls c).decided = true ∧ ((v.calls c).fetches = true →
      v.shared.cache.keys = t.shared.cache.keys ∧
        v.shared.cache.fetchedAt = t.shared.cache.fetchedAt) from h.2 hv
  refine Sys.run_induction (P := fun _ v => (v.calls c).decided = true ∧
    ((v.calls c).fetches = true → v.shared.cache.keys = t.shared.cache.keys ∧
      v.shared.cache.fetchedAt = t.shared.cache.fetchedAt))
    ⟨hdecided, fun _ => ⟨rfl, rfl⟩⟩ ?_ bs v hlater
  rintro bs v a u hv ⟨hdecided, ih⟩ hu
  have hvnew : (jwksSys actions fromSlice).run (.new now₀) (as ++ bs) = some v := by
    rw [Sys.run_append, hrun]
    exact hv
  rcases jwks_cases hu with
    ⟨d, kid, rfl, hidle, rfl⟩ | ⟨d, input, shared, pc, rfl, hs, rfl⟩ | ⟨d, rfl, rfl⟩
  · have hcd : c ≠ d := by
      rintro rfl
      rw [hidle] at hdecided
      cases hdecided
    have hsame : Function.update v.calls d (.entered kid) c = v.calls c :=
      Function.update_of_ne hcd _ _
    show (Function.update v.calls d (.entered kid) c).decided = true ∧ _
    refine ⟨by rw [hsame]; exact hdecided, fun hf => ih ?_⟩
    rw [← hsame]
    exact hf
  · by_cases hcd : c = d
    · subst hcd
      obtain ⟨hdec, hback⟩ := hs.decided hdecided
      have hpc : Function.update v.calls c pc c = pc := Function.update_self _ _ _
      refine ⟨by show (Function.update v.calls c pc c).decided = true; rw [hpc]; exact hdec, fun hf => ?_⟩
      have hfetches : pc.fetches = true := hpc ▸ hf
      obtain ⟨hkeys, hat⟩ := ih (hback hfetches)
      rcases hs.install_cases with ⟨-, hat', hkeys'⟩ | ⟨kid, reply, keys, hcall, rfl, -⟩
      · exact ⟨hkeys'.trans hkeys, hat'.trans hat⟩
      · rw [hcall] at hs
        cases hs
        cases hfetches
    · have hsame : Function.update v.calls d pc c = v.calls c := Function.update_of_ne hcd _ _
      refine ⟨by show (Function.update v.calls d pc c).decided = true; rw [hsame]; exact hdecided,
        fun hf => ?_⟩
      have hf : (v.calls c).fetches = true := hsame ▸ hf
      obtain ⟨hkeys, hat⟩ := ih hf
      rcases hs.install_cases with ⟨-, hat', hkeys'⟩ | ⟨kid, reply, keys, hcall, -⟩
      · exact ⟨hkeys'.trans hkeys, hat'.trans hat⟩
      · have hd : (v.calls d).fetches = true := by rw [hcall]; rfl
        exact absurd ((run_jwksInv hvnew).one_fetch hf hd) hcd
  · exact ⟨hdecided, ih⟩

/-! ## The answers -/

/-- The step gives the call `c`, which waits for the key `kid`, its result. -/
def Answers (c : Nat) (kid : String) (result : Except AuthError RsaJwk) (t u : JwksSt) : Prop :=
  (t.calls c).awaits = some kid ∧ (u.calls c).result? = some (kid, result)

theorem answers_cases {c : Nat} {kid : String} {result : Except AuthError RsaJwk}
    (hu : (jwksSys actions fromSlice).step t a = some u) (h : Answers c kid result t u) :
    (∃ key, result = .ok key ∧
      t.shared.cache.cachedJwk t.shared.now kid (jwksTtl actions) = some key) ∨
    t.calls c = .reading kid ∧
      result = t.shared.cache.jwk t.shared.now kid (jwksTtl actions) := by
  obtain ⟨hawaits, hresult⟩ := h
  have hbefore : (t.calls c).result? = none := by
    revert hawaits
    cases t.calls c with
    | idle | dropping | done => intro h; cases h
    | entered | missed | locked | attempting | fetching | installing | reading => exact fun _ => rfl
  have hmoved : (u.calls c).result? ≠ (t.calls c).result? := by
    rw [hresult, hbefore]
    exact Option.some_ne_none _
  rcases jwks_cases hu with
    ⟨d, kid', rfl, hidle, rfl⟩ | ⟨d, input, shared, pc, rfl, hs, rfl⟩ | ⟨d, rfl, rfl⟩
  · by_cases hcd : c = d
    · subst hcd
      rw [hidle] at hawaits
      cases hawaits
    · exact absurd (congrArg JwksPc.result? (Function.update_of_ne hcd _ _)) hmoved
  · by_cases hcd : c = d
    · subst hcd
      have hresult : (Function.update t.calls c pc c).result? = _ := hresult
      rw [Function.update_self] at hresult
      exact hs.result hbefore hresult
    · exact absurd (congrArg JwksPc.result? (Function.update_of_ne hcd _ _)) hmoved
  · exact absurd rfl hmoved

variable (actions fromSlice) in
/-- What the lookups of keys guarantee in the state `t` after the run `as`. -/
structure JwksSafe (now₀ : Int) (as : List JwksAct) (t : JwksSt) : Prop where
  one_fetch : ∀ c d, (t.calls c).fetches = true → (t.calls d).fetches = true → c = d
  spaced : (attempts actions fromSlice (.new now₀) as).Pairwise
    fun (a b : Int) => a + jwksMinRefreshInterval ≤ b
  /-- A key that is returned is the one of this name in the document that was fetched last, and that
  was fetched recently enough. -/
  key : ∀ a u c kid key, (jwksSys actions fromSlice).step t a = some u →
    Answers c kid (.ok key) t u → ∃ at_ reply document,
      (fetches actions fromSlice (.new now₀) as).getLast? = some (at_, reply) ∧
      fetchDocument fromSlice reply = .ok document ∧
      document.keys.reverse.find? (fun k => k.usable && k.kid == kid) = some key ∧
      key ∈ document.keys ∧ key.kid = kid ∧ kid ≠ "" ∧ key.kty = "RSA" ∧
      (key.alg = none ∨ key.alg = some "RS256") ∧ (key.use_ = none ∨ key.use_ = some "sig") ∧
      t.shared.now < at_ + jwksTtl actions + jwksMaxStaleness
  /-- A key that the last document does not have is gone. -/
  dropped : ∀ at_ reply document kid,
    (fetches actions fromSlice (.new now₀) as).getLast? = some (at_, reply) →
    fetchDocument fromSlice reply = .ok document → (∀ key ∈ document.keys, key.kid ≠ kid) →
    ∀ a u c key, (jwksSys actions fromSlice).step t a = some u → ¬ Answers c kid (.ok key) t u
  /-- During a fetch nothing changes, and a fetch that fails or is cancelled changes nothing. -/
  unchanged : ∀ c bs v, (t.calls c).fetches = true →
    (jwksSys actions fromSlice).run t bs = some v → (v.calls c).fetches = true →
    ∀ a w, (jwksSys actions fromSlice).step v a = some w →
      (a = .call c .cancel ∨
        ∃ reply e, a = .call c (.reply reply) ∧ fetchJwks fromSlice reply = .error e) →
      w.shared.cache.keys = t.shared.cache.keys ∧
        w.shared.cache.fetchedAt = t.shared.cache.fetchedAt
  /-- A name that a usable key set does not have is the token's fault. -/
  invalidToken : ∀ u c kid, t.calls c = .reading kid →
    (jwksSys actions fromSlice).step t (.call c .go) = some u →
    t.shared.cache.Usable t.shared.now (jwksTtl actions) →
    t.shared.cache.keys.lookup kid = none → Answers c kid (.error .invalidToken) t u
  error : ∀ a u c kid e, (jwksSys actions fromSlice).step t a = some u →
    Answers c kid (.error e) t u →
    e = .keyDiscovery ∧ ¬ t.shared.cache.Usable t.shared.now (jwksTtl actions) ∨
    e = .invalidToken ∧ t.shared.cache.Usable t.shared.now (jwksTtl actions) ∧
      t.shared.cache.keys.lookup kid = none

/-- A returned key is in the cache, and the cache is recent enough. -/
theorem answers_key {c : Nat} {kid : String} {key : RsaJwk}
    (hu : (jwksSys actions fromSlice).step t a = some u) (h : Answers c kid (.ok key) t u) :
    ∃ at_, t.shared.cache.fetchedAt = some at_ ∧ t.shared.cache.keys.lookup kid = some key ∧
      t.shared.now < at_ + jwksTtl actions + jwksMaxStaleness := by
  rcases answers_cases hu h with ⟨key', he, hc⟩ | ⟨-, he⟩
  · cases he
    obtain ⟨at_, hat, hlt, hkey⟩ := JwksCache.cachedJwk_eq_some hc
    exact ⟨at_, hat, hkey, by omega⟩
  · obtain ⟨⟨at_, hat, hlt⟩, hkey⟩ := JwksCache.jwk_eq_ok.mp he.symm
    have hle := Duration.saturatingAdd_le (jwksTtl actions) jwksMaxStaleness
    exact ⟨at_, hat, hkey, by omega⟩

/-- **The cache of keys is safe**, in every interleaving and whatever the fetches give. -/
theorem jwks_cache_safe (hrun : (jwksSys actions fromSlice).run (.new now₀) as = some t) :
    JwksSafe actions fromSlice now₀ as t := by
  have hinv := run_jwksInv hrun
  have hkey : ∀ a u c kid key, (jwksSys actions fromSlice).step t a = some u →
      Answers c kid (.ok key) t u → ∃ at_ reply document,
        (fetches actions fromSlice (.new now₀) as).getLast? = some (at_, reply) ∧
        fetchDocument fromSlice reply = .ok document ∧
        document.usableKeys.lookup kid = some key ∧
        t.shared.now < at_ + jwksTtl actions + jwksMaxStaleness := by
    intro a u c kid key hu h
    obtain ⟨at_, hat, hlook, hlt⟩ := answers_key hu h
    rw [hinv.fetchedAt, Option.map_eq_some_iff] at hat
    obtain ⟨⟨at', reply⟩, hlast, rfl⟩ := hat
    obtain ⟨document, hdoc, hkeys⟩ := fetchJwks_ok (hinv.keys at' reply hlast)
    exact ⟨at', reply, document, hlast, hdoc, hkeys ▸ hlook, hlt⟩
  constructor
  case one_fetch => exact fun c d hc hd => hinv.one_fetch hc hd
  case spaced => exact hinv.spaced
  case key =>
    intro a u c kid key hu h
    obtain ⟨at_, reply, document, hlast, hdoc, hlook, hlt⟩ := hkey a u c kid key hu h
    obtain ⟨hmem, hkid, husable⟩ := JwksDocument.mem_of_lookup hlook
    obtain ⟨hkty, halg, huse, hname⟩ := RsaJwk.usable_iff.mp husable
    rw [JwksDocument.lookup_usableKeys] at hlook
    exact ⟨at_, reply, document, hlast, hdoc, hlook, hmem, hkid, hkid ▸ hname, hkty, halg, huse, hlt⟩
  case dropped =>
    intro at_ reply document kid hlast hdoc hno a u c key hu h
    obtain ⟨at', reply', document', hlast', hdoc', hlook, -⟩ := hkey a u c kid key hu h
    rw [hlast] at hlast'
    cases hlast'
    rw [hdoc] at hdoc'
    cases hdoc'
    obtain ⟨hmem, hkid, -⟩ := JwksDocument.mem_of_lookup hlook
    exact hno key hmem hkid
  case unchanged =>
    intro c bs v hc hv hvc a w hw hend
    obtain ⟨hkeys, hat⟩ := fetch_keeps hrun hc hv hvc
    suffices h : w.shared.cache = v.shared.cache by
      rw [h]
      exact ⟨hkeys, hat⟩
    rcases jwks_cases hw with
      ⟨d, kid, rfl, -, rfl⟩ | ⟨d, input, shared, pc, rfl, hs, rfl⟩ | ⟨d, rfl, rfl⟩
    · rfl
    · generalize v.calls d = pc₀ at hs
      rcases hend with he | ⟨reply, e, he, herror⟩
      · cases he
        cases hs <;> rfl
      · cases he
        cases hs <;> rfl
    · rfl
  case invalidToken =>
    intro u c kid hpc hu husable hnone
    obtain ⟨⟨shared, pc⟩, hs, rfl⟩ := Option.map_eq_some_iff.mp hu
    rw [hpc] at hs
    cases hs
    refine ⟨by rw [hpc]; rfl, ?_⟩
    show (Function.update t.calls c _ c).result? = _
    rw [Function.update_self]
    exact congrArg (fun r => some (kid, r)) (JwksCache.jwk_eq_error.mpr (.inr ⟨rfl, husable, hnone⟩))
  case error =>
    intro a u c kid e hu h
    rcases answers_cases hu h with ⟨key, he, -⟩ | ⟨-, he⟩
    · cases he
    · exact JwksCache.jwk_eq_error.mp he.symm

/-! ## An example document -/

def exampleJwk : RsaJwk := ⟨"RSA", "kid", none, "AQAB", "AQAB", none⟩

/-- The bytes of a document with this key. -/
def exampleJwksBody : List UInt8 :=
  "\x7b\"keys\":[\x7b\"kty\":\"RSA\",\"kid\":\"kid\",\"n\":\"AQAB\",\"e\":\"AQAB\"\x7d]\x7d".toByteArray.data.toList

def exampleFromSlice (bytes : List UInt8) : Option JwksDocument :=
  if bytes = exampleJwksBody then some ⟨[exampleJwk]⟩ else none

/-- A lookup that fetches the document, and one of an unknown name right after it. -/
def exampleLookups : List JwksAct :=
  [.start 0 "kid", .call 0 .go, .call 0 .go, .call 0 .go, .call 0 (.attempt 1),
    .call 0 (.reply (some ⟨⟨200⟩, none, [some exampleJwksBody]⟩)), .call 0 .go,
    .start 1 "unknown", .call 1 .go, .call 0 .go, .call 0 .go,
    .call 1 .go, .call 1 .go, .call 1 (.attempt 1)]

theorem unknown_kid_not_fetched : ∃ t u,
    (jwksSys exampleConfig.githubActions exampleFromSlice).run (.new 0) exampleLookups = some t ∧
    JwksSafe exampleConfig.githubActions exampleFromSlice 0 exampleLookups t ∧
    t.shared.cache.keys.lookup "kid" = some exampleJwk ∧
    (jwksSys exampleConfig.githubActions exampleFromSlice).step t (.call 1 .go) = some u ∧
    Answers 1 "unknown" (.error .invalidToken) t u := by
  obtain ⟨t, u, hrun, hu, hpc, hat, hnow, hkey, hnone⟩ : ∃ t u,
      (jwksSys exampleConfig.githubActions exampleFromSlice).run (.new 0) exampleLookups = some t ∧
      (jwksSys exampleConfig.githubActions exampleFromSlice).step t (.call 1 .go) = some u ∧
      t.calls 1 = .reading "unknown" ∧ t.shared.cache.fetchedAt = some 1 ∧ t.shared.now = 2 ∧
      t.shared.cache.keys.lookup "kid" = some exampleJwk ∧
      t.shared.cache.keys.lookup "unknown" = none :=
    ⟨_, _, rfl, rfl, rfl, rfl, rfl, rfl, rfl⟩
  have hsafe := jwks_cache_safe hrun
  have husable : t.shared.cache.Usable t.shared.now (jwksTtl exampleConfig.githubActions) :=
    ⟨1, hat, by rw [hnow]; decide⟩
  exact ⟨t, u, hrun, hsafe, hkey, hu, hsafe.invalidToken u 1 "unknown" hpc hu husable hnone⟩

end MicrotunSigner
