import MicrotunSigner.Auth.Jwks

/-!
# The steps of a key lookup

What the critical sections of `jwk_for` do, and `JwksStep`, which takes a step of a call apart.
-/

namespace MicrotunSigner

open Lib Lib.Text

variable {actions : GithubActionsConfig} {fromSlice : List UInt8 → Option JwksDocument}

/-! ## The functions -/

theorem RsaJwk.usable_iff {key : RsaJwk} : key.usable = true ↔
    key.kty = "RSA" ∧ (key.alg = none ∨ key.alg = some "RS256") ∧
      (key.use_ = none ∨ key.use_ = some "sig") ∧ key.kid ≠ "" := by
  have hopt : ∀ (o : Option String) (x : String), o.all (· == x) = true ↔ o = none ∨ o = some x := by
    intro o x
    cases o <;> simp
  unfold RsaJwk.usable
  simp only [Bool.and_eq_true, beq_iff_eq, hopt, Bool.not_eq_true', isEmpty_eq_false, and_assoc]

/-- The keys of a document: the last usable one of each name. -/
theorem JwksDocument.lookup_usableKeys (document : JwksDocument) (kid : String) :
    document.usableKeys.lookup kid =
      document.keys.reverse.find? fun key => key.usable && key.kid == kid :=
  Map.lookup_collect _ _ _ _

theorem JwksDocument.mem_of_lookup {document : JwksDocument} {kid : String} {key : RsaJwk}
    (h : document.usableKeys.lookup kid = some key) :
    key ∈ document.keys ∧ key.kid = kid ∧ key.usable = true := by
  rw [document.lookup_usableKeys] at h
  have hmem := List.mem_of_find?_eq_some h
  have hkey := List.find?_some h
  rw [Bool.and_eq_true, beq_iff_eq] at hkey
  exact ⟨List.mem_reverse.mp hmem, hkey.2, hkey.1⟩

theorem fetchJwks_ok {reply : Option JwksResponse} {keys : Map String RsaJwk}
    (h : fetchJwks fromSlice reply = .ok keys) :
    ∃ document, fetchDocument fromSlice reply = .ok document ∧ keys = document.usableKeys := by
  simp only [fetchJwks, Except.bind_eq_ok, bailIf_eq_ok, exists_const] at h
  obtain ⟨document, hd, -, he⟩ := h
  cases he
  exact ⟨document, hd, rfl⟩

/-- The cache has keys that were fetched recently enough, at `now`. -/
def JwksCache.Usable (cache : JwksCache) (now : Int) (ttl : Nat) : Prop :=
  ∃ at_, cache.fetchedAt = some at_ ∧ now < at_ + Duration.saturatingAdd ttl jwksMaxStaleness

section Functions

variable {cache : JwksCache} {now : Int} {kid : String} {ttl : Nat} {key : RsaJwk}

theorem any_elapsed_lt {fetchedAt : Option Int} {d : Nat} (hd : 0 < d) :
    fetchedAt.any (fun at_ => decide (Instant.elapsed at_ now < d)) = true ↔
      ∃ at_, fetchedAt = some at_ ∧ now < at_ + d := by
  cases fetchedAt with
  | none => simp
  | some at_ => simp [Instant.elapsed_lt hd]

theorem JwksCache.usable_iff : cache.Usable now ttl ↔ cache.fetchedAt.any (fun at_ =>
    decide (Instant.elapsed at_ now < Duration.saturatingAdd ttl jwksMaxStaleness)) = true := by
  have hpos : 0 < Duration.saturatingAdd ttl jwksMaxStaleness := by
    have hs : 0 < jwksMaxStaleness := by decide
    have hm : 0 < Duration.max := by decide
    unfold Duration.saturatingAdd
    omega
  exact (any_elapsed_lt hpos).symm

theorem JwksCache.cachedJwk_eq_some (h : cache.cachedJwk now kid ttl = some key) :
    ∃ at_, cache.fetchedAt = some at_ ∧ now < at_ + ttl ∧ cache.keys.lookup kid = some key := by
  unfold JwksCache.cachedJwk at h
  dsimp only at h
  split at h
  · rename_i hfresh
    cases hat : cache.fetchedAt with
    | none =>
      rw [hat] at hfresh
      cases hfresh
    | some at_ =>
      rw [hat] at hfresh
      have hlt : Instant.elapsed at_ now < ttl := of_decide_eq_true hfresh
      refine ⟨at_, rfl, ?_, h⟩
      unfold Instant.elapsed at hlt
      omega
  · cases h

theorem JwksCache.jwk_eq_ok : cache.jwk now kid ttl = .ok key ↔
    cache.Usable now ttl ∧ cache.keys.lookup kid = some key := by
  rw [JwksCache.usable_iff]
  simp [JwksCache.jwk, Except.bind_eq_ok]

theorem JwksCache.jwk_eq_error {e : AuthError} : cache.jwk now kid ttl = .error e ↔
    e = .keyDiscovery ∧ ¬ cache.Usable now ttl ∨
      e = .invalidToken ∧ cache.Usable now ttl ∧ cache.keys.lookup kid = none := by
  rw [JwksCache.usable_iff]
  simp only [JwksCache.jwk, Except.bind_eq_error, okOr_eq_error, bailIf_eq_error, bailIf_eq_ok,
    exists_const, Bool.not_eq_true', Bool.not_eq_false', Bool.not_eq_true]
  constructor
  · rintro (⟨hno, he⟩ | ⟨hyes, hnone, he⟩)
    · exact .inl ⟨he, hno⟩
    · exact .inr ⟨he, hyes, hnone⟩
  · rintro (⟨he, hno⟩ | ⟨he, hyes, hnone⟩)
    · exact .inl ⟨hno, he⟩
    · exact .inr ⟨hyes, hnone, he⟩

end Functions

/-! ## Steps -/

/-- The call has the lock of the refreshes. -/
def JwksPc.holds : JwksPc → Bool
  | .locked _ | .attempting _ | .fetching _ | .installing _ _ _ | .reading _ | .dropping _ _ => true
  | _ => false

/-- A fetch of the call is in progress. -/
def JwksPc.fetches : JwksPc → Bool
  | .fetching _ | .installing _ _ _ => true
  | _ => false

/-- The call is past its decision about an attempt. -/
def JwksPc.decided : JwksPc → Bool
  | .fetching _ | .installing _ _ _ | .reading _ | .dropping _ _ | .done _ _ => true
  | _ => false

/-- What the call will return, if it has come to know that. -/
def JwksPc.result? : JwksPc → Option (String × Except AuthError RsaJwk)
  | .dropping kid (some result) | .done kid (some result) => some (kid, result)
  | _ => none

/-- The name of the key that the call waits for. -/
def JwksPc.awaits : JwksPc → Option String
  | .entered kid | .missed kid | .locked kid | .attempting kid | .fetching kid
  | .installing kid _ _ | .reading kid => some kid
  | _ => none

variable (actions fromSlice) in
/-- The steps of a call. -/
inductive JwksStep (c : Nat) (s : JwksShared) : JwksPc → JwksIn → JwksShared → JwksPc → Prop where
  | hit (kid key) : s.cache.cachedJwk s.now kid (jwksTtl actions) = some key →
      JwksStep c s (.entered kid) .go s (.done kid (some (.ok key)))
  | miss (kid) : JwksStep c s (.entered kid) .go s (.missed kid)
  | lock (kid) : s.holder = none →
      JwksStep c s (.missed kid) .go { s with holder := some c } (.locked kid)
  | found (kid key) : s.cache.cachedJwk s.now kid (jwksTtl actions) = some key →
      JwksStep c s (.locked kid) .go s (.dropping kid (some (.ok key)))
  | notFound (kid) : JwksStep c s (.locked kid) .go s (.attempting kid)
  | attempt (kid) (d : Nat) :
      (∀ at_, s.cache.lastAttempt = some at_ → at_ + jwksMinRefreshInterval ≤ s.now) →
      JwksStep c s (.attempting kid) (.attempt d) { s with now := s.now + d, cache :=
        { s.cache with lastAttempt := some (s.now + d) } } (.fetching kid)
  | throttled (kid) (d : Nat) : JwksStep c s (.attempting kid) (.attempt d)
      { s with now := s.now + d } (.reading kid)
  | fetched (kid reply keys) : fetchJwks fromSlice reply = .ok keys →
      JwksStep c s (.fetching kid) (.reply reply) s (.installing kid reply keys)
  | failed (kid reply e) : fetchJwks fromSlice reply = .error e →
      JwksStep c s (.fetching kid) (.reply reply) s (.reading kid)
  | install (kid reply keys) : JwksStep c s (.installing kid reply keys) .go
      { s with cache := { s.cache with keys, fetchedAt := some s.now } } (.reading kid)
  | answer (kid) : JwksStep c s (.reading kid) .go s
      (.dropping kid (some (s.cache.jwk s.now kid (jwksTtl actions))))
  | drop (kid result) :
      JwksStep c s (.dropping kid result) .go { s with holder := none } (.done kid result)
  | leave (pc kid) : JwksPc.awaits pc = some kid → pc.holds = false →
      JwksStep c s pc .cancel s (.done kid none)
  | cancel (pc kid) : JwksPc.awaits pc = some kid → pc.holds = true →
      JwksStep c s pc .cancel s (.dropping kid none)

/-- An attempt is made an interval after the last one. -/
theorem JwksCache.mayFetch_spec (cache : JwksCache) (now attempt : Int) :
    cache.mayFetch now attempt = (false, cache) ∨
    cache.mayFetch now attempt = (true, { cache with lastAttempt := some attempt }) ∧
      ∀ at_, cache.lastAttempt = some at_ → at_ + jwksMinRefreshInterval ≤ now := by
  unfold JwksCache.mayFetch
  cases hallowed : cache.lastAttempt.all fun at_ =>
      decide (Instant.elapsed at_ now ≥ jwksMinRefreshInterval) with
  | false => exact .inl rfl
  | true =>
    refine .inr ⟨rfl, fun at_ hat => ?_⟩
    rw [hat] at hallowed
    have hle : jwksMinRefreshInterval ≤ Instant.elapsed at_ now := of_decide_eq_true hallowed
    exact (Instant.le_elapsed (by decide)).mp hle

section Step

variable {c : Nat} {s s' : JwksShared} {pc pc' : JwksPc} {input : JwksIn}

theorem jwksStep_of_eq (h : stepJwks actions fromSlice c s pc input = some (s', pc')) :
    JwksStep actions fromSlice c s pc input s' pc' := by
  unfold stepJwks at h
  split at h
  · cases h
    split
    · exact .hit _ _ ‹_›
    · exact .miss _
  · cases h
    exact .leave _ _ rfl rfl
  · split at h
    · cases h
      exact .lock _ ‹_›
    · cases h
  · cases h
    exact .leave _ _ rfl rfl
  · cases h
    split
    · exact .found _ _ ‹_›
    · exact .notFound _
  · cases h
    exact .cancel _ _ rfl rfl
  · rename_i kid d
    rcases s.cache.mayFetch_spec s.now (s.now + d) with hm | ⟨hm, hallowed⟩
    · rw [hm] at h
      cases h
      exact .throttled kid d
    · rw [hm] at h
      cases h
      exact .attempt kid d hallowed
  · cases h
    exact .cancel _ _ rfl rfl
  · cases h
    split
    · exact .fetched _ _ _ ‹_›
    · exact .failed _ _ _ ‹_›
  · cases h
    exact .cancel _ _ rfl rfl
  · cases h
    exact .install _ _ _
  · cases h
    exact .cancel _ _ rfl rfl
  · cases h
    exact .answer _
  · cases h
    exact .cancel _ _ rfl rfl
  · cases h
    exact .drop _ _
  · cases h

/-- The lock has one holder. -/
theorem JwksStep.holder (hs : JwksStep actions fromSlice c s pc input s' pc')
    (hpc : pc.holds = true → s.holder = some c) : (pc'.holds = true → s'.holder = some c) ∧
      ∀ d, d ≠ c → s.holder = some d → s'.holder = some d := by
  cases hs with
  | hit | miss | leave => exact ⟨(nomatch ·), fun d _ hd => hd⟩
  | lock kid hfree =>
    refine ⟨fun _ => rfl, fun d _ hd => ?_⟩
    rw [hfree] at hd
    cases hd
  | drop kid result =>
    refine ⟨(nomatch ·), fun d hne hd => ?_⟩
    rw [hpc rfl] at hd
    exact absurd (Option.some.inj hd).symm hne
  | cancel pc kid _ hholds => exact ⟨fun _ => hpc hholds, fun d _ hd => hd⟩
  | found | notFound | attempt | throttled | fetched | failed | install | answer =>
    exact ⟨fun _ => hpc rfl, fun d _ hd => hd⟩

theorem JwksStep.result (hs : JwksStep actions fromSlice c s pc input s' pc') {kid : String}
    {result : Except AuthError RsaJwk} (hbefore : pc.result? = none)
    (hafter : pc'.result? = some (kid, result)) :
    (∃ key, result = .ok key ∧ s.cache.cachedJwk s.now kid (jwksTtl actions) = some key) ∨
      pc = .reading kid ∧ result = s.cache.jwk s.now kid (jwksTtl actions) := by
  cases hs with
  | hit kid key hc | found kid key hc =>
    cases hafter
    exact .inl ⟨key, rfl, hc⟩
  | answer kid =>
    cases hafter
    exact .inr ⟨rfl, rfl⟩
  | drop kid result =>
    cases result with
    | none => cases hafter
    | some result => cases hbefore
  | miss | lock | notFound | attempt | throttled | fetched | failed | install | leave | cancel =>
    cases hafter

end Step

/-- The three kinds of steps of the system. -/
theorem jwks_cases {t u : JwksSt} {a : JwksAct} (h : (jwksSys actions fromSlice).step t a = some u) :
    (∃ c kid, a = .start c kid ∧ t.calls c = .idle ∧
      u = { t with calls := Function.update t.calls c (.entered kid) }) ∨
    (∃ c input shared pc, a = .call c input ∧
      JwksStep actions fromSlice c t.shared (t.calls c) input shared pc ∧
      u = ⟨shared, Function.update t.calls c pc⟩) ∨
    ∃ d, a = .tick d ∧ u = { t with shared := { t.shared with now := t.shared.now + d } } := by
  cases a with
  | start c kid =>
    simp only [jwksSys] at h
    split at h
    · rename_i hidle
      cases h
      exact .inl ⟨c, kid, rfl, hidle, rfl⟩
    · cases h
  | call c input =>
    obtain ⟨⟨shared, pc⟩, hs, rfl⟩ := Option.map_eq_some_iff.mp h
    exact .inr (.inl ⟨c, input, shared, pc, rfl, jwksStep_of_eq hs, rfl⟩)
  | tick d =>
    cases h
    exact .inr (.inr ⟨d, rfl, rfl⟩)

end MicrotunSigner
