import MicrotunSigner.Auth.Session

/-!
# Single use of GitHub Actions tokens (`auth.rs`)

Runs of `authenticate` over the replay cache of `record_jti`. The calls of a run are listed in the
order in which they take the lock, each with clock readings of its own: they need not be in order.

* An accepted token is remembered until `rememberedUntil`: the whole seconds it has left and the
  leeway, counted from the instant of the call.
* The verifier accepts it until the second `exp + 60` is over (`verifiable`). A call between the
  two ends, in a `ReplayGap`, evicts the entry of a token that still verifies. Without such a
  call a token is accepted at most once (`accepted_once`).
* `accepted_again_iff`: a second call right after the first is accepted in the gap and only there.
-/

namespace MicrotunSigner

open Lib Lib.Text

variable {Key : Type}

/-- The call presents the bearer token `token`. -/
def AuthCall.presents (token : String) (call : AuthCall) : Bool :=
  match bearerToken call.headers with
  | .ok t => t == token
  | .error _ => false

namespace Authenticator

variable (self : Authenticator Key)

/-- How many of the calls that present `token` succeed. -/
def accepted (token : String) : AuthState → List AuthCall → Nat
  | _, [] => 0
  | s, call :: calls =>
    (if call.presents token && (self.authenticate call s).1.isOk then 1 else 0) +
      accepted token (self.authenticate call s).2 calls

def after (s : AuthState) (calls : List AuthCall) : AuthState :=
  calls.foldl (fun s call => (self.authenticate call s).2) s

/-- The call takes the path of the Actions tokens. -/
def routesToActions (call : AuthCall) : Bool :=
  match bearerToken call.headers with
  | .ok token => isGithubActionsJwt self.jwt token
  | .error _ => false

end Authenticator

/-- Until when `record_jti` remembers a token that expires at `exp`. -/
def rememberedUntil (exp : UInt64) (at_ : Readings) : Int :=
  at_.now + Duration.fromSecs (saturatingAdd (exp.toNat - unixSeconds at_.unixWall) jwtLeewaySeconds)

/-- The verifier still accepts the expiry `exp`: leeway included, it is not in the past. -/
def verifiable (exp : UInt64) (at_ : Readings) : Bool :=
  unixSeconds at_.decodeWall ≤ exp.toNat + jwtLeewaySeconds

/-- A token with a fixed `jti` and `exp`, and a verifier that accepts no expiry before its leeway. -/
structure OidcToken (jwt : JsonWebToken Key) (token jti : String) (exp : UInt64) : Prop where
  routed : isGithubActionsJwt jwt token = true
  claims : ∀ now key v c, jwt.decode now token key v = some c → c.jti = some jti ∧ c.exp = exp
  expiry : ∀ now key v c, jwt.decode now token key v = some c → now ≤ c.exp.toNat + v.leeway

/-- The call presents the token, which passes the checks before `record_jti`, and the cache has no
unexpired entry of its `jti`, room for one and an instant at which it expires. -/
structure Authenticator.TakesIn (self : Authenticator Key) (token jti : String) (exp : UInt64)
    (call : AuthCall) (s : AuthState) : Prop where
  presents : call.presents token = true
  admitted : ∃ claims identity, verifyToken self.jwt self.actions call.jwkFor
    (unixSeconds call.at_.decodeWall) token = .ok claims ∧
      resolveGithubActionsIdentity self.identities claims = .ok identity
  size : jti ≠ "" ∧ len jti ≤ maxJtiBytes
  usable : s.seenJtis.poisoned = false
  absent : (s.seenJtis.data.purge id call.at_.now).lookup jti = none
  room : (s.seenJtis.data.purge id call.at_.now).size < maxSeenJtis
  expires : (Instant.checkedAdd call.at_.now (Duration.fromSecs
    (saturatingAdd (exp.toNat - unixSeconds call.at_.unixWall) jwtLeewaySeconds))).isSome

/-- The cache has taken in the token of `first`; `second` presents it again while it verifies, and by
then a call has read an instant at which the entry may be evicted. -/
def Authenticator.ReplayGap (self : Authenticator Key) (token jti : String) (exp : UInt64)
    (s : AuthState) (calls : List AuthCall) : Prop :=
  ∃ pre first mid second post, calls = pre ++ first :: mid ++ second :: post ∧
    self.TakesIn token jti exp first (self.after s pre) ∧ second.presents token = true ∧
    verifiable exp second.at_ = true ∧
    ∃ call ∈ mid ++ [second], self.routesToActions call = true ∧
      rememberedUntil exp first.at_ ≤ call.at_.now

/-- `jti` is remembered until `u`, or the cache is out of use. -/
def Remembers (jti : String) (u : Int) (seenJtis : SeenJtis) : Prop :=
  seenJtis.poisoned = true ∨ seenJtis.data.lookup jti = some u

section Steps

variable {self : Authenticator Key} {token jti jti' : String} {exp exp' : UInt64} {call : AuthCall}
  {calls : List AuthCall} {s : AuthState} {u now : Int} {unixNow : Nat} {seen : SeenJtis}

theorem recordJti_poisoned (h : seen.poisoned = true) :
    recordJti jti exp now unixNow seen = (.err .replayCacheUnavailable, seen) := by
  have hlock : seen.lock = none := by
    unfold Mutex.lock
    rw [if_pos h]
  unfold recordJti
  rw [hlock]

/-- An accepted `jti` is remembered from then on. -/
theorem recordJti_remembers (h : (recordJti jti exp now unixNow seen).1.isOk = true) :
    Remembers jti (now + Duration.fromSecs (saturatingAdd (exp.toNat - unixNow) jwtLeewaySeconds))
      (recordJti jti exp now unixNow seen).2 := by
  cases hp : seen.poisoned with
  | true => rw [recordJti_poisoned hp] at h; cases h
  | false =>
    rcases recordJti_cases jti exp now unixNow hp with
      ⟨v, -, he⟩ | ⟨-, -, he⟩ | ⟨-, -, -, he⟩ | ⟨-, -, -, he⟩
    · rw [he] at h; cases h
    · rw [he] at h; cases h
    · rw [he] at h; cases h
    · rw [he]
      refine .inr ?_
      rw [Map.lookup_insert, if_pos rfl]

/-- Before its expiry, no call evicts the entry of `jti`. -/
theorem Remembers.recordJti (h : Remembers jti u seen) (hu : now < u) :
    Remembers jti u (recordJti jti' exp now unixNow seen).2 := by
  rcases h with h | h
  · rw [recordJti_poisoned h]
    exact .inl h
  cases hp : seen.poisoned with
  | true => rw [recordJti_poisoned hp]; exact .inl hp
  | false =>
    have hl : (seen.data.purge id now).lookup jti = some u := by
      rw [Map.lookup_purge, Map.live_eq_some]
      exact ⟨h, hu⟩
    rcases recordJti_cases jti' exp now unixNow hp with
      ⟨v, -, he⟩ | ⟨-, -, he⟩ | ⟨-, -, -, he⟩ | ⟨hn, -, -, he⟩
    · rw [he]; exact .inr hl
    · rw [he]; exact .inr hl
    · rw [he]; exact .inl rfl
    · rw [he]
      refine .inr ?_
      have hne : jti ≠ jti' := by
        rintro rfl
        rw [hl] at hn
        cases hn
      show ((seen.data.purge id now).insert jti' _).lookup jti = some u
      rw [Map.lookup_insert, if_neg hne, hl]

/-- Before the expiry of its entry, `jti` is refused. -/
theorem Remembers.refused (h : Remembers jti u seen) (hu : now < u) :
    (MicrotunSigner.recordJti jti exp now unixNow seen).1.isOk = false := by
  rcases h with h | h
  · rw [recordJti_poisoned h]; rfl
  cases hp : seen.poisoned with
  | true => rw [recordJti_poisoned hp]; rfl
  | false =>
    have hl : (seen.data.purge id now).lookup jti = some u := by
      rw [Map.lookup_purge, Map.live_eq_some]
      exact ⟨h, hu⟩
    rcases recordJti_cases jti exp now unixNow hp with
      ⟨v, -, he⟩ | ⟨hn, -⟩ | ⟨hn, -⟩ | ⟨hn, -⟩
    · rw [he]; rfl
    · rw [hl] at hn; cases hn
    · rw [hl] at hn; cases hn
    · rw [hl] at hn; cases hn

/-- A call leaves the cache alone, or `record_jti` decides it. -/
theorem authenticate_cases (self : Authenticator Key) (call : AuthCall) (s : AuthState) :
    (self.authenticate call s).2 = s ∧
      (self.routesToActions call = true → (self.authenticate call s).1.isOk = false) ∨
    self.routesToActions call = true ∧ ∃ token claims jti,
      bearerToken call.headers = .ok token ∧
      verifyToken self.jwt self.actions call.jwkFor (unixSeconds call.at_.decodeWall) token =
        .ok claims ∧ claims.jti = some jti ∧
      (self.authenticate call s).1.isOk =
        (recordJti jti claims.exp call.at_.now (unixSeconds call.at_.unixWall) s.seenJtis).1.isOk ∧
      (self.authenticate call s).2.seenJtis =
        (recordJti jti claims.exp call.at_.now (unixSeconds call.at_.unixWall) s.seenJtis).2 := by
  unfold Authenticator.routesToActions
  cases hb : bearerToken call.headers with
  | error e =>
    rw [authenticate_error hb]
    exact .inl ⟨rfl, fun h => by cases h⟩
  | ok token =>
    cases hj : isGithubActionsJwt self.jwt token with
    | false =>
      rw [authenticate_session hb hj]
      exact .inl ⟨rfl, fun h => by simp [hj] at h⟩
    | true =>
      rw [authenticate_actions hb hj]
      unfold authenticateGithubActions
      cases hv : verifyToken self.jwt self.actions call.jwkFor (unixSeconds call.at_.decodeWall)
          token with
      | error e => exact .inl ⟨rfl, fun _ => rfl⟩
      | ok claims =>
        rcases admitClaims_cases self.identities claims with
          ⟨e, he⟩ | ⟨jti, identity, hjti, -, he⟩
        · simp only [he]
          exact .inl ⟨trivial, fun _ => rfl⟩
        · simp only [he]
          exact .inr ⟨hj, token, claims, jti, rfl, hv, hjti, Outcome.isOk_bind_ok _ _, rfl⟩

theorem presents_iff : call.presents token = true ↔ bearerToken call.headers = .ok token := by
  unfold AuthCall.presents
  cases bearerToken call.headers <;> simp

theorem OidcToken.routes (ht : OidcToken self.jwt token jti exp)
    (hc : call.presents token = true) : self.routesToActions call = true := by
  unfold Authenticator.routesToActions
  rw [presents_iff.mp hc]
  exact ht.routed

/-- What a call with the token may do: the cache decides, while the token verifies. -/
theorem OidcToken.accepted (ht : OidcToken self.jwt token jti exp)
    (hc : call.presents token = true) (hok : (self.authenticate call s).1.isOk = true) :
    verifiable exp call.at_ = true ∧
    (recordJti jti exp call.at_.now (unixSeconds call.at_.unixWall) s.seenJtis).1.isOk = true ∧
    (self.authenticate call s).2.seenJtis =
      (recordJti jti exp call.at_.now (unixSeconds call.at_.unixWall) s.seenJtis).2 := by
  rcases authenticate_cases self call s with
    ⟨-, hno⟩ | ⟨-, token', claims, jti', hb, hv, hj, hres, hst⟩
  · rw [hno (ht.routes hc)] at hok
    cases hok
  · rw [presents_iff.mp hc] at hb
    cases hb
    obtain ⟨key, hd⟩ := verifyToken_ok hv
    obtain ⟨hjti, hexp⟩ := ht.claims _ _ _ _ hd
    have hle := ht.expiry _ _ _ _ hd
    rw [hj] at hjti
    cases hjti
    subst hexp
    exact ⟨decide_eq_true hle, hres ▸ hok, hst⟩

/-- A call is accepted with the token iff the cache takes the token in. -/
theorem OidcToken.accepted_iff (ht : OidcToken self.jwt token jti exp)
    (hc : call.presents token = true) :
    (self.authenticate call s).1.isOk = true ↔ self.TakesIn token jti exp call s := by
  rw [authenticate_actions (presents_iff.mp hc) ht.routed]
  unfold authenticateGithubActions
  constructor
  · intro hok
    cases hv : verifyToken self.jwt self.actions call.jwkFor (unixSeconds call.at_.decodeWall)
        token with
    | error e => rw [hv] at hok; cases hok
    | ok claims =>
      obtain ⟨key, hd⟩ := verifyToken_ok hv
      obtain ⟨hclaims, rfl⟩ := ht.claims _ _ _ _ hd
      rw [hv] at hok
      obtain ⟨identity, hsize, hidentity, hrec⟩ := admitClaims_isOk hclaims hok
      cases hp : s.seenJtis.poisoned with
      | true => rw [recordJti_poisoned hp] at hrec; cases hrec
      | false =>
        obtain ⟨habsent, hroom, hexpires⟩ := (recordJti_isOk hp).mp hrec
        exact ⟨hc, ⟨claims, identity, hv, hidentity⟩, hsize, hp, habsent, hroom, hexpires⟩
  · rintro ⟨-, ⟨claims, identity, hv, hidentity⟩, hsize, hp, habsent, hroom, hexpires⟩
    obtain ⟨key, hd⟩ := verifyToken_ok hv
    obtain ⟨hclaims, rfl⟩ := ht.claims _ _ _ _ hd
    rw [hv]
    exact admitClaims_of_record hclaims hsize hidentity
      ((recordJti_isOk hp).mpr ⟨habsent, hroom, hexpires⟩)

/-- A call keeps the entry of `jti`, unless it reads an instant past its expiry. -/
theorem Remembers.authenticate (h : Remembers jti u s.seenJtis)
    (hu : self.routesToActions call = true → call.at_.now < u) :
    Remembers jti u (self.authenticate call s).2.seenJtis := by
  rcases authenticate_cases self call s with ⟨hs, -⟩ | ⟨hr, _, claims, jti', -, -, -, -, hs⟩
  · rw [hs]
    exact h
  · rw [hs]
    exact h.recordJti (hu hr)

theorem Remembers.not_accepted (ht : OidcToken self.jwt token jti exp)
    (h : Remembers jti u s.seenJtis) (hu : call.at_.now < u) (hc : call.presents token = true) :
    (self.authenticate call s).1.isOk = false := by
  by_contra hok
  rw [Bool.not_eq_false] at hok
  have hrec := (ht.accepted hc hok).2.1
  rw [h.refused hu] at hrec
  cases hrec

/-- A call that some state lets in is, in every state, decided by `record_jti`. -/
theorem OidcToken.decided (ht : OidcToken self.jwt token jti exp)
    (hc : call.presents token = true) (hok : (self.authenticate call s).1.isOk = true)
    (s' : AuthState) : (self.authenticate call s').1.isOk =
      (recordJti jti exp call.at_.now (unixSeconds call.at_.unixWall) s'.seenJtis).1.isOk := by
  have hb := presents_iff.mp hc
  rw [authenticate_actions hb ht.routed] at hok ⊢
  unfold authenticateGithubActions at hok ⊢
  cases hv : verifyToken self.jwt self.actions call.jwkFor (unixSeconds call.at_.decodeWall)
      token with
  | error e => rw [hv] at hok; cases hok
  | ok claims =>
    obtain ⟨key, hd⟩ := verifyToken_ok hv
    obtain ⟨hjti, rfl⟩ := ht.claims _ _ _ _ hd
    rw [hv] at hok
    rcases admitClaims_cases self.identities claims with ⟨e, he⟩ | ⟨jti', identity, hj, -, he⟩
    · simp only [he] at hok
      cases hok
    · rw [hjti] at hj
      cases hj
      simp only [he]
      exact Outcome.isOk_bind_ok _ _

end Steps

/-! ## Runs -/

section Runs

variable {self : Authenticator Key} {token jti : String} {exp : UInt64}

/-- Where the token no longer verifies, no call accepts it. -/
theorem accepted_zero_of_expired (ht : OidcToken self.jwt token jti exp) {calls : List AuthCall}
    (s : AuthState)
    (h : ∀ call ∈ calls, call.presents token = true → verifiable exp call.at_ = false) :
    self.accepted token s calls = 0 := by
  induction calls generalizing s with
  | nil => rfl
  | cons call calls ih =>
    have hrest := ih (self.authenticate call s).2 fun c hc => h c (List.mem_cons_of_mem _ hc)
    have hcall : (call.presents token && (self.authenticate call s).1.isOk) = false := by
      by_contra hb
      rw [Bool.not_eq_false, Bool.and_eq_true] at hb
      have hv := (ht.accepted hb.1 hb.2).1
      rw [h call List.mem_cons_self hb.1] at hv
      cases hv
    rw [Authenticator.accepted, hrest, hcall]
    rfl

/-- While `jti` is remembered, no call accepts the token. -/
theorem accepted_zero_of_remembers (ht : OidcToken self.jwt token jti exp) {u : Int}
    {calls : List AuthCall} {s : AuthState} (hr : Remembers jti u s.seenJtis)
    (h : ∀ mid second post, calls = mid ++ second :: post → second.presents token = true →
      verifiable exp second.at_ = true →
      ∀ call ∈ mid ++ [second], self.routesToActions call = true → call.at_.now < u) :
    self.accepted token s calls = 0 := by
  induction calls generalizing s with
  | nil => rfl
  | cons call calls ih =>
    by_cases hlate : self.routesToActions call = true ∧ u ≤ call.at_.now
    · -- This call may evict the entry, so no later presentation verifies.
      refine accepted_zero_of_expired ht s fun c hc hp => ?_
      by_contra hv
      rw [Bool.not_eq_false] at hv
      obtain ⟨mid, post, he⟩ := List.append_of_mem hc
      have hmem : call ∈ mid ++ [c] := by
        cases mid with
        | nil => cases he; exact List.mem_singleton_self _
        | cons b mid => cases he; exact List.mem_cons_self
      exact absurd (h mid c post he hp hv call hmem hlate.1) (by omega)
    · have hu : self.routesToActions call = true → call.at_.now < u := fun hroute => by
        by_contra hn
        exact hlate ⟨hroute, by omega⟩
      have hrest := ih (hr.authenticate hu) fun mid second post he hp hv c hc =>
        h (call :: mid) second post (by rw [he]; rfl) hp hv c (List.mem_cons_of_mem _ hc)
      have hcall : (call.presents token && (self.authenticate call s).1.isOk) = false := by
        cases hp : call.presents token with
        | false => rfl
        | true => exact hr.not_accepted ht (hu (ht.routes hp)) hp
      rw [Authenticator.accepted, hrest, hcall]
      rfl

/-- Without a call in the gap, a token is accepted at most once, from any state and whatever the
other calls present. -/
theorem accepted_once (ht : OidcToken self.jwt token jti exp) (s : AuthState)
    (calls : List AuthCall) (hgap : ¬ self.ReplayGap token jti exp s calls) :
    self.accepted token s calls ≤ 1 := by
  induction calls generalizing s with
  | nil => exact Nat.zero_le 1
  | cons call calls ih =>
    have hgap' : ¬ self.ReplayGap token jti exp (self.authenticate call s).2 calls := by
      rintro ⟨pre, first, mid, second, post, rfl, hrest⟩
      exact hgap ⟨call :: pre, first, mid, second, post, rfl, hrest⟩
    rw [Authenticator.accepted]
    cases hcall : call.presents token && (self.authenticate call s).1.isOk with
    | false =>
      have := ih (self.authenticate call s).2 hgap'
      simpa using this
    | true =>
      rw [Bool.and_eq_true] at hcall
      obtain ⟨hp, hok⟩ := hcall
      obtain ⟨-, hrec, hst⟩ := ht.accepted hp hok
      have htaken : self.TakesIn token jti exp call (self.after s []) := (ht.accepted_iff hp).mp hok
      have hr : Remembers jti (rememberedUntil exp call.at_)
          (self.authenticate call s).2.seenJtis := hst ▸ recordJti_remembers hrec
      have hzero : self.accepted token (self.authenticate call s).2 calls = 0 := by
        refine accepted_zero_of_remembers ht hr fun mid second post he hp' hv c hc hroute => ?_
        by_contra hn
        exact hgap ⟨[], call, mid, second, post, by rw [he]; rfl, htaken, hp', hv, c, hc, hroute,
          by omega⟩
      rw [hzero]
      decide

/-- The condition is exact: after a first call on an unused cache, a second call that would be
accepted on its own is accepted again iff it reads an instant past the expiry of the entry. -/
theorem accepted_again_iff (ht : OidcToken self.jwt token jti exp) {s : AuthState}
    {first second : AuthCall} (hs : s.seenJtis = { data := Map.empty })
    (h1 : first.presents token = true) (h2 : second.presents token = true)
    (hok1 : (self.authenticate first s).1.isOk = true)
    (hok2 : (self.authenticate second s).1.isOk = true) :
    (self.authenticate second (self.authenticate first s).2).1.isOk = true ↔
      rememberedUntil exp first.at_ ≤ second.at_.now := by
  obtain ⟨-, hrec1, hst⟩ := ht.accepted h1 hok1
  obtain ⟨-, hrec2, -⟩ := ht.accepted h2 hok2
  rw [ht.decided h2 hok2, hst]
  rw [hs] at hrec1 hrec2 ⊢
  obtain ⟨-, -, hrange⟩ := (recordJti_isOk rfl).mp hrec2
  have hseen : (recordJti jti exp first.at_.now (unixSeconds first.at_.unixWall)
      { data := Map.empty }).2 =
      { data := Map.empty.insert jti (rememberedUntil exp first.at_) } := by
    rcases recordJti_cases jti exp first.at_.now (unixSeconds first.at_.unixWall)
      (show ({ data := Map.empty } : SeenJtis).poisoned = false from rfl) with
      ⟨v, -, he⟩ | ⟨-, -, he⟩ | ⟨-, -, -, he⟩ | ⟨-, -, -, he⟩
    · rw [he] at hrec1; cases hrec1
    · rw [he] at hrec1; cases hrec1
    · rw [he] at hrec1; cases hrec1
    · rw [he]; rfl
  rw [hseen, recordJti_isOk rfl]
  have hsize : ((Map.empty.insert jti (rememberedUntil exp first.at_)).purge id
      second.at_.now).size < maxSeenJtis := by
    have hle : ((Map.empty.insert jti (rememberedUntil exp first.at_)).purge id
      second.at_.now).size ≤ (Map.empty.insert jti (rememberedUntil exp first.at_)).size :=
      Map.size_purge_le
    have hone : (Map.empty.insert jti (rememberedUntil exp first.at_)).size = 1 := rfl
    have hmax : 1 < maxSeenJtis := by decide
    omega
  rw [Map.lookup_purge]
  constructor
  · rintro ⟨hnone, -, -⟩
    by_contra hlt
    have hlive : (Map.empty.insert jti (rememberedUntil exp first.at_)).live id second.at_.now jti
        = some (rememberedUntil exp first.at_) :=
      Map.live_eq_some.mpr ⟨by rw [Map.lookup_insert, if_pos rfl], lt_of_not_ge hlt⟩
    rw [hlive] at hnone
    cases hnone
  · intro hle
    refine ⟨?_, hsize, hrange⟩
    rw [Map.live_insert, if_pos rfl]
    exact if_neg (not_lt.mpr hle)

end Runs

/-! ## A token that is accepted twice -/

/-- The token presented at the instant `t`, which is also the wall clock. -/
def exampleCall (t : Int) : AuthCall where
  headers := ⟨some ("Bearer " ++ exampleToken).toByteArray.data.toList, none⟩
  jwkFor kid := .ok ⟨"RSA", kid, some "RS256", "n", "AQAB", some "sig"⟩
  at_ := ⟨t, t, t⟩

theorem exampleToken_oidc : OidcToken exampleJwt exampleToken "4f1c" 1000 where
  routed := by decide
  claims := by
    intro now key v c h
    unfold exampleJwt at h
    simp only [Option.ite_none_right_eq_some, Option.some.injEq] at h
    obtain ⟨-, rfl⟩ := h
    exact ⟨rfl, rfl⟩
  expiry := by
    intro now key v c h
    unfold exampleJwt at h
    simp only [Option.ite_none_right_eq_some, Option.some.injEq] at h
    obtain ⟨⟨-, hle⟩, rfl⟩ := h
    exact hle

/-- Used at 900.0 s and again at 1060.5 s, after its entry has expired at 1060.0 s and before it
stops verifying at 1061.0 s, the token is accepted twice. -/
theorem accepted_twice_in_gap :
    OidcToken exampleJwt exampleToken "4f1c" 1000 ∧
    (∀ now v, (exampleJwt.decode now exampleToken () v).isSome ↔ now ≤ 1000 + v.leeway) ∧
    ¬ ∀ calls : List AuthCall,
      (∀ call ∈ calls, call.at_.decodeWall = call.at_.now ∧ call.at_.unixWall = call.at_.now) →
      (calls.map fun call => call.at_.now).Pairwise (· ≤ ·) →
      exampleAuthenticator.accepted exampleToken AuthState.new calls ≤ 1 := by
  refine ⟨exampleToken_oidc, fun now v => ?_, fun h => ?_⟩
  · unfold exampleJwt
    simp only [true_and, Option.isSome_ite, exampleClaims]
    rfl
  · have htwo := h [exampleCall 900000000000, exampleCall 1060500000000]
      (by simp [exampleCall]) (by decide)
    revert htwo
    decide

/-- Presented again at 1059.9 s, it is accepted once. -/
theorem accepted_once_before_gap :
    exampleAuthenticator.accepted exampleToken AuthState.new
      [exampleCall 900000000000, exampleCall 1059900000000] ≤ 1 := by
  refine accepted_once exampleToken_oidc _ _ ?_
  rintro ⟨pre, first, mid, second, post, he, -, -, -, call, hc, -, hle⟩
  have hlen := congrArg List.length he
  simp only [List.length_cons, List.length_append, List.length_nil] at hlen
  obtain rfl : pre = [] := List.eq_nil_of_length_eq_zero (by omega)
  obtain rfl : mid = [] := List.eq_nil_of_length_eq_zero (by omega)
  cases he
  rw [List.nil_append, List.mem_singleton] at hc
  subst hc
  revert hle
  decide

end MicrotunSigner
