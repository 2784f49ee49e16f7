import MicrotunSigner.Auth.Identity
import MicrotunSigner.Http
import MicrotunSigner.Lib.Clock

/-!
# GitHub Actions tokens (`auth.rs`)

The bearer token of a request, the verification of an Actions token and the replay cache of its
`jti`.

* `JsonWebToken`: the functions of the `jsonwebtoken` crate that the code calls, a parameter. Each
  `decode` is given the wall clock's whole seconds at its own call.
* `verifyToken` ends with the verified claims; `admitClaims` is the rest of
  `authenticate_github_actions`.
* `recordJti` reads the clocks before it takes the lock, so the readings are its arguments. It
  panics, and poisons the lock, where the expiry of the entry is not an instant.
-/

namespace MicrotunSigner

open Lib Lib.Text

def githubActionsIssuer : String := "https://token.actions.githubusercontent.com"
def maxBearerTokenBytes : Nat := 16 * 1024
def maxSeenJtis : Nat := 65536
def maxJtiBytes : Nat := 256
def jwtLeewaySeconds : Nat := 60

/-- The signature algorithms of the `jsonwebtoken` crate. -/
inductive Algorithm where
  | hs256 | hs384 | hs512
  | es256 | es384
  | rs256 | rs384 | rs512
  | ps256 | ps384 | ps512
  | edDsa
  deriving DecidableEq, Repr

structure JwtHeader where
  alg : Algorithm
  kid : Option String

/-- What a token must meet to be decoded, as far as the code sets it. -/
structure Validation where
  algorithm : Algorithm
  leeway : Nat
  validateNbf : Bool
  audience : List String
  issuer : List String
  requiredSpecClaims : List String
  deriving DecidableEq

/-- The `jsonwebtoken` crate. `decode` takes the current unix time as its first argument. -/
structure JsonWebToken (Key : Type) where
  decodeHeader : String → Option JwtHeader
  fromRsaComponents : String → String → Option Key
  decode : Nat → String → Key → Validation → Option GithubActionsClaims

/-- A key of the JWKS document. -/
structure RsaJwk where
  kty : String
  kid : String
  alg : Option String
  n : String
  e : String
  use_ : Option String
  deriving DecidableEq, Repr

def bearerToken (headers : HeaderMap) : Except AuthError String := do
  let value ← okOr headers.authorization .missingBearer
  let value ← okOr value.toStr .missingBearer
  bailIf (len value > maxBearerTokenBytes) .tokenTooLarge
  let (scheme, token) ← okOr (splitOnce ' ' value) .missingBearer
  bailIf (!eqIgnoreAsciiCase scheme "bearer" || isEmpty token || token.toList.any isWhitespace)
    .missingBearer
  return token

variable {Key : Type} (jwt : JsonWebToken Key)

def isGithubActionsJwt (token : String) : Bool :=
  if (split '.' token).length != 3 then false
  else (jwt.decodeHeader token).any fun header => header.alg == .rs256 && header.kid.isSome

def actionsValidation (actions : GithubActionsConfig) : Validation where
  algorithm := .rs256
  leeway := jwtLeewaySeconds
  validateNbf := true
  audience := [actions.audience]
  issuer := [githubActionsIssuer]
  requiredSpecClaims := ["exp", "nbf", "iss", "aud", "sub"]

/-- `authenticate_github_actions` up to the verified claims. `jwkFor` is what `jwk_for` answers. -/
def verifyToken (actions : GithubActionsConfig) (jwkFor : String → Except AuthError RsaJwk)
    (unixNow : Nat) (token : String) : Except AuthError GithubActionsClaims := do
  let header ← okOr (jwt.decodeHeader token) .invalidToken
  bailIf (header.alg != .rs256) .invalidToken
  let kid ← okOr header.kid .invalidToken
  let jwk ← jwkFor kid
  let decodingKey ← okOr (jwt.fromRsaComponents jwk.n jwk.e) .keyDiscovery
  okOr (jwt.decode unixNow token decodingKey (actionsValidation actions)) .invalidToken

/-- The replay cache: until when each `jti` is remembered. -/
abbrev SeenJtis := Mutex (Map String Int)

def recordJti (jti : String) (exp : UInt64) (now : Int) (unixNow : Nat) (seenJtis : SeenJtis) :
    Outcome AuthError Unit × SeenJtis :=
  let remaining := saturatingAdd (exp.toNat - unixNow) jwtLeewaySeconds
  match seenJtis.lock with
  | none => (.err .replayCacheUnavailable, seenJtis)
  | some seen =>
    let seen := seen.purge id now
    if (seen.lookup jti).isSome then (.err .tokenReplayed, { data := seen })
    else if seen.size ≥ maxSeenJtis then (.err .replayCacheUnavailable, { data := seen })
    else match Instant.checkedAdd now (Duration.fromSecs remaining) with
      | none => (.panic, { data := seen, poisoned := true })
      | some until_ => (.ok (), { data := seen.insert jti until_ })

/-- The principal of an accepted token. -/
def actionsPrincipal (identity : IdentityConfig) (claims : GithubActionsClaims) (jti : String) :
    AuthPrincipal where
  identityId := identity.id
  principalKey := s!"github-actions:repository:{claims.repositoryId}"
  authMethod := "github-actions-oidc"
  issuer := claims.iss
  audience := some claims.aud.asAuditString
  subject := claims.sub
  jti := some jti
  source := .githubActions {
    repository := claims.repository
    repositoryId := claims.repositoryId
    actor := claims.actor
    actorId := claims.actorId
    gitRef := claims.gitRef
    refType := claims.refType
    refProtected := claimIsTrue claims.refProtected
    sha := claims.sha
    workflowRef := claims.workflowRef
    eventName := claims.eventName
    environment := claims.environment
    runId := claims.runId
    runAttempt := claims.runAttempt }

/-- `authenticate_github_actions` from the verified claims on. -/
def admitClaims (identities : List IdentityConfig) (claims : GithubActionsClaims) (now : Int)
    (unixNow : Nat) (seenJtis : SeenJtis) : Outcome AuthError AuthPrincipal × SeenJtis :=
  match claims.jti.filter fun jti => !isEmpty jti && len jti ≤ maxJtiBytes with
  | none => (.err .invalidToken, seenJtis)
  | some jti =>
    match resolveGithubActionsIdentity identities claims with
    | .error e => (.err e, seenJtis)
    | .ok identity =>
      -- Recorded only now, so foreign tokens cannot fill the cache.
      let (recorded, seenJtis) := recordJti jti claims.exp now unixNow seenJtis
      (recorded.bind fun _ => .ok (actionsPrincipal identity claims jti), seenJtis)

/-- The clock readings of one call: the wall clock when the token is decoded, the monotonic clock
when `record_jti` starts, and the wall clock right after that. -/
structure Readings where
  decodeWall : Int
  now : Int
  unixWall : Int

def authenticateGithubActions (actions : GithubActionsConfig) (identities : List IdentityConfig)
    (jwkFor : String → Except AuthError RsaJwk) (at_ : Readings) (token : String)
    (seenJtis : SeenJtis) : Outcome AuthError AuthPrincipal × SeenJtis :=
  match verifyToken jwt actions jwkFor (unixSeconds at_.decodeWall) token with
  | .error e => (.err e, seenJtis)
  | .ok claims => admitClaims identities claims at_.now (unixSeconds at_.unixWall) seenJtis

/-! ## What the functions do -/

/-- The four ways through `record_jti`, once the lock is taken. -/
theorem recordJti_cases (jti : String) (exp : UInt64) (now : Int) (unixNow : Nat)
    {seenJtis : SeenJtis} (hp : seenJtis.poisoned = false) :
    let seen := seenJtis.data.purge id now
    let d := Duration.fromSecs (saturatingAdd (exp.toNat - unixNow) jwtLeewaySeconds)
    (∃ u, seen.lookup jti = some u ∧
      recordJti jti exp now unixNow seenJtis = (.err .tokenReplayed, { data := seen })) ∨
    (seen.lookup jti = none ∧ maxSeenJtis ≤ seen.size ∧
      recordJti jti exp now unixNow seenJtis = (.err .replayCacheUnavailable, { data := seen })) ∨
    (seen.lookup jti = none ∧ seen.size < maxSeenJtis ∧ Instant.checkedAdd now d = none ∧
      recordJti jti exp now unixNow seenJtis = (.panic, { data := seen, poisoned := true })) ∨
    (seen.lookup jti = none ∧ seen.size < maxSeenJtis ∧ Instant.checkedAdd now d = some (now + d) ∧
      recordJti jti exp now unixNow seenJtis = (.ok (), { data := seen.insert jti (now + d) })) := by
  intro seen d
  have hlock : seenJtis.lock = some seenJtis.data := Mutex.lock_eq_some.mpr ⟨hp, rfl⟩
  have hrec : recordJti jti exp now unixNow seenJtis =
      if (seen.lookup jti).isSome then (.err .tokenReplayed, { data := seen })
      else if seen.size ≥ maxSeenJtis then (.err .replayCacheUnavailable, { data := seen })
      else match Instant.checkedAdd now d with
        | none => (.panic, { data := seen, poisoned := true })
        | some until_ => (.ok (), { data := seen.insert jti until_ }) := by
    unfold recordJti
    rw [hlock]
  rw [hrec]
  cases hl : seen.lookup jti with
  | some u => exact .inl ⟨u, rfl, rfl⟩
  | none =>
    refine .inr ?_
    by_cases hs : maxSeenJtis ≤ seen.size
    · exact .inl ⟨rfl, hs, by rw [if_neg (by simp), if_pos hs]⟩
    · refine .inr ?_
      rw [if_neg (by simp), if_neg hs]
      cases ha : Instant.checkedAdd now d with
      | none => exact .inl ⟨rfl, Nat.lt_of_not_le hs, rfl, rfl⟩
      | some u =>
        have hu : u = now + d := Instant.checkedAdd_eq_some ha
        subst hu
        exact .inr ⟨rfl, Nat.lt_of_not_le hs, rfl, rfl⟩

theorem recordJti_isOk {jti : String} {exp : UInt64} {now : Int} {unixNow : Nat}
    {seenJtis : SeenJtis} (hp : seenJtis.poisoned = false) :
    (recordJti jti exp now unixNow seenJtis).1.isOk = true ↔
      (seenJtis.data.purge id now).lookup jti = none ∧
      (seenJtis.data.purge id now).size < maxSeenJtis ∧
      (Instant.checkedAdd now
        (Duration.fromSecs (saturatingAdd (exp.toNat - unixNow) jwtLeewaySeconds))).isSome := by
  rcases recordJti_cases jti exp now unixNow hp with
    ⟨u, hl, he⟩ | ⟨hl, hs, he⟩ | ⟨hl, hs, ha, he⟩ | ⟨hl, hs, ha, he⟩
  · simp [he, hl, Outcome.isOk]
  · simp [he, Outcome.isOk, Nat.not_lt.mpr hs]
  · simp [he, ha, Outcome.isOk]
  · simp [he, hl, hs, ha, Outcome.isOk]

theorem verifyToken_ok {jwt : JsonWebToken Key} {actions : GithubActionsConfig}
    {jwkFor : String → Except AuthError RsaJwk} {unixNow : Nat} {token : String}
    {claims : GithubActionsClaims} (h : verifyToken jwt actions jwkFor unixNow token = .ok claims) :
    ∃ key, jwt.decode unixNow token key (actionsValidation actions) = some claims := by
  simp only [verifyToken, Except.bind_eq_ok, okOr_eq_ok] at h
  obtain ⟨_, -, _, -, _, -, _, -, key, -, hd⟩ := h
  exact ⟨key, hd⟩

theorem filter_jti_eq_some {claims : GithubActionsClaims} {jti : String} :
    (claims.jti.filter fun jti => !isEmpty jti && decide (len jti ≤ maxJtiBytes)) = some jti ↔
      claims.jti = some jti ∧ jti ≠ "" ∧ len jti ≤ maxJtiBytes := by
  rw [Option.filter_eq_some_iff, Bool.and_eq_true, Bool.not_eq_true', decide_eq_true_eq,
    isEmpty_eq_false]

theorem admitClaims_of_record {identities : List IdentityConfig} {claims : GithubActionsClaims}
    {now : Int} {unixNow : Nat} {seenJtis : SeenJtis} {jti : String} {identity : IdentityConfig}
    (hjti : claims.jti = some jti) (hsize : jti ≠ "" ∧ len jti ≤ maxJtiBytes)
    (hidentity : resolveGithubActionsIdentity identities claims = .ok identity)
    (hrec : (recordJti jti claims.exp now unixNow seenJtis).1.isOk = true) :
    (admitClaims identities claims now unixNow seenJtis).1.isOk = true := by
  unfold admitClaims
  simp only [filter_jti_eq_some.mpr ⟨hjti, hsize⟩, hidentity, Outcome.isOk_bind_ok, hrec]

/-- What is recorded has a `jti` of a valid length and an identity. -/
theorem admitClaims_isOk {identities : List IdentityConfig} {claims : GithubActionsClaims}
    {now : Int} {unixNow : Nat} {seenJtis : SeenJtis} {jti : String} (hjti : claims.jti = some jti)
    (hok : (admitClaims identities claims now unixNow seenJtis).1.isOk = true) :
    ∃ identity, (jti ≠ "" ∧ len jti ≤ maxJtiBytes) ∧
      resolveGithubActionsIdentity identities claims = .ok identity ∧
      (recordJti jti claims.exp now unixNow seenJtis).1.isOk = true := by
  unfold admitClaims at hok
  cases hfilter : claims.jti.filter fun jti => !isEmpty jti && decide (len jti ≤ maxJtiBytes) with
  | none => rw [hfilter] at hok; cases hok
  | some jti' =>
    obtain ⟨hjti', hsize⟩ := filter_jti_eq_some.mp hfilter
    obtain rfl : jti = jti' := Option.some.inj (hjti.symm.trans hjti')
    cases hidentity : resolveGithubActionsIdentity identities claims with
    | error e =>
      simp only [hfilter, hidentity] at hok
      cases hok
    | ok identity =>
      simp only [hfilter, hidentity, Outcome.isOk_bind_ok] at hok
      exact ⟨identity, hsize, rfl, hok⟩

/-- Verified claims are refused before the replay cache, or `record_jti` decides; which of the two
depends on the claims alone. -/
theorem admitClaims_cases (identities : List IdentityConfig) (claims : GithubActionsClaims) :
    (∃ e, ∀ now unixNow seenJtis,
      admitClaims identities claims now unixNow seenJtis = (.err e, seenJtis)) ∨
    ∃ jti identity, claims.jti = some jti ∧
      resolveGithubActionsIdentity identities claims = .ok identity ∧
      ∀ now unixNow seenJtis, admitClaims identities claims now unixNow seenJtis =
        ((recordJti jti claims.exp now unixNow seenJtis).1.bind fun _ =>
          .ok (actionsPrincipal identity claims jti),
        (recordJti jti claims.exp now unixNow seenJtis).2) := by
  unfold admitClaims
  cases hj : claims.jti.filter fun jti => !isEmpty jti && decide (len jti ≤ maxJtiBytes) with
  | none => exact .inl ⟨_, fun _ _ _ => rfl⟩
  | some jti =>
    cases hr : resolveGithubActionsIdentity identities claims with
    | error e => exact .inl ⟨e, fun _ _ _ => rfl⟩
    | ok identity =>
      exact .inr ⟨jti, identity, (Option.filter_eq_some_iff.mp hj).1, rfl, fun _ _ _ => rfl⟩

/-- An accepted token is one of the resolved identity. -/
theorem admitClaims_ok {identities : List IdentityConfig} {claims : GithubActionsClaims} {now : Int}
    {unixNow : Nat} {seenJtis seenJtis' : SeenJtis} {principal : AuthPrincipal}
    (h : admitClaims identities claims now unixNow seenJtis = (.ok principal, seenJtis')) :
    ∃ jti identity, resolveGithubActionsIdentity identities claims = .ok identity ∧
      principal = actionsPrincipal identity claims jti := by
  rcases admitClaims_cases identities claims with ⟨e, he⟩ | ⟨jti, identity, -, hres, hrec⟩
  · rw [he] at h
    cases h
  · rw [hrec, Prod.mk.injEq] at h
    refine ⟨jti, identity, hres, ?_⟩
    have hok := h.1
    cases hr : (recordJti jti claims.exp now unixNow seenJtis).1 with
    | ok u =>
      rw [hr] at hok
      cases hok
      rfl
    | err e => rw [hr] at hok; cases hok
    | panic => rw [hr] at hok; cases hok

/-! ## An example token -/

/-- The claims of a release run, with `exp` at second 1000. -/
def exampleClaims : GithubActionsClaims where
  iss := githubActionsIssuer
  aud := .one "microtun-signer"
  sub := "repo:owner/microtun:environment:firmware-signing"
  exp := 1000
  jti := some "4f1c"
  actor := some "maintainer-login"
  actorId := some "24681012"
  repository := "owner/microtun"
  repositoryId := "123456789"
  gitRef := "refs/tags/v1.0.0"
  refType := "tag"
  refProtected := some (.bool true)
  sha := "0123456789abcdef0123456789abcdef01234567"
  workflowRef := "owner/microtun/.github/workflows/release.yml@refs/tags/v1.0.0"
  workflowSha := none
  eventName := "push"
  runId := "77"
  runAttempt := "1"
  environment := some "firmware-signing"
  runnerEnvironment := some "github-hosted"

def exampleToken : String := "eyJhbGciOiJSUzI1NiJ9.eyJqdGkiOiI0ZjFjIn0.c2ln"

/-- A verifier that knows one token, with the documented check of the expiry. -/
def exampleJwt : JsonWebToken Unit where
  decodeHeader token := if token = exampleToken then some ⟨.rs256, some "kid"⟩ else none
  fromRsaComponents _ _ := some ()
  decode now token _ v :=
    if token = exampleToken ∧ now ≤ exampleClaims.exp.toNat + v.leeway then some exampleClaims
    else none

end MicrotunSigner
