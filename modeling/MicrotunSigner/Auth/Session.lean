import MicrotunSigner.Auth.Actions
import MicrotunSigner.Config.Accepted
import MicrotunSigner.Lib.Base64

/-!
# Signer sessions (`auth.rs`)

The sessions that the signer itself grants to GitHub accounts, and `authenticate`, which routes a
bearer token to them or to the Actions path.

* `mintGithubAccountSession` is `newSession` and `sessionToken` before the lock, and
  `insertSession` under it.
* `githubAccountFromToken`: the identity of the account that GitHub reports for a token.
* SHA-256 and the operating system's random bytes are parameters.

A session lives for at most an hour in a checked configuration (`Config.Accepted.sessionTtl`), so
its expiry is added without the overflow check of an instant.
-/

namespace MicrotunSigner

open Lib Lib.Text

def githubAccountIssuer : String := "https://github.com"
def maxOAuthSessions : Nat := 4096
def sessionTokenPrefix : String := "mts_"

/-- A SHA-256 digest. -/
abbrev Sha256Digest := Vector UInt8 32

inductive OAuthFlowError where
  | tokenValidationFailed
  | tokenReplayed
  | replayCacheUnavailable
  | scopeNotGranted
  | identityProviderUnavailable
  | tokenRevocationFailed
  | claimsDenied
  | twoFactorRequired
  | sessionCapacity
  deriving DecidableEq, Repr

structure GithubUserResponse where
  login : String
  id : UInt64
  twoFactorAuthentication : Option Bool
  deriving DecidableEq, Repr

structure OAuthSessionGrant where
  accessToken : String
  expiresIn : Nat
  deriving DecidableEq, Repr

structure GithubAccountSession where
  expiresAt : Int
  identityId : String
  userId : String
  login : String
  deriving DecidableEq, Repr

/-- The sessions, by the SHA-256 digest of their token. -/
abbrev OAuthSessions := Map Sha256Digest GithubAccountSession

def sessionKey (sha256 : List UInt8 → Sha256Digest) (token : String) : Sha256Digest :=
  sha256 token.toByteArray.data.toList

/-- The identity of the account that GitHub reports. `user` is what `resolve_github_user` gave. -/
def githubAccountFromToken (identities : List IdentityConfig) (grantedScopes : List String)
    (user : Except AuthError GithubUserResponse) :
    Except OAuthFlowError (String × GithubUserResponse) :=
  if !scopeGrantsReadUser grantedScopes then .error .scopeNotGranted
  else match user with
    | .error .claimsDenied => .error .claimsDenied
    | .error .invalidToken => .error .tokenValidationFailed
    | .error _ => .error .identityProviderUnavailable
    | .ok user =>
      let userId := toString user.id.toNat
      match identities.find? fun i => matchesGithubAccountIdentity i userId user.login with
      | none => .error .claimsDenied
      | some identity =>
        -- A missing field is a public profile: the status is unknown.
        if user.twoFactorAuthentication != some true then .error .twoFactorRequired
        else .ok (identity.id, user)

/-- What an accepted account is: the scope was granted, an identity matches the account that GitHub
reported, and its two-factor authentication is on. -/
theorem githubAccountFromToken_ok {identities : List IdentityConfig} {scopes : List String}
    {reported : Except AuthError GithubUserResponse} {identityId : String}
    {user : GithubUserResponse}
    (h : githubAccountFromToken identities scopes reported = .ok (identityId, user)) :
    scopeGrantsReadUser scopes = true ∧ reported = .ok user ∧
    (∃ i ∈ identities, i.id = identityId ∧
      matchesGithubAccountIdentity i (toString user.id.toNat) user.login = true) ∧
    user.twoFactorAuthentication = some true := by
  unfold githubAccountFromToken at h
  split at h
  · cases h
  · rename_i hscope
    split at h
    · cases h
    · cases h
    · cases h
    · rename_i user'
      simp only at h
      split at h
      · cases h
      · rename_i i hi
        have hmatch : matchesGithubAccountIdentity i (toString user'.id.toNat) user'.login = true := by
          simpa using List.find?_some hi
        by_cases htwo : user'.twoFactorAuthentication = some true
        · rw [htwo] at h
          cases h
          exact ⟨by simpa using hscope, rfl,
            ⟨i, List.mem_of_find?_eq_some hi, rfl, hmatch⟩, htwo⟩
        · rw [if_pos (by simpa using htwo)] at h
          cases h

/-! ## Minting -/

def sessionToken (random : Vector UInt8 32) : String :=
  sessionTokenPrefix ++ String.ofList (Base64.encode random.toList)

def newSession (github : GithubConfig) (now : Int) (identityId : String)
    (user : GithubUserResponse) : GithubAccountSession where
  expiresAt := now + Duration.fromSecs github.oauthSessionTtlSeconds
  identityId := identityId
  userId := toString user.id.toNat
  login := user.login

/-- The critical section of `mint_github_account_session`. -/
def insertSession (now : Int) (key : Sha256Digest) (session : GithubAccountSession)
    (sessions : OAuthSessions) : Except OAuthFlowError Unit × OAuthSessions :=
  let sessions := sessions.purge GithubAccountSession.expiresAt now
  if sessions.size ≥ maxOAuthSessions then (.error .sessionCapacity, sessions)
  else (.ok (), sessions.insert key session)

def mintGithubAccountSession (sha256 : List UInt8 → Sha256Digest) (github : GithubConfig)
    (now : Int) (random : Vector UInt8 32) (identityId : String) (user : GithubUserResponse)
    (sessions : OAuthSessions) : Except OAuthFlowError OAuthSessionGrant × OAuthSessions :=
  let session := newSession github now identityId user
  let token := sessionToken random
  let (inserted, sessions) := insertSession now (sessionKey sha256 token) session sessions
  (inserted.map fun _ => ⟨token, github.oauthSessionTtlSeconds⟩, sessions)

/-! ## Authenticating -/

/-- The principal of a session. -/
def sessionPrincipal (github : GithubConfig) (session : GithubAccountSession) : AuthPrincipal where
  identityId := session.identityId
  principalKey := s!"github-account:{session.userId}"
  authMethod := "github-oauth-session"
  issuer := githubAccountIssuer
  audience := some github.oauthClientId
  subject := session.userId
  jti := none
  source := .githubAccount ⟨session.userId, session.login⟩

def authenticateGithubAccountSession (sha256 : List UInt8 → Sha256Digest) (github : GithubConfig)
    (now : Int) (token : String) (sessions : OAuthSessions) : Except AuthError AuthPrincipal := do
  bailIf (!startsWith token sessionTokenPrefix) .invalidToken
  let session ← okOr (sessions.live GithubAccountSession.expiresAt now (sessionKey sha256 token))
    .invalidToken
  return sessionPrincipal github session

theorem authenticateGithubAccountSession_eq_ok {sha256 : List UInt8 → Sha256Digest}
    {github : GithubConfig} {now : Int} {token : String} {sessions : OAuthSessions}
    {p : AuthPrincipal} :
    authenticateGithubAccountSession sha256 github now token sessions = .ok p ↔
      startsWith token sessionTokenPrefix = true ∧ ∃ session,
        sessions.live GithubAccountSession.expiresAt now (sessionKey sha256 token) = some session ∧
        p = sessionPrincipal github session := by
  simp only [authenticateGithubAccountSession, Except.bind_eq_ok, bailIf_eq_ok, okOr_eq_ok,
    exists_const, Bool.not_eq_false']
  refine and_congr_right fun _ => exists_congr fun session => and_congr_right fun _ => ?_
  exact ⟨fun h => by cases h; rfl, fun h => by rw [h]; rfl⟩

/-- What an authenticator is built from: its configuration and the code outside the repository. -/
structure Authenticator (Key : Type) where
  jwt : JsonWebToken Key
  sha256 : List UInt8 → Sha256Digest
  github : GithubConfig
  actions : GithubActionsConfig
  identities : List IdentityConfig

/-- The state that `authenticate` and the minting of sessions share. -/
structure AuthState where
  oauthSessions : OAuthSessions
  seenJtis : SeenJtis

def AuthState.new : AuthState := ⟨Map.empty, { data := Map.empty }⟩

/-- A call of `authenticate`: its headers, what `jwk_for` answers and the clocks it reads. -/
structure AuthCall where
  headers : HeaderMap
  jwkFor : String → Except AuthError RsaJwk
  at_ : Readings

variable {Key : Type}

def Authenticator.authenticate (self : Authenticator Key) (call : AuthCall) (s : AuthState) :
    Outcome AuthError AuthPrincipal × AuthState :=
  match bearerToken call.headers with
  | .error e => (.err e, s)
  | .ok token =>
    if isGithubActionsJwt self.jwt token then
      let (outcome, seenJtis) := authenticateGithubActions self.jwt self.actions self.identities
        call.jwkFor call.at_ token s.seenJtis
      (outcome, { s with seenJtis })
    else
      (.ofExcept (authenticateGithubAccountSession self.sha256 self.github call.at_.now token
        s.oauthSessions), s)

section Routes

variable {self : Authenticator Key} {call : AuthCall} {s : AuthState} {token : String}

theorem authenticate_error {e : AuthError} (hb : bearerToken call.headers = .error e) :
    self.authenticate call s = (.err e, s) := by
  unfold Authenticator.authenticate
  rw [hb]

theorem authenticate_actions (hb : bearerToken call.headers = .ok token)
    (hj : isGithubActionsJwt self.jwt token = true) :
    self.authenticate call s =
      ((authenticateGithubActions self.jwt self.actions self.identities call.jwkFor call.at_ token
        s.seenJtis).1,
      { s with seenJtis := (authenticateGithubActions self.jwt self.actions self.identities
        call.jwkFor call.at_ token s.seenJtis).2 }) := by
  unfold Authenticator.authenticate
  rw [hb]
  exact if_pos hj

theorem authenticate_session (hb : bearerToken call.headers = .ok token)
    (hj : isGithubActionsJwt self.jwt token = false) :
    self.authenticate call s =
      (.ofExcept (authenticateGithubAccountSession self.sha256 self.github call.at_.now token
        s.oauthSessions), s) := by
  unfold Authenticator.authenticate
  rw [hb]
  exact if_neg (by simp [hj])

end Routes

/-! ## The shape of a minted token -/

/-- No dot is minted, so a minted token is not a JWT. -/
theorem dot_not_mem_sessionToken (random : Vector UInt8 32) :
    '.' ∉ (sessionToken random).toList := by
  unfold sessionToken
  rw [String.toList_append, String.toList_ofList, List.mem_append, not_or]
  refine ⟨by decide, fun h => ?_⟩
  exact absurd (Base64.mem_alphabet_of_mem_encode h) (by decide)

theorem sessionToken_not_jwt (jwt : JsonWebToken Key) (random : Vector UInt8 32) :
    isGithubActionsJwt jwt (sessionToken random) = false := by
  unfold isGithubActionsJwt
  rw [split_of_not_mem (dot_not_mem_sessionToken random)]
  rfl

theorem sessionToken_prefix (random : Vector UInt8 32) :
    startsWith (sessionToken random) sessionTokenPrefix = true := by
  unfold startsWith sessionToken
  rw [String.toList_append, List.isPrefixOf_iff_prefix]
  exact List.prefix_append _ _

/-! ## An example authenticator -/

/-- The session token of 32 zero bytes. -/
def exampleSessionToken : String := "mts_AAAAAAAAAAAAAAAAAAAAAAAAAAAAAAAAAAAAAAAAAAA"

example : sessionToken (Vector.replicate 32 0) = exampleSessionToken := by decide

/-- SHA-256 of that token. -/
def exampleSha256 (bytes : List UInt8) : Sha256Digest :=
  if bytes = exampleSessionToken.toByteArray.data.toList then
    #v[165, 131, 11, 232, 51, 54, 22, 5, 17, 43, 88, 96, 49, 52, 84, 181,
      253, 140, 13, 252, 220, 119, 57, 127, 160, 68, 230, 100, 101, 65, 49, 254]
  else Vector.replicate 32 0

def exampleAuthenticator : Authenticator Unit where
  jwt := exampleJwt
  sha256 := exampleSha256
  github := exampleConfig.github
  actions := exampleConfig.githubActions
  identities := exampleConfig.identities

end MicrotunSigner
