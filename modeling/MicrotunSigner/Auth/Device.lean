import MicrotunSigner.Auth.Session
import MicrotunSigner.Lib.Sys
import Mathlib.Data.Finset.Insert
import Mathlib.Logic.Function.Basic

/-!
# The device-flow exchange (`auth.rs`)

`complete_github_device_oauth` trades a GitHub bootstrap token for a session: it reserves the token,
has GitHub check it, looks up its account, has GitHub revoke it, records it as used and mints the
session. The exchange as a program: one step is what happens under one lock, one request that goes
out, or one reply that comes in, and any number of calls run in any order (`deviceSys`).

* GitHub may answer every request in any way, or not at all (`HttpResponse`).
* The clock is read in a step of its own, before the lock.
* A call can be cancelled wherever it awaits a reply or the lock of the sessions. Its guard is then
  dropped, as at every other end (`dropping`).
* The mutex of the replay cache can be poisoned at any time.

The two times to live are an hour at most, so that they are added without the overflow check of an
instant.
-/

namespace MicrotunSigner

open Lib Lib.Text

def maxUsedDeviceTokens : Nat := 65536
def deviceTokenReplayTtl : Nat := Duration.fromSecs (60 * 60)

/-! ## The replies of GitHub -/

/-- A response: its status, and its body if that can be read. -/
structure HttpResponse (B : Type) where
  status : StatusCode
  json : Option B
  deriving DecidableEq

structure GithubTokenCheckApp where
  clientId : String
  deriving DecidableEq

structure GithubTokenCheckResponse where
  scopes : List String
  app : GithubTokenCheckApp
  deriving DecidableEq

/-- `check_github_oauth_token`, with the reply to its request (`none`: the request failed). -/
def checkGithubOAuthToken (github : GithubConfig)
    (reply : Option (HttpResponse GithubTokenCheckResponse)) :
    Except OAuthFlowError (List String) := do
  let response ← okOr reply .identityProviderUnavailable
  bailIf (response.status == .notFound) .tokenValidationFailed
  bailIf (!response.status.isSuccess) .identityProviderUnavailable
  let checked ← okOr response.json .identityProviderUnavailable
  bailIf (checked.app.clientId != github.oauthClientId) .tokenValidationFailed
  return checked.scopes

def resolveGithubUser (reply : Option (HttpResponse GithubUserResponse)) :
    Except AuthError GithubUserResponse := do
  let response ← okOr reply .identityProviderUnavailable
  bailIf (response.status == .unauthorized) .invalidToken
  bailIf (!response.status.isSuccess) .identityProviderUnavailable
  okOr response.json .identityProviderUnavailable

/-- A token that GitHub does not know is as good as revoked. -/
def revokeGithubToken (reply : Option StatusCode) : Except OAuthFlowError Unit := do
  let status ← okOr reply .tokenRevocationFailed
  bailIf (!(status == .noContent || status == .notFound)) .tokenRevocationFailed

/-! ## The replay cache -/

structure DeviceTokenReplay where
  inFlight : Finset Sha256Digest
  used : Map Sha256Digest Int

/-- The critical section of `begin_device_token_use`. On success the caller has a guard. -/
def beginDeviceTokenUse (key : Sha256Digest) (now : Int) (replay : Mutex DeviceTokenReplay) :
    Except OAuthFlowError Unit × Mutex DeviceTokenReplay :=
  match replay.lock with
  | none => (.error .replayCacheUnavailable, replay)
  | some data =>
    let used := data.used.purge id now
    if (used.lookup key).isSome || key ∈ data.inFlight then
      (.error .tokenReplayed, { replay with data := { data with used } })
    else (.ok (), { replay with data := { inFlight := insert key data.inFlight, used } })

/-- The critical section of `mark_consumed`. -/
def markConsumed (key : Sha256Digest) (now : Int) (replay : Mutex DeviceTokenReplay) :
    Except OAuthFlowError Unit × Mutex DeviceTokenReplay :=
  match replay.lock with
  | none => (.error .replayCacheUnavailable, replay)
  | some data =>
    let used := data.used.purge id now
    if used.size ≥ maxUsedDeviceTokens && (used.lookup key).isNone then
      (.error .replayCacheUnavailable, { replay with data := { data with used } })
    else
      (.ok (), { replay with data := { data with used := used.insert key (now + deviceTokenReplayTtl) } })

/-- The drop of the guard. -/
def dropGuard (key : Sha256Digest) (replay : Mutex DeviceTokenReplay) : Mutex DeviceTokenReplay :=
  match replay.lock with
  | none => replay
  | some data => { replay with data := { data with inFlight := data.inFlight.erase key } }

/-! ## The calls -/

/-- What a call will return; `none` if it was cancelled. -/
abbrev DeviceResult := Option (Except OAuthFlowError OAuthSessionGrant)

/-- Where a call is. `outcome` is the result of `github_account_from_token`. -/
inductive DevicePc where
  | idle
  /-- Before the reading of the clock, and before the lock of the replay cache. -/
  | entered (token : String)
  | beginning (token : String) (now : Int)
  /-- The three requests: about to be sent, and waiting for the reply. -/
  | sendCheck (token : String)
  | checking (token : String)
  | granted (token : String) (scopes : List String)
  | sendUser (token : String) (scopes : List String)
  | lookingUp (token : String) (scopes : List String)
  | sendRevoke (token : String) (outcome : Except OAuthFlowError (String × GithubUserResponse))
  | revoking (token : String) (outcome : Except OAuthFlowError (String × GithubUserResponse))
  /-- In `mark_consumed`: before the reading of the clock, and before the lock. -/
  | revoked (token : String) (outcome : Except OAuthFlowError (String × GithubUserResponse))
  | consuming (token : String) (outcome : Except OAuthFlowError (String × GithubUserResponse))
      (now : Int)
  /-- In `mint_github_account_session`: before its readings, and before the lock. -/
  | minting (token identityId : String) (user : GithubUserResponse)
  | inserting (token : String) (now : Int) (sessionToken : String) (session : GithubAccountSession)
  | dropping (token : String) (result : DeviceResult)
  | done (token : String) (result : DeviceResult)

/-- What a step of a call gets from outside. -/
inductive DeviceIn where
  | go
  | check (reply : Option (HttpResponse GithubTokenCheckResponse))
  | user (reply : Option (HttpResponse GithubUserResponse))
  | revoke (reply : Option StatusCode)
  | random (bytes : Vector UInt8 32)
  | cancel

structure DeviceShared where
  now : Int
  replay : Mutex DeviceTokenReplay
  sessions : OAuthSessions

/-- A call on `token` starts with its check of the length. -/
def enterDevice (token : String) : DevicePc :=
  if isEmpty token || len token > maxBearerTokenBytes then
    .done token (some (.error .tokenValidationFailed))
  else .entered token

namespace Authenticator

variable {Key : Type} (self : Authenticator Key)

/-- The SHA-256 digest of a token. -/
def key (token : String) : Sha256Digest := sessionKey self.sha256 token

/-- The next step of a call: what is shared, and where the call is then. -/
def stepDevice (s : DeviceShared) : DevicePc → DeviceIn → Option (DeviceShared × DevicePc)
  | .entered token, .go => some (s, .beginning token s.now)
  | .beginning token now, .go =>
    let (begun, replay) := beginDeviceTokenUse (self.key token) now s.replay
    some ({ s with replay }, match begun with
      | .error e => .done token (some (.error e))
      | .ok () => .sendCheck token)
  | .sendCheck token, .go => some (s, .checking token)
  | .sendCheck token, .cancel => some (s, .dropping token none)
  | .checking token, .check reply =>
    some (s, match checkGithubOAuthToken self.github reply with
      | .error e => .dropping token (some (.error e))
      | .ok scopes => .granted token scopes)
  | .checking token, .cancel => some (s, .dropping token none)
  | .granted token scopes, .go =>
    some (s, if scopeGrantsReadUser scopes then .sendUser token scopes
      else .sendRevoke token (.error .scopeNotGranted))
  | .sendUser token scopes, .go => some (s, .lookingUp token scopes)
  | .sendUser token _, .cancel => some (s, .dropping token none)
  | .lookingUp token scopes, .user reply =>
    some (s, .sendRevoke token
      (githubAccountFromToken self.identities scopes (resolveGithubUser reply)))
  | .lookingUp token _, .cancel => some (s, .dropping token none)
  | .sendRevoke token outcome, .go => some (s, .revoking token outcome)
  | .sendRevoke token _, .cancel => some (s, .dropping token none)
  | .revoking token outcome, .revoke reply =>
    some (s, match revokeGithubToken reply with
      | .error e => .dropping token (some (.error e))
      | .ok () => .revoked token outcome)
  | .revoking token _, .cancel => some (s, .dropping token none)
  | .revoked token outcome, .go => some (s, .consuming token outcome s.now)
  | .consuming token outcome now, .go =>
    let (consumed, replay) := markConsumed (self.key token) now s.replay
    some ({ s with replay }, match consumed, outcome with
      | .error e, _ => .dropping token (some (.error e))
      -- Only now does the outcome of the lookup matter.
      | .ok (), .error e => .dropping token (some (.error e))
      | .ok (), .ok (identityId, user) => .minting token identityId user)
  | .minting token identityId user, .random bytes =>
    some (s, .inserting token s.now (sessionToken bytes)
      (newSession self.github s.now identityId user))
  | .inserting token now sessionToken session, .go =>
    let (inserted, sessions) := insertSession now (self.key sessionToken) session s.sessions
    some ({ s with sessions }, .dropping token (some
      (inserted.map fun _ => ⟨sessionToken, self.github.oauthSessionTtlSeconds⟩)))
  | .inserting token _ _ _, .cancel => some (s, .dropping token none)
  | .dropping token result, .go =>
    some ({ s with replay := dropGuard (self.key token) s.replay }, .done token result)
  | _, _ => none

end Authenticator

structure DeviceSt where
  shared : DeviceShared
  calls : Nat → DevicePc

inductive DeviceAct where
  | start (c : Nat) (token : String)
  | call (c : Nat) (input : DeviceIn)
  | tick (d : Nat)
  | poison

/-- The state of a new server: no call, no token in use, no session. -/
def DeviceSt.new (now : Int) : DeviceSt where
  shared := { now, replay := { data := ⟨∅, Map.empty⟩ }, sessions := Map.empty }
  calls _ := .idle

/-- All interleavings of exchanges. -/
def Authenticator.deviceSys {Key : Type} (self : Authenticator Key) : Sys DeviceSt DeviceAct where
  init s := ∃ now, s = .new now
  step s
    | .start c token => match s.calls c with
      | .idle => some { s with calls := Function.update s.calls c (enterDevice token) }
      | _ => none
    | .call c input => (self.stepDevice s.shared (s.calls c) input).map fun (shared, pc) =>
        ⟨shared, Function.update s.calls c pc⟩
    | .tick d => some { s with shared := { s.shared with now := s.shared.now + d } }
    | .poison =>
      some { s with shared := { s.shared with replay := { s.shared.replay with poisoned := true } } }

end MicrotunSigner
