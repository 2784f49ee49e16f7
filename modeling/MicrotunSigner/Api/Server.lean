import MicrotunSigner.Api.Admin
import MicrotunSigner.Api.LimiterRuns
import MicrotunSigner.Api.Sign
import MicrotunSigner.Auth.DeviceRuns
import MicrotunSigner.Auth.Jwks
import MicrotunSigner.Key.Keyrings

/-!
# The server (`api.rs`, `main.rs`)

The handlers of the public API, any number of them at once, over the state that they share: the key
store and the admin API, the device exchanges with the sessions, the keys of GitHub Actions, the
replay cache, and the limiter (`Server.sys`). One step of a handler goes from one await, lock or
reading of a clock to the next.

* A handler that waits for an exchange, or for `jwk_for`, has started that call in the system of
  these calls, under a number of its own. The call goes on by steps of that system.
* A client can disconnect while its handler awaits. The handler is then dropped with what it has:
  the call it waits for is cancelled, and after the end of the call its permit is given back.
* A panic is caught and answered (`CatchPanicLayer`).
* The two monotonic clocks of the calls are one (`Server.sys`). The wall clock may be set, so that
  its readings are arbitrary.
-/

namespace MicrotunSigner

open Lib Lib.Text

/-! ## Requests and answers -/

inductive PublicRoute where
  | deviceConfig
  | deviceExchange
  | publicKey (keyId : String)
  | sign (keyId : String)
  deriving DecidableEq

/-- A request to the public API, with the id that its handler makes up. -/
structure PublicRequest where
  requestId : String
  peer : IpAddr
  route : PublicRoute
  headers : HeaderMap
  body : List UInt8

structure OAuthDeviceConfig where
  clientId : String
  deviceCodeUrl : String
  accessTokenUrl : String
  scope : String
  deriving DecidableEq

structure OAuthDeviceExchangeRequest where
  accessToken : String

/-- The body of a successful answer. -/
inductive PublicResponse where
  | deviceConfig (config : OAuthDeviceConfig)
  | session (grant : OAuthSessionGrant)
  | publicKey (pem : String)
  | signature (response : SignatureResponse)
  deriving DecidableEq

def OAuthFlowError.toString : OAuthFlowError → String
  | .tokenValidationFailed =>
    "GitHub OAuth token is invalid or was not issued to this signer application"
  | .tokenReplayed => "GitHub OAuth bootstrap token has already been used"
  | .replayCacheUnavailable => "GitHub OAuth replay cache is unavailable"
  | .scopeNotGranted => "GitHub OAuth token was not granted the required scope"
  | .identityProviderUnavailable => "GitHub identity provider is temporarily unavailable"
  | .tokenRevocationFailed => "GitHub OAuth token could not be revoked"
  | .claimsDenied => "authenticated GitHub account does not match a configured identity"
  | .twoFactorRequired =>
    "authenticated GitHub account does not have two-factor authentication enabled"
  | .sessionCapacity => "too many OAuth sessions are active"

def oauthFlowError (error : OAuthFlowError) (requestId : String) : ApiError :=
  match error with
  | .tokenValidationFailed => .new .unauthorized "oauth-token-invalid"
      "GitHub OAuth token is invalid"
      "The token is invalid or was not issued to this signer's GitHub OAuth application." requestId
  | .tokenReplayed => .new .conflict "oauth-token-replayed"
      "GitHub OAuth token has already been used"
      "Start a new GitHub device authorization and try again." requestId
  | .replayCacheUnavailable => .new .serviceUnavailable "oauth-replay-cache-unavailable"
      "GitHub OAuth login is temporarily unavailable"
      "The signer cannot safely record the one-time bootstrap token." requestId
  | .scopeNotGranted => .new .forbidden "oauth-scope-not-granted"
      "GitHub did not grant the read:user scope"
      "The read:user scope is required to verify two-factor authentication." requestId
  | .identityProviderUnavailable => .new .serviceUnavailable "identity-provider-unavailable"
      "GitHub identity verification is temporarily unavailable"
      "The signer could not complete GitHub OAuth authentication." requestId
  | .tokenRevocationFailed => .new .serviceUnavailable "oauth-token-revocation-failed"
      "GitHub OAuth token revocation failed"
      "The signer will not issue a local session until the GitHub bootstrap token is revoked."
      requestId
  | .claimsDenied => .new .forbidden "identity-not-authorized"
      "Authenticated identity is not authorized"
      "The authenticated GitHub account is not configured as a signer identity." requestId
  | .twoFactorRequired => .new .forbidden "github-2fa-required"
      "GitHub two-factor authentication is required"
      "Enable two-factor authentication on the GitHub account and log in again." requestId
  | .sessionCapacity => .new .serviceUnavailable "oauth-capacity-exhausted"
      "GitHub OAuth login is temporarily unavailable"
      "The signer has reached its temporary OAuth session capacity." requestId

def deviceExchangeLimitError (error : DeviceExchangeLimitError) (requestId : String) : ApiError :=
  match error with
  | .rateLimited => .new .tooManyRequests "oauth-device-rate-limited"
      "Too many GitHub device-token exchanges"
      "Wait before attempting another GitHub device-token exchange from this source." requestId
  | .busy => .new .serviceUnavailable "oauth-device-busy" "GitHub device-token exchange is busy"
      "The signer is already processing the maximum number of GitHub device-token exchanges."
      requestId

/-! ## The server -/

/-- What `run_server` puts together, and the crates that it calls. -/
structure Server (Key P S R : Type) where
  auth : Authenticator Key
  state : AppState
  api : ApiCrates
  crates : KeyCrates P S R
  exchangeFromSlice : List UInt8 → Option OAuthDeviceExchangeRequest
  unlockFromSlice : List UInt8 → Option UnlockRequest
  jwksFromSlice : List UInt8 → Option JwksDocument

/-- Where a handler is. A `call` is the number of the call that it waits for. -/
inductive PublicPc where
  | out
  | entered (request : PublicRequest)
  /-- An exchange before the lock of the limiter, before its permit, and with its permit. -/
  | admitting (request : PublicRequest) (now : Int)
  | acquiring (request : PublicRequest)
  | admitted (request : PublicRequest)
  | exchanging (request : PublicRequest) (call : Nat)
  /-- A signing request before the lock of the sessions. -/
  | looking (request : PublicRequest) (keyId token : String) (now : Int)
  /-- A signing request of GitHub Actions: before its key, its readings of the clocks, and the lock
  of the replay cache. -/
  | awaitingJwk (request : PublicRequest) (keyId token : String) (call : Nat)
  | verifying (request : PublicRequest) (keyId token : String) (jwk : RsaJwk)
  | recording (request : PublicRequest) (keyId token : String) (jwk : RsaJwk) (at_ : Readings)
  | authenticated (request : PublicRequest) (keyId : String) (principal : AuthPrincipal)
  | validated (request : PublicRequest) (keyId : String) (principal : AuthPrincipal)
      (digest : Vector UInt8 32)
  | answered (request : PublicRequest) (records : List AuditRecord)
      (outcome : Outcome ApiError PublicResponse)
  /-- Dropped, since its client has disconnected. -/
  | gone

/-- What a step of a handler gets from outside. -/
inductive PublicIn where
  | go
  /-- The number of the call that it starts. -/
  | spawn (call : Nat)
  | walls (decodeWall unixWall : Int)
  | random (rng : Nat)
  | cancel

structure ServerSt (P S R : Type) where
  admin : AdminSt P S R
  device : DeviceSt
  jwks : JwksSt
  attempts : Attempts
  permits : Nat
  seenJtis : SeenJtis
  handlers : Nat → PublicPc

/-- The state of a new server. -/
def ServerSt.new {P S R : Type} (now : Int) : ServerSt P S R where
  admin := .new
  device := .new now
  jwks := .new now
  attempts := Map.empty
  permits := deviceExchangeMaxConcurrent
  seenJtis := { data := Map.empty }
  handlers _ := .out

inductive ServerAct where
  | arrive (c : Nat) (request : PublicRequest)
  | handle (c : Nat) (input : PublicIn)
  | admin (a : AdminAct)
  | device (d : Nat) (input : DeviceIn)
  | jwks (j : Nat) (input : JwksIn)
  | tick (d : Nat)
  | poisonReplay

def Authenticator.githubOAuthDeviceConfig {Key : Type} (self : Authenticator Key) :
    OAuthDeviceConfig where
  clientId := self.github.oauthClientId
  deviceCodeUrl := self.github.oauthDeviceCodeUrl
  accessTokenUrl := self.github.oauthAccessTokenUrl
  scope := oauthScope

/-- The lock that the validation of a request reads, if it comes to that. -/
def AppState.readsLock (state : AppState) (principal : AuthPrincipal) (keyId : String) :
    Option Nat :=
  if !validKeyId keyId || !(state.authz.authorize principal .sign keyId).isOk then none
  else (state.keys.getAt keyId).bind fun (i, key) => if key.state == .active then some i else none

/-- A reader can have the lock. -/
def lockReadable {P S R : Type} (cells : KeyCells P S R) (i : Nat) : Bool := (cells i).writer.isNone

/-! ### The end of a handler -/

def PublicPc.fail (request : PublicRequest) (error : ApiError) : PublicPc :=
  .answered request [] (.err error)

/-- The answer to a request that is not authenticated. -/
def PublicPc.refuse (request : PublicRequest) (error : AuthError) : PublicPc :=
  let apiError := authError error request.requestId
  .answered request
    [{ requestId := request.requestId, operation := "sign", success := false,
       reason := apiError.slug }]
    (.err apiError)

/-- The answer to a request that is authenticated and fails then. -/
def PublicPc.deny (request : PublicRequest) (keyId : String) (principal : AuthPrincipal)
    (error : ApiError) : PublicPc :=
  .answered request [auditRecord request.requestId "sign" false error.slug (some principal)
    { keyId := some keyId }] (.err error)

/-- The answer after the exchange. -/
def PublicPc.exchanged (request : PublicRequest) :
    Except OAuthFlowError OAuthSessionGrant → PublicPc
  | .ok grant => .answered request [] (.ok (.session grant))
  | .error error => .answered request
      [{ requestId := request.requestId, operation := "oauth-device-login", success := false,
         reason := error.toString }]
      (.err (oauthFlowError error request.requestId))

namespace Server

variable {Key P S R : Type} (self : Server Key P S R)

/-! ### The handlers -/

/-- `get_public_key`. -/
def getPublicKey (s : ServerSt P S R) (request : PublicRequest) (keyId : String) :
    Option PublicPc :=
  match if validKeyId keyId then self.state.keys.getAt keyId else none with
  | none => some (.fail request (.new .notFound "unknown-key" "Unknown signing key"
      "The requested immutable signing key identifier does not exist." request.requestId))
  | some (i, _) =>
    if !lockReadable s.admin.keys.cells i then none
    else some (match (s.admin.keys.cells i).publicKeyPem self.crates with
      | none => .fail request (.new .locked "key-locked" "Signing key is locked"
          "The public key becomes available after the signing key is unlocked." request.requestId)
      | some pem => .answered request [] (.ok (.publicKey pem)))

/-- `github_oauth_device_exchange` from the permit to its call. -/
def beginExchange (s : ServerSt P S R) (request : PublicRequest) (d : Nat) :
    Option (ServerSt P S R × PublicPc) :=
  if !isJsonContentType request.headers then
    some ({ s with permits := s.permits + 1 }, .fail request (.new .unsupportedMediaType
      "unsupported-content-type" "Unsupported content type"
      "GitHub device-token exchanges must use Content-Type: application/json." request.requestId))
  else match self.exchangeFromSlice request.body with
    | none => some ({ s with permits := s.permits + 1 }, .fail request (.new .badRequest
        "malformed-json" "Malformed GitHub device-token exchange"
        "The request body must contain exactly one string field named access_token."
        request.requestId))
    | some body => (self.auth.deviceSys.step s.device (.start d body.accessToken)).map fun device =>
        ({ s with device }, .exchanging request d)

/-- `create_signature` up to the first await or clock of `authenticate`. -/
def beginSign (s : ServerSt P S R) (request : PublicRequest) (keyId : String) (input : PublicIn) :
    Option (ServerSt P S R × PublicPc) :=
  if !isJsonContentType request.headers then
    some (s, .fail request (.new .unsupportedMediaType "unsupported-content-type"
      "Unsupported content type" "Signing requests must use Content-Type: application/json."
      request.requestId))
  else match bearerToken request.headers with
    | .error e => some (s, .refuse request e)
    | .ok token =>
      if isGithubActionsJwt self.auth.jwt token then
        match (self.auth.jwt.decodeHeader token).bind JwtHeader.kid, input with
        | none, _ => some (s, .refuse request .invalidToken)
        | some kid, .spawn j =>
          ((jwksSys self.auth.actions self.jwksFromSlice).step s.jwks (.start j kid)).map fun jwks =>
            ({ s with jwks }, .awaitingJwk request keyId token j)
        | some _, _ => none
      else some (s, .looking request keyId token s.device.shared.now)

/-- `create_signature` from the principal to the digest. -/
def validate (s : ServerSt P S R) (request : PublicRequest) (keyId : String)
    (principal : AuthPrincipal) : Option PublicPc :=
  match self.api.fromSlice request.body with
  | none => some (.deny request keyId principal (.new .badRequest "malformed-json"
      "Malformed signing request"
      "The request body must contain exactly one base64-encoded SHA-256 digest."
      request.requestId))
  | some body =>
    if (self.state.readsLock principal keyId).any fun i => !lockReadable s.admin.keys.cells i then
      none
    else some (match validateSigningRequest self.api self.state s.admin.keys.cells principal keyId
        body with
      | .error error => .deny request keyId principal { error with requestId := request.requestId }
      | .ok digest => .validated request keyId principal digest)

/-- `create_signature` from the digest on. -/
def sign (s : ServerSt P S R) (request : PublicRequest) (keyId : String) (principal : AuthPrincipal)
    (digest : Vector UInt8 32) (rng : Nat) : Option PublicPc :=
  if (self.state.keys.position keyId).any fun i => !lockReadable s.admin.keys.cells i then none
  else
    let (records, outcome) := signValidated self.api self.crates self.state s.admin.keys.cells rng
      request.requestId principal keyId digest
    some (.answered request records (outcome.map .signature))

/-- The next step of a handler: what is shared, and where the handler is then. -/
def stepHandler (s : ServerSt P S R) : PublicPc → PublicIn → Option (ServerSt P S R × PublicPc)
  | .entered request, input => match request.route, input with
    | .deviceConfig, .go =>
      some (s, .answered request [] (.ok (.deviceConfig self.auth.githubOAuthDeviceConfig)))
    | .deviceExchange, .go => some (s, .admitting request s.device.shared.now)
    | .publicKey keyId, .go => (self.getPublicKey s request keyId).map fun pc => (s, pc)
    | .sign keyId, input => self.beginSign s request keyId input
    | _, _ => none
  | .admitting request now, .go =>
    let (admitted, attempts) := checkRate request.peer now s.attempts
    some ({ s with attempts }, match admitted with
      | .error e => .fail request (deviceExchangeLimitError e request.requestId)
      | .ok () => .acquiring request)
  | .admitting _ _, .cancel => some (s, .gone)
  | .acquiring request, .go =>
    if s.permits = 0 then
      some (s, .fail request (deviceExchangeLimitError .busy request.requestId))
    else some ({ s with permits := s.permits - 1 }, .admitted request)
  | .admitted request, .spawn d => self.beginExchange s request d
  | .exchanging request d, .go => match s.device.calls d with
    | .done _ (some result) =>
      some ({ s with permits := s.permits + 1 }, .exchanged request result)
    | .done _ none => some ({ s with permits := s.permits + 1 }, .gone)
    | _ => none
  | .exchanging request d, .cancel =>
    (self.auth.deviceSys.step s.device (.call d .cancel)).map fun device =>
      ({ s with device }, .exchanging request d)
  | .looking request keyId token now, .go =>
    some (s, match authenticateGithubAccountSession self.auth.sha256 self.auth.github now token
        s.device.shared.sessions with
      | .error e => .refuse request e
      | .ok principal => .authenticated request keyId principal)
  | .looking _ _ _ _, .cancel => some (s, .gone)
  | .awaitingJwk request keyId token j, .go => match s.jwks.calls j with
    | .done _ (some (.ok jwk)) => some (s, .verifying request keyId token jwk)
    | .done _ (some (.error e)) => some (s, .refuse request e)
    | .done _ none => some (s, .gone)
    | _ => none
  | .awaitingJwk request keyId token j, .cancel =>
    ((jwksSys self.auth.actions self.jwksFromSlice).step s.jwks (.call j .cancel)).map fun jwks =>
      ({ s with jwks }, .awaitingJwk request keyId token j)
  | .verifying request keyId token jwk, .walls decodeWall unixWall =>
    some (s, .recording request keyId token jwk ⟨decodeWall, s.device.shared.now, unixWall⟩)
  | .recording request keyId token jwk at_, .go =>
    let (outcome, seenJtis) := authenticateGithubActions self.auth.jwt self.auth.actions
      self.auth.identities (fun _ => .ok jwk) at_ token s.seenJtis
    some ({ s with seenJtis }, match outcome with
      | .ok principal => .authenticated request keyId principal
      | .err e => .refuse request e
      | .panic => .answered request [] .panic)
  | .authenticated request keyId principal, .go =>
    (self.validate s request keyId principal).map fun pc => (s, pc)
  | .validated request keyId principal digest, .random rng =>
    (self.sign s request keyId principal digest rng).map fun pc => (s, pc)
  | _, _ => none

/-- All interleavings of requests to the two APIs. -/
def sys : Sys (ServerSt P S R) ServerAct where
  init s := ∃ now, s = .new now
  step s
    | .arrive c request => match s.handlers c with
      | .out => some { s with handlers := Function.update s.handlers c (.entered request) }
      | _ => none
    | .handle c input => (self.stepHandler s (s.handlers c) input).map fun (s, pc) =>
        { s with handlers := Function.update s.handlers c pc }
    -- The handlers read the locks of the keys themselves.
    | .admin (.publicCall _ _) => none
    | .admin (.publicStep _) => none
    | .admin a => ((adminSys self.crates self.state.keys self.unlockFromSlice).step s.admin a).map
        fun admin => { s with admin }
    -- A call is cancelled with its handler.
    | .device _ .cancel => none
    | .device d input => (self.auth.deviceSys.step s.device (.call d input)).map
        fun device => { s with device }
    | .jwks _ .cancel => none
    | .jwks j input => do
      let jwks ← (jwksSys self.auth.actions self.jwksFromSlice).step s.jwks (.call j input)
      -- Time that goes by between two readings goes by for everybody.
      let device ← self.auth.deviceSys.step s.device
        (.tick (match input with
          | .attempt d => d
          | _ => 0))
      return { s with jwks, device }
    | .tick d => do
      let device ← self.auth.deviceSys.step s.device (.tick d)
      let jwks ← (jwksSys self.auth.actions self.jwksFromSlice).step s.jwks (.tick d)
      return { s with device, jwks }
    | .poisonReplay => (self.auth.deviceSys.step s.device .poison).map fun device =>
        { s with device }

end Server

/-! ## An example server -/

/-- The key store of `config.example.toml`. -/
def exampleLoadedStore : KeyStore where
  keys := [⟨"microtun-firmware-prod", .p256, .active, examplePem⟩]
  index := Map.empty.insert "microtun-firmware-prod" 0
  keyrings := Map.empty.insert "firmware-prod" [0]
  keyringByKey := Map.empty.insert "microtun-firmware-prod" "firmware-prod"

def exampleExchangeBody : List UInt8 :=
  ("\x7b\"access_token\":\"" ++ exampleBootstrapToken ++ "\"\x7d").toByteArray.data.toList

/-- The server of `config.example.toml`, with parsers that know one body each. -/
def exampleServer : Server Unit String String String where
  auth := exampleAuthenticator
  state := ⟨exampleLoadedStore, ⟨exampleConfig.policies⟩⟩
  api := exampleApi
  crates := exampleCrates
  exchangeFromSlice body :=
    if body = exampleExchangeBody then some ⟨exampleBootstrapToken⟩ else none
  unlockFromSlice := readUnlockBody "correct horse"
  jwksFromSlice _ := none

def exampleExchangeRequest (requestId : String) : PublicRequest :=
  ⟨requestId, .v4 192 0 2 1, .deviceExchange, jsonHeaders, exampleExchangeBody⟩

/-- A request to exchange the example token, up to its permit. -/
def exampleExchangeStart (c : Nat) (requestId : String) : List ServerAct :=
  [.arrive c (exampleExchangeRequest requestId), .handle c .go, .handle c .go, .handle c .go,
    .handle c (.spawn c)]

end MicrotunSigner
