import MicrotunSigner.Client.Endpoint
import MicrotunSigner.Http
import MicrotunSigner.Lib.Clock
import MicrotunSigner.Lib.Prog

/-!
# The commands `sign` and `public-key` (`client.rs`)

The commands are programs (`Command`) that call the signer, GitHub, the session cache and the
terminal (`Op`).

* `ClientLib`: the crates the commands are written with. The OAuth device flow of the `oauth2` crate
  is the two operations `exchangeDeviceCode` and `exchangeDeviceAccessToken`, each with the requests
  that it takes.
* The environment variables are a function, as the process does not change them.
-/

namespace MicrotunSigner

namespace Client

open Lib Lib.Text

inductive Method where
  | get
  | post
  deriving DecidableEq

/-- The JSON of a request of the client. -/
inductive RequestBody where
  | sign (digest : String)
  | exchange (accessToken : String)
  deriving DecidableEq

structure ApiRequest where
  method : Method
  url : ReqwestUrl
  bearerAuth : Option String
  json : Option RequestBody
  deriving DecidableEq

/-- A response; the rest of its body may fail to arrive. -/
structure ApiResponse where
  status : StatusCode
  bytes : Except String (List UInt8)

structure OAuthDeviceConfigResponse where
  clientId : String
  deviceCodeUrl : String
  accessTokenUrl : String
  scope : String

structure OAuthSessionResponse where
  accessToken : String
  expiresIn : Nat

structure ErrorBody where
  error : String
  requestId : String

/-- The answer of GitHub to a device that asks for a code. -/
structure DeviceAuthorization where
  verificationUri : String
  userCode : String
  deviceCode : String
  interval : Nat
  expiresIn : Nat

/-- `reqwest::Url`, the standard base64, the text of a body, and the JSON of the responses; one that
does not parse gives the parser's error. -/
structure ClientLib where
  url : UrlLib
  urlText : ReqwestUrl → String
  username : ReqwestUrl → String
  password : ReqwestUrl → Option String
  queryPairs : ReqwestUrl → List (String × String)
  appendPair : ReqwestUrl → String → String → ReqwestUrl
  decode : String → Option (List UInt8)
  statusText : StatusCode → String
  text : List UInt8 → String
  errorBody : List UInt8 → Option ErrorBody
  signResponse : List UInt8 → Except String String
  oidcResponse : List UInt8 → Except String String
  deviceConfigResponse : List UInt8 → Except String OAuthDeviceConfigResponse
  sessionResponse : List UInt8 → Except String OAuthSessionResponse

inductive Op where
  | buildClient
  | cacheLoad (signerBaseUrl : String)
  | cacheStore (signerBaseUrl accessToken : String) (expiresIn : Nat)
  | cacheRemove (signerBaseUrl : String)
  | send (request : ApiRequest)
  | exchangeDeviceCode (clientId deviceCodeUrl : String) (scopes : List String)
  | sleep (duration : Nat)
  | exchangeDeviceAccessToken (clientId accessTokenUrl : String) (device : DeviceAuthorization)
      (timeout : Nat)
  | eprintln (line : String)
  | print (text : String)

@[reducible] def Op.Ans : Op → Type
  | .buildClient => Except String Unit
  | .cacheLoad _ => Except String (Option String)
  | .cacheStore _ _ _ => Except String Bool
  | .cacheRemove _ => Except String Unit
  | .send _ => Except String ApiResponse
  | .exchangeDeviceCode _ _ _ => Except String DeviceAuthorization
  | .sleep _ => Unit
  | .exchangeDeviceAccessToken _ _ _ _ => Except String String
  | .eprintln _ => Unit
  | .print _ => Unit

abbrev Command := Prog Op Op.Ans String

def call (op : Op) : Command op.Ans := Prog.op op

def buildClient : Command (Except String Unit) := call .buildClient

def cacheLoad (signerBaseUrl : String) : Command (Except String (Option String)) :=
  call (.cacheLoad signerBaseUrl)

def cacheStore (signerBaseUrl accessToken : String) (expiresIn : Nat) :
    Command (Except String Bool) :=
  call (.cacheStore signerBaseUrl accessToken expiresIn)

def cacheRemove (signerBaseUrl : String) : Command (Except String Unit) :=
  call (.cacheRemove signerBaseUrl)

def send (request : ApiRequest) : Command (Except String ApiResponse) := call (.send request)

def exchangeDeviceCode (clientId deviceCodeUrl : String) (scopes : List String) :
    Command (Except String DeviceAuthorization) :=
  call (.exchangeDeviceCode clientId deviceCodeUrl scopes)

def sleep (duration : Nat) : Command Unit := call (.sleep duration)

def exchangeDeviceAccessToken (clientId accessTokenUrl : String) (device : DeviceAuthorization)
    (timeout : Nat) : Command (Except String String) :=
  call (.exchangeDeviceAccessToken clientId accessTokenUrl device timeout)

def eprintln (line : String) : Command Unit := call (.eprintln line)

def print (text : String) : Command Unit := call (.print text)

structure SignArgs where
  keyId : String
  token : Option String
  githubLogin : Bool
  githubActions : Bool
  audience : Option String
  digest : String

def defaultGithubActionsAudience : String := "microtun-signer"

def shouldUseGithubActions (explicit githubLogin hasBearerToken hasOidcRequestUrl : Bool) : Bool :=
  explicit || (!githubLogin && !hasBearerToken && hasOidcRequestUrl)

variable (lib : ClientLib)

def responseError (response : ApiResponse) (action : String) : String :=
  match response.bytes with
  | .ok body => match lib.errorBody body with
    | some problem => s!"{action} failed: {problem.error} (request {problem.requestId})"
    | none => s!"{action} failed with HTTP status {lib.statusText response.status}"
  | .error error => s!"{action} failed with HTTP status {lib.statusText response.status}: {error}"

/-- `json`: the body arrives, and parses. -/
def ApiResponse.parse {α : Type} (response : ApiResponse) (fromSlice : List UInt8 → Except String α) :
    Except String α :=
  response.bytes.bind fromSlice

/-! ## GitHub Actions -/

def githubActionsRequestUrl (requestUrl audience : String) : Except String ReqwestUrl := do
  bailIf (isEmpty (trim audience)) "--audience must not be empty"
  let url ← okOr (lib.url.parse requestUrl) "ACTIONS_ID_TOKEN_REQUEST_URL must be a valid HTTPS URL"
  bailIf (url.scheme != "https" || url.cannotBeABase || !isEmpty (lib.username url) ||
      (lib.password url).isSome || url.fragment.isSome)
    "ACTIONS_ID_TOKEN_REQUEST_URL must be a hierarchical HTTPS URL without credentials or a fragment"
  bailIf ((lib.queryPairs url).any fun pair => pair.1 == "audience")
    "ACTIONS_ID_TOKEN_REQUEST_URL must not already specify an audience"
  return lib.appendPair url "audience" audience

def githubActionsToken (env : String → Option String) (audience : String) : Command String := do
  let requestUrl ← okOr (env "ACTIONS_ID_TOKEN_REQUEST_URL")
    "ACTIONS_ID_TOKEN_REQUEST_URL is missing; run in GitHub Actions with id-token: write permission"
  let requestToken ← okOr (env "ACTIONS_ID_TOKEN_REQUEST_TOKEN")
    "ACTIONS_ID_TOKEN_REQUEST_TOKEN is missing; ensure the job has id-token: write permission"
  bailIf (isEmpty requestToken) "ACTIONS_ID_TOKEN_REQUEST_TOKEN is empty"
  let endpoint ← githubActionsRequestUrl lib requestUrl audience
  let response ← withContext (← send ⟨.get, endpoint, some requestToken, none⟩)
    "failed to request GitHub Actions OIDC token"
  bailIf (!response.status.isSuccess)
    (responseError lib response "GitHub Actions OIDC token request")
  let value ← withContext (response.parse lib.oidcResponse)
    "GitHub Actions returned an invalid OIDC token response"
  bailIf (isEmpty value) "GitHub Actions returned an empty OIDC token"
  return value

/-! ## The device flow -/

def httpsOauthUrl (value purpose : String) : Except String ReqwestUrl := do
  let url ← okOr (lib.url.parse value) s!"signer returned an invalid GitHub {purpose} URL"
  bailIf (url.scheme != "https" || url.cannotBeABase)
    s!"signer returned a GitHub {purpose} URL that is not hierarchical HTTPS"
  return url

/-- The URL types of the `oauth2` crate: a text that parses as a URL. -/
def oauthUrl (url : ReqwestUrl) (purpose : String) : Except String String := do
  let _ ← okOr (lib.url.parse (lib.urlText url)) s!"signer returned an invalid GitHub {purpose} URL"
  return lib.urlText url

/-- The session goes into the cache; without a cache it is good for this command. -/
def cacheSession (signerBaseUrl : ReqwestUrl) (session : OAuthSessionResponse) : Command Unit := do
  match ← cacheStore (lib.urlText signerBaseUrl) session.accessToken session.expiresIn with
  | .ok true =>
    eprintln s!"GitHub authentication complete; signer session is valid for {session.expiresIn} seconds and was cached locally."
  | .ok false =>
    eprintln s!"GitHub authentication complete; signer session is valid for {session.expiresIn} seconds."
  | .error error => do
    eprintln s!"Warning: could not cache signer session: {error}"
    eprintln s!"GitHub authentication complete; signer session is valid for {session.expiresIn} seconds."

def githubDeviceLogin (signerBaseUrl : ReqwestUrl) : Command String := do
  let configEndpoint ← okOr (lib.url.join signerBaseUrl "v1/auth/github/device")
    "failed to construct GitHub device-auth API URL"
  let response ← withContext (← send ⟨.get, configEndpoint, none, none⟩)
    "failed to request GitHub device-flow configuration from signer"
  bailIf (!response.status.isSuccess) (responseError lib response "GitHub device authentication setup")
  let config ← withContext (response.parse lib.deviceConfigResponse)
    "signer returned invalid GitHub device-flow configuration"
  bailIf (isEmpty config.clientId || isEmpty config.scope)
    "signer returned incomplete GitHub device-flow configuration"
  let deviceCodeUrl ← httpsOauthUrl lib config.deviceCodeUrl "device-code"
  let accessTokenUrl ← httpsOauthUrl lib config.accessTokenUrl "access-token"
  let deviceCodeUrl ← oauthUrl lib deviceCodeUrl "device-code"
  let accessTokenUrl ← oauthUrl lib accessTokenUrl "access-token"
  let device ← withContext
    (← exchangeDeviceCode config.clientId deviceCodeUrl (splitAsciiWhitespace config.scope))
    "failed to start GitHub device authentication"
  eprintln "GitHub authentication required."
  eprintln s!"Open {device.verificationUri} and enter code {device.userCode}"
  sleep device.interval
  let githubAccessToken ← withContext
    (← exchangeDeviceAccessToken config.clientId accessTokenUrl device
      (device.expiresIn - device.interval))
    "GitHub device authentication failed"
  bailIf (isEmpty githubAccessToken) "GitHub returned an empty OAuth access token"
  let response ← withContext
    (← send ⟨.post, configEndpoint, none, some (.exchange githubAccessToken)⟩)
    "failed to exchange GitHub device token with signer"
  bailIf (!response.status.isSuccess) (responseError lib response "GitHub device token exchange")
  let session ← withContext (response.parse lib.sessionResponse)
    "signer returned an invalid OAuth session response"
  bailIf (isEmpty session.accessToken || session.expiresIn == 0)
    "signer returned an invalid OAuth session"
  cacheSession lib signerBaseUrl session
  return session.accessToken

/-! ## The commands -/

/-- What `sign` checks before it calls anyone: the endpoint of the signer, its base URL, and whether
to ask GitHub Actions for a token. -/
def SignArgs.check (args : SignArgs) (env : String → Option String) (url : String) :
    Except String (ReqwestUrl × ReqwestUrl × Bool) := do
  validateKeyId args.keyId
  bailIf (args.githubLogin && args.githubActions)
    "--github-login and --github-actions are mutually exclusive"
  let useActions := shouldUseGithubActions args.githubActions args.githubLogin args.token.isSome
    (env "ACTIONS_ID_TOKEN_REQUEST_URL").isSome
  if let some audience := args.audience then
    bailIf (!useActions)
      "--audience/MICROTUN_SIGNER_AUDIENCE requires GitHub Actions authentication (--github-actions or automatic runner OIDC)"
    bailIf (isEmpty (trim audience)) "--audience/MICROTUN_SIGNER_AUDIENCE must not be empty"
  let decoded ← okOr (lib.decode args.digest) "--digest must be valid base64"
  bailIf (decoded.length != 32) "--digest must decode to exactly 32 bytes"
  let baseUrl ← signerBaseUrl lib.url url
  let endpoint ← okOr (lib.url.join baseUrl ("v1/sign/" ++ args.keyId))
    "failed to construct signing API URL"
  return (baseUrl, endpoint, useActions)

/-- The session of the cache. -/
def cachedSession (baseUrl : ReqwestUrl) : Command (Option String) := do
  match ← cacheLoad (lib.urlText baseUrl) with
  | .ok cached => return cached
  | .error error => do
    eprintln s!"Warning: could not read signer session cache: {error}"
    return none

/-- The cached session that the signer refuses is removed. -/
def removeStale (baseUrl : ReqwestUrl) : Command Unit := do
  match ← cacheRemove (lib.urlText baseUrl) with
  | .ok () => return ()
  | .error error => eprintln s!"Warning: could not remove stale signer session cache: {error}"

/-- The token that `sign` shows first, and whether it is that of a cached session. -/
def SignArgs.credential (args : SignArgs) (env : String → Option String) (baseUrl : ReqwestUrl)
    (useActions : Bool) : Command (String × Bool) := do
  if args.githubLogin then
    match ← cachedSession lib baseUrl with
    | some token => return (token, true)
    | none => return (← githubDeviceLogin lib baseUrl, false)
  else if useActions then
    return (← githubActionsToken lib env (args.audience.getD defaultGithubActionsAudience), false)
  else match args.token with
    | some token =>
      bailIf (isEmpty token) "--token must not be empty"
      return (token, false)
    | none =>
      Prog.fail "no bearer credential was provided; set MICROTUN_SIGNER_TOKEN/--token, pass --github-login, or use --github-actions in a GitHub Actions job with id-token: write permission"

def sendSigningRequest (endpoint : ReqwestUrl) (token digest : String) : Command ApiResponse := do
  let response ← withContext (← send ⟨.post, endpoint, some token, some (.sign digest)⟩)
    "failed to call signing API"
  return response

/-- The signature of a response that is not an error. -/
def signatureOf (response : ApiResponse) : Except String String := do
  bailIf (!response.status.isSuccess) (responseError lib response "signing request")
  let signature ← withContext (response.parse lib.signResponse)
    "signing API returned an invalid success response"
  let decoded ← okOr (lib.decode signature) "signing API returned a non-base64 signature"
  bailIf decoded.isEmpty "signing API returned an empty signature"
  return signature

/-- The response to the request that `sign` ends with: a cached session that the signer refuses is
given up for a new login. -/
def signOrLogin (args : SignArgs) (baseUrl endpoint : ReqwestUrl) (token : String)
    (reusedCachedSession : Bool) : Command ApiResponse := do
  let response ← sendSigningRequest endpoint token args.digest
  if response.status = .unauthorized ∧ args.githubLogin ∧ reusedCachedSession then do
    removeStale lib baseUrl
    eprintln "Cached signer session is no longer accepted; authenticating with GitHub again."
    let token ← githubDeviceLogin lib baseUrl
    sendSigningRequest endpoint token args.digest
  else return response

/-- The command `sign`. -/
def sign (env : String → Option String) (url : String) (args : SignArgs) : Command Unit := do
  let (baseUrl, endpoint, useActions) ← args.check lib env url
  withContext (← buildClient) "failed to create Microtun signer API client"
  let (token, reusedCachedSession) ← args.credential lib env baseUrl useActions
  let response ← signOrLogin lib args baseUrl endpoint token reusedCachedSession
  let signature ← signatureOf lib response
  print (signature ++ "\n")

/-- The command `public-key`. -/
def publicKey (url keyId : String) : Command Unit := do
  let endpoint ← publicKeyEndpoint lib.url url keyId
  withContext (← buildClient) "failed to create Microtun signer API client"
  let response ← withContext (← send ⟨.get, endpoint, none, none⟩) "failed to call public-key API"
  bailIf (!response.status.isSuccess) (responseError lib response "public-key request")
  let pem ← withContext (response.bytes.map lib.text) "public-key API returned a non-text response"
  bailIf (!startsWith pem "-----BEGIN PUBLIC KEY-----" ||
      !endsWith (trimEnd pem) "-----END PUBLIC KEY-----")
    "public-key API returned an invalid PEM public key"
  print pem
  if !endsWith pem "\n" then print "\n"

end Client

end MicrotunSigner
