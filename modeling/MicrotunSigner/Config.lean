import MicrotunSigner.Lib.Text
import MicrotunSigner.Lib.Map
import MicrotunSigner.Lib.Result

/-!
# The configuration (`config.rs`)

The records of the TOML file and `Config.normalizeAndValidate`, the check that every start-up runs.
The check is one long sequence of `bail!`s in the source; here it is a sequence of sections in the
same order, each with the source's error texts:

* `validateHeader`, `validateServer`, `validateKeys`, `validateKeyrings`, `validateGithub`,
  `validateGithubActions`, `validateIdentities`, `validatePolicies`.

A loop over a list is a recursion over it; the `HashSet`s and `HashMap`s it fills are its
accumulators (a set is the list of what was inserted, newest first). URL parsing is the `reqwest`
crate's, a parameter.
-/

namespace MicrotunSigner

open Lib Lib.Text

def configApiVersionId : String := "microtun.dev/v1alpha1"
def configKind : String := "SignerConfig"
def maxOAuthSessionTtlSeconds : Nat := 60 * 60

inductive KeyAlgorithm where
  | p256
  | secp256k1
  | rsaPss
  deriving DecidableEq, Repr

inductive KeyState where
  | active
  | disabled
  | retired
  deriving DecidableEq, Repr

inductive IdentityKind where
  | githubAccount
  | githubActions
  deriving DecidableEq, Repr

inductive PolicyAction where
  | sign
  deriving DecidableEq, Repr

def PolicyAction.asStr : PolicyAction → String
  | .sign => "sign"

structure MicrotunConfig where
  apiVersion : String
  kind : String

/-- An IP address: four octets, or a 128-bit number. -/
inductive IpAddr where
  | v4 (a b c d : UInt8)
  | v6 (bits : BitVec 128)
  deriving DecidableEq, Repr

def IpAddr.isLoopback : IpAddr → Bool
  | .v4 a _ _ _ => a == 127
  | .v6 bits => bits == 1

/-- A socket address: what the check reads of it, and its text in the error message. -/
structure SocketAddr where
  ip : IpAddr
  display : String

structure ServerConfig where
  listen : SocketAddr
  adminSocketPath : String
  adminSocketMode : UInt32
  adminSocketGroup : Option String
  allowNonLoopbackListen : Bool

structure KeyConfig where
  id : String
  algorithm : KeyAlgorithm
  pemPath : String
  state : KeyState
  passphraseCredential : Option String

structure KeyringConfig where
  id : String
  keys : List String

structure GithubConfig where
  apiUrl : String
  apiVersion : String
  oauthAccessTokenUrl : String
  oauthDeviceCodeUrl : String
  oauthClientId : String
  oauthClientSecretCredential : String
  oauthSessionTtlSeconds : Nat

structure GithubActionsConfig where
  audience : String
  jwksUrl : String
  jwksTtlSeconds : Nat

structure IdentityConfig where
  id : String
  kind : IdentityKind
  githubUserId : Option String
  githubLogin : Option String
  repositoryId : Option String
  repository : Option String
  workflowPath : Option String
  allowedEventNames : Option (List String)
  allowedRefTypes : Option (List String)
  requiredEnvironment : Option String
  requiredRunnerEnvironment : Option String
  allowedWorkflowShas : Option (List String)
  deriving DecidableEq, Repr

structure PolicyConfig where
  identity : String
  actions : List PolicyAction
  keys : List String

structure Config where
  microtun : MicrotunConfig
  server : ServerConfig
  keys : List KeyConfig
  keyrings : List KeyringConfig
  github : GithubConfig
  githubActions : GithubActionsConfig
  identities : List IdentityConfig
  policies : List PolicyConfig

/-- What `validate_https_url` reads of a parsed URL. -/
structure Url where
  scheme : String
  hostStr : Option String

/-! ## Names and ids -/

def validKeyId (value : String) : Bool :=
  !isEmpty value && len value ≤ 128 &&
    all value fun c => isAsciiAlphanumeric c || c == '.' || c == '_' || c == '-'

def validKeyringName (value : String) : Bool := validKeyId value
def validIdentityId (value : String) : Bool := validKeyId value
def validCredentialName (value : String) : Bool := validKeyId value

def validCommitSha (value : String) : Bool :=
  (len value == 40 || len value == 64) && all value isAsciiHexdigit

def validGroupName (value : String) : Bool :=
  match value.toList with
  | [] => false
  | c :: rest => (('a' ≤ c && c ≤ 'z') || c == '_') && len value ≤ 32 &&
      rest.all fun b => ('a' ≤ b && b ≤ 'z') || ('0' ≤ b && b ≤ '9') || b == '_' || b == '-'

def validRepository (value : String) : Bool :=
  match splitOnce '/' value with
  | none => false
  | some (owner, name) => !isEmpty owner && !isEmpty name && !contains name "/"

def validateNumericId (field value : String) : Except String Unit :=
  bailIf (isEmpty value || !all value isAsciiDigit) s!"{field} must be a numeric GitHub id"

def validateHttpsUrl (parse : String → Option Url) (field value : String) : Except String Url := do
  let url ← okOr (parse value) s!"{field} must be a valid URL"
  bailIf (url.scheme != "https" || url.hostStr.isNone)
    s!"{field} must use https:// and include a host"
  return url

/-! ## The sections of the check -/

def validateHeader (microtun : MicrotunConfig) : Except String Unit := do
  bailIf (microtun.apiVersion != configApiVersionId)
    s!"unsupported config ApiVersion {microtun.apiVersion} (expected {configApiVersionId})"
  bailIf (microtun.kind != configKind)
    s!"unsupported config Kind {microtun.kind} (expected {configKind})"

def validateServer (server : ServerConfig) : Except String Unit := do
  bailIf (!server.listen.ip.isLoopback && !server.allowNonLoopbackListen)
    s!"Server.Listen {server.listen.display} is not a loopback address; the signer speaks plain HTTP. Bind to loopback behind a TLS-terminating proxy, or set Server.AllowNonLoopbackListen = true if the network path is otherwise protected"
  bailIf (server.adminSocketGroup.any fun group => !validGroupName group)
    "Server.AdminSocketGroup must be a valid POSIX group name"
  bailIf (!startsWith server.adminSocketPath "/")
    "Server.AdminSocketPath must be an absolute path"
  bailIf (server.adminSocketMode > 0o777 || server.adminSocketMode &&& 0o600 != 0o600 ||
      server.adminSocketMode &&& 0o007 != 0)
    "Server.AdminSocketMode must grant owner read/write, must not grant access to other users, and must fit within 0777"

/-- The loop over `[[Key]]`; the result is `key_ids`. -/
def validateKeys (keyIds : List String) : List KeyConfig → Except String (List String)
  | [] => .ok keyIds
  | key :: keys => do
    bailIf (!validKeyId key.id) "Key.ID must match [A-Za-z0-9._-]\x7b1,128\x7d"
    bailIf (keyIds.contains key.id) s!"duplicate Key.ID {key.id}"
    bailIf key.passphraseCredential.isSome
      "Key.PassphraseCredential is no longer supported; signing keys start locked and must be unlocked through the local admin API"
    validateKeys (key.id :: keyIds) keys

/-- The loop over the `Keys` of the keyring `ring`; the result is `member_owner`. -/
def validateMembers (keyIds : List String) (ring : String) (memberOwner : Map String String) :
    List String → Except String (Map String String)
  | [] => .ok memberOwner
  | keyId :: rest => do
    bailIf (!keyIds.contains keyId) s!"Keyring {ring} references unknown Key.ID {keyId}"
    bailIf (memberOwner.lookup keyId).isSome
      s!"Key {keyId} is listed more than once in keyrings ({(memberOwner.lookup keyId).getD ring} and {ring})"
    validateMembers keyIds ring (memberOwner.insert keyId ring) rest

/-- The loop over `[[Keyring]]`. -/
def validateKeyrings (keyIds keyringIds : List String) (memberOwner : Map String String) :
    List KeyringConfig → Except String Unit
  | [] => .ok ()
  | keyring :: keyrings => do
    bailIf (!validKeyringName keyring.id) "Keyring.ID must match [A-Za-z0-9._-]\x7b1,128\x7d"
    bailIf (keyringIds.contains keyring.id) s!"duplicate Keyring.ID {keyring.id}"
    bailIf keyring.keys.isEmpty s!"Keyring {keyring.id} must contain at least one key"
    let memberOwner ← validateMembers keyIds keyring.id memberOwner keyring.keys
    validateKeyrings keyIds (keyring.id :: keyringIds) memberOwner keyrings

def validateGithub (parse : String → Option Url) (github : GithubConfig) : Except String Unit := do
  bailIf (!startsWith github.apiUrl "https://" || endsWith github.apiUrl "/")
    "GitHub.APIURL must be an https:// URL without a trailing slash"
  bailIf (isEmpty (trim github.apiVersion)) "GitHub.APIVersion must not be empty"
  let _ ← validateHttpsUrl parse "GitHub.OAuthAccessTokenURL" github.oauthAccessTokenUrl
  let _ ← validateHttpsUrl parse "GitHub.OAuthDeviceCodeURL" github.oauthDeviceCodeUrl
  bailIf (!validKeyId github.oauthClientId)
    "GitHub.OAuthClientID must match [A-Za-z0-9._-]\x7b1,128\x7d"
  bailIf (!validCredentialName github.oauthClientSecretCredential)
    "GitHub.OAuthClientSecretCredential must match [A-Za-z0-9._-]\x7b1,128\x7d"
  bailIf (github.oauthSessionTtlSeconds == 0 ||
      github.oauthSessionTtlSeconds > maxOAuthSessionTtlSeconds)
    s!"GitHub.OAuthSessionTTLSeconds must be between 1 and {maxOAuthSessionTtlSeconds} seconds"

def validateGithubActions (actions : GithubActionsConfig) : Except String Unit := do
  bailIf (isEmpty (trim actions.audience)) "GitHubActions.Audience must not be empty"
  bailIf (!startsWith actions.jwksUrl "https://") "GitHubActions.JWKSURL must use https://"
  bailIf (actions.jwksTtlSeconds == 0) "GitHubActions.JWKSTTLSeconds must be greater than zero"

def hasClaimConstraints (identity : IdentityConfig) : Bool :=
  identity.workflowPath.isSome || identity.allowedEventNames.isSome ||
    identity.allowedRefTypes.isSome || identity.requiredEnvironment.isSome ||
    identity.requiredRunnerEnvironment.isSome || identity.allowedWorkflowShas.isSome

def validateActionsIdentity (identity : IdentityConfig) : Except String Unit :=
  if !hasClaimConstraints identity then .ok () else do
    let workflowPath ← okOr identity.workflowPath
      "Identity.WorkflowPath is required when GitHub Actions claim constraints are configured"
    bailIf (startsWith workflowPath "/" || !startsWith workflowPath ".github/workflows/" ||
        contains workflowPath "..")
      "Identity.WorkflowPath must name a file below .github/workflows/"
    let events ← okOr identity.allowedEventNames
      "Identity.AllowedEventNames is required when GitHub Actions claim constraints are configured"
    bailIf (events.isEmpty || events.any fun value => isEmpty (trim value))
      "Identity.AllowedEventNames must not be empty or contain empty values"
    bailIf (identity.allowedRefTypes.any fun refTypes =>
        refTypes.isEmpty || refTypes.any fun value => isEmpty (trim value))
      "Identity.AllowedRefTypes must not be empty or contain empty values"
    bailIf (identity.requiredEnvironment.any fun value => isEmpty (trim value))
      "Identity.RequiredEnvironment must not be empty when set"
    bailIf (identity.requiredRunnerEnvironment.any fun value => isEmpty (trim value))
      "Identity.RequiredRunnerEnvironment must not be empty when set"
    bailIf (identity.allowedWorkflowShas.any fun shas => shas.isEmpty)
      "Identity.AllowedWorkflowSHAs must not be empty; omit it to disable workflow pinning"
    bailIf (identity.allowedWorkflowShas.any fun shas => shas.any fun value => !validCommitSha value)
      "Identity.AllowedWorkflowSHAs must contain full 40- or 64-character hex commit SHAs"

/-- The arm `IdentityKind::GithubAccount`; the result is `github_accounts`. -/
def validateAccountIdentity (githubAccounts : List String) (identity : IdentityConfig) :
    Except String (List String) := do
  let userId ← okOr identity.githubUserId
    s!"Identity {identity.id} of type github-account requires GitHubUserID"
  validateNumericId "Identity.GitHubUserID" userId
  bailIf (githubAccounts.contains userId) s!"duplicate github-account GitHubUserID {userId}"
  bailIf (identity.repositoryId.isSome || identity.repository.isSome ||
      identity.workflowPath.isSome || identity.allowedEventNames.isSome ||
      identity.allowedRefTypes.isSome || identity.requiredEnvironment.isSome ||
      identity.requiredRunnerEnvironment.isSome || identity.allowedWorkflowShas.isSome)
    s!"Identity {identity.id} of type github-account must not set GitHub Actions repository/workflow fields"
  bailIf (identity.githubLogin.any fun login => isEmpty (trim login))
    "Identity.GitHubLogin must not be empty when set"
  return userId :: githubAccounts

/-- The arm `IdentityKind::GithubActions`. -/
def validateActionsKind (identity : IdentityConfig) : Except String Unit := do
  let repositoryId ← okOr identity.repositoryId
    s!"Identity {identity.id} of type github-actions requires RepositoryID"
  validateNumericId "Identity.RepositoryID" repositoryId
  bailIf (identity.githubUserId.isSome || identity.githubLogin.isSome)
    s!"Identity {identity.id} of type github-actions must not set GitHubUserID/GitHubLogin"
  bailIf (identity.repository.any fun repo => !validRepository repo)
    "Identity.Repository must be in owner/name form when set"
  validateActionsIdentity identity

/-- The `match identity.kind`; the result is `github_accounts`. -/
def validateIdentityKind (githubAccounts : List String) (identity : IdentityConfig) :
    Except String (List String) :=
  match identity.kind with
  | .githubAccount => validateAccountIdentity githubAccounts identity
  | .githubActions => do
    validateActionsKind identity
    return githubAccounts

/-- The loop over `[[Identity]]`; the result is `identity_kinds`. -/
def validateIdentities (identityIds githubAccounts : List String)
    (identityKinds : Map String IdentityKind) :
    List IdentityConfig → Except String (Map String IdentityKind)
  | [] => .ok identityKinds
  | identity :: identities => do
    bailIf (!validIdentityId identity.id) "Identity.ID must match [A-Za-z0-9._-]\x7b1,128\x7d"
    bailIf (identityIds.contains identity.id) s!"duplicate Identity.ID {identity.id}"
    let githubAccounts ← validateIdentityKind githubAccounts identity
    validateIdentities (identity.id :: identityIds) githubAccounts
      (identityKinds.insert identity.id identity.kind) identities

/-- The loop over `Policy.Actions`. -/
def validatePolicyActions (seenActions : List PolicyAction) : List PolicyAction → Except String Unit
  | [] => .ok ()
  | action :: actions => do
    bailIf (seenActions.contains action) s!"Policy.Actions contains duplicate {action.asStr}"
    validatePolicyActions (action :: seenActions) actions

/-- The loop over `Policy.Keys`. -/
def validatePolicyKeys (keyIds seenKeys : List String) : List String → Except String Unit
  | [] => .ok ()
  | key :: keys => do
    bailIf (key != "*" && !keyIds.contains key) s!"Policy.Keys references unknown key {key}"
    bailIf (seenKeys.contains key) s!"Policy.Keys contains duplicate key {key}"
    validatePolicyKeys keyIds (key :: seenKeys) keys

/-- What a sign policy requires of the github-actions identity it names. -/
def validateSignIdentity (policy : PolicyConfig) (identity : IdentityConfig) : Except String Unit := do
  bailIf identity.workflowPath.isNone
    s!"sign policy for github-actions identity {policy.identity} requires Identity.WorkflowPath and claim constraints"
  bailIf identity.requiredEnvironment.isNone
    s!"sign policy for github-actions identity {policy.identity} requires Identity.RequiredEnvironment (a protected GitHub Environment)"
  bailIf (identity.allowedRefTypes.any fun types => types.any fun value => value != "tag")
    s!"sign policy for github-actions identity {policy.identity} only permits AllowedRefTypes = [\"tag\"]"

/-- One iteration of the loop over `[[Policy]]`. The source's `expect` of the identity is its
`none` branch, which `identity_kinds` excludes. -/
def validatePolicy (keyIds : List String) (identityKinds : Map String IdentityKind)
    (identities : List IdentityConfig) (policy : PolicyConfig) : Except String Unit := do
  let identityKind ← okOr (identityKinds.lookup policy.identity)
    s!"Policy.Identity {policy.identity} does not name a configured identity"
  bailIf policy.actions.isEmpty "Policy.Actions must not be empty"
  bailIf policy.keys.isEmpty "Policy.Keys must not be empty"
  validatePolicyActions [] policy.actions
  validatePolicyKeys keyIds [] policy.keys
  if identityKind == .githubActions && policy.actions.contains .sign then
    match identities.find? fun identity => identity.id == policy.identity with
    | some identity => validateSignIdentity policy identity
    | none => .error "validated identity reference"
  else .ok ()

/-- The loop over `[[Policy]]`. -/
def validatePolicies (keyIds : List String) (identityKinds : Map String IdentityKind)
    (identities : List IdentityConfig) : List PolicyConfig → Except String Unit
  | [] => .ok ()
  | policy :: policies => do
    validatePolicy keyIds identityKinds identities policy
    validatePolicies keyIds identityKinds identities policies

def Config.normalizeAndValidate (parse : String → Option Url) (config : Config) :
    Except String Unit := do
  validateHeader config.microtun
  validateServer config.server
  bailIf config.keys.isEmpty "at least one [[Key]] must be configured"
  let keyIds ← validateKeys [] config.keys
  validateKeyrings keyIds [] Map.empty config.keyrings
  validateGithub parse config.github
  validateGithubActions config.githubActions
  bailIf config.identities.isEmpty "at least one [[Identity]] must be configured"
  let identityKinds ← validateIdentities [] [] Map.empty config.identities
  bailIf config.policies.isEmpty "at least one [[Policy]] must be configured"
  validatePolicies keyIds identityKinds config.identities config.policies

end MicrotunSigner
