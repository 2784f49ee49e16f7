import MicrotunSigner.Http
import MicrotunSigner.Auth.Identity

/-!
# Errors and audit records of the API (`api.rs`)

`ApiError` is what a failed request is answered with; its title and detail are arguments of the
constructors that the response does not carry. `AuditRecord` is the record of a signing attempt.
-/

namespace MicrotunSigner

open Lib.Text

structure ApiError where
  status : StatusCode
  slug : String
  requestId : String
  authenticate : Bool
  keys : List String
  deriving DecidableEq, Repr

namespace ApiError

def new (status : StatusCode) (slug _title _detail requestId : String) : ApiError where
  status := status
  slug := slug
  requestId := requestId
  authenticate := false
  keys := []

def withoutRequestId (status : StatusCode) (slug title detail : String) : ApiError :=
  new status slug title detail ""

def unprocessable (slug title detail : String) : ApiError :=
  withoutRequestId .unprocessableEntity slug title detail

def unauthorized (requestId : String) : ApiError :=
  { new .unauthorized "authentication-required" "Authentication required"
      "A signer OAuth session or GitHub Actions OIDC bearer credential is required." requestId with
    authenticate := true }

end ApiError

def authError (error : AuthError) (requestId : String) : ApiError :=
  match error with
  | .claimsDenied => .new .forbidden "identity-not-authorized"
      "Authenticated identity is not authorized"
      "The authenticated GitHub identity does not satisfy the signer requirements." requestId
  | .keyDiscovery => .new .serviceUnavailable "oidc-key-discovery-unavailable"
      "OIDC verification is temporarily unavailable"
      "The signer could not refresh the GitHub Actions OIDC verification keys." requestId
  | .identityProviderUnavailable => .new .serviceUnavailable "identity-provider-unavailable"
      "GitHub identity verification is temporarily unavailable"
      "The signer could not verify the GitHub account credential." requestId
  | .replayCacheUnavailable => .new .serviceUnavailable "oidc-replay-cache-unavailable"
      "OIDC replay protection is temporarily unavailable"
      "The signer could not record the GitHub Actions token as used." requestId
  | .tokenReplayed => { ApiError.unauthorized requestId with slug := "token-replayed" }
  | .missingBearer | .tokenTooLarge | .invalidToken => .unauthorized requestId

def unknownKeyError : ApiError :=
  .withoutRequestId .notFound "unknown-key" "Unknown signing key"
    "The requested immutable signing key identifier does not exist."

def policyDeniedError : ApiError :=
  .withoutRequestId .forbidden "policy-denied" "Identity policy denied this operation"
    "The authenticated identity is not allowed to perform this action with the requested key."

theorem authError_requestId (error : AuthError) (requestId : String) :
    (authError error requestId).requestId = requestId := by
  cases error <;> rfl

/-! ## Audit records -/

structure AuditRecord where
  requestId : String
  operation : String
  success : Bool
  reason : String
  keyId : Option String := none
  firmwareDigest : Option String := none
  identityId : Option String := none
  principal : Option String := none
  authMethod : Option String := none
  issuer : Option String := none
  audience : Option String := none
  subject : Option String := none
  githubLogin : Option String := none
  githubUserId : Option String := none
  actor : Option String := none
  actorId : Option String := none
  repository : Option String := none
  repositoryId : Option String := none
  gitRef : Option String := none
  refProtected : Option Bool := none
  environment : Option String := none
  commitSha : Option String := none
  eventName : Option String := none
  workflowRef : Option String := none
  runId : Option String := none
  runAttempt : Option String := none
  jti : Option String := none

structure AuditDetails where
  keyId : Option String := none
  firmwareDigest : Option String := none

def auditRecord (requestId operation : String) (success : Bool) (reason : String)
    (principal : Option AuthPrincipal) (details : AuditDetails) : AuditRecord :=
  let account := principal.bind fun principal => match principal.source with
    | .githubAccount account => some account
    | .githubActions _ => none
  let actions := principal.bind fun principal => match principal.source with
    | .githubAccount _ => none
    | .githubActions actions => some actions
  { requestId
    operation
    success
    reason
    keyId := details.keyId
    firmwareDigest := details.firmwareDigest
    identityId := principal.map (·.identityId)
    principal := principal.map (·.principalKey)
    authMethod := principal.map (·.authMethod)
    issuer := principal.map (·.issuer)
    audience := principal.bind (·.audience)
    subject := principal.map (·.subject)
    githubLogin := account.map (·.login)
    githubUserId := account.map (·.userId)
    actor := actions.bind (·.actor)
    actorId := actions.bind (·.actorId)
    repository := actions.map (·.repository)
    repositoryId := actions.map (·.repositoryId)
    gitRef := actions.map (·.gitRef)
    refProtected := actions.map (·.refProtected)
    environment := actions.bind (·.environment)
    commitSha := actions.map (·.sha)
    eventName := actions.map (·.eventName)
    workflowRef := actions.map (·.workflowRef)
    runId := actions.map (·.runId)
    runAttempt := actions.map (·.runAttempt)
    jti := principal.bind (·.jti) }

end MicrotunSigner
