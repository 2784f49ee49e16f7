import MicrotunSigner.Config
import Mathlib.Data.List.Nodup

/-!
# Claims, principals and identities (`auth.rs`)

The claims of a verified GitHub Actions token, the principals that authentication yields, and the
match of claims and accounts against the configured identities.

`matchesGithubActionsIdentity` keeps the early returns of the source. `GithubActionsMatch` says
what it accepts, one field per constraint (`matchesGithubActionsIdentity_iff`), and
`resolveGithubActionsIdentity_eq_ok` that the resolved identity is the only match.
-/

namespace MicrotunSigner

open Lib Lib.Text

def oauthScope : String := "read:user"

/-- A JSON value, as far as the code looks into it. -/
inductive JsonValue where
  | bool (flag : Bool)
  | string (text : String)
  | other
  deriving DecidableEq, Repr

inductive Audience where
  | one (value : String)
  | many (values : List String)
  deriving DecidableEq, Repr

def Audience.asAuditString : Audience → String
  | .one value => value
  | .many values => String.intercalate "," values

structure GithubActionsClaims where
  iss : String
  aud : Audience
  sub : String
  exp : UInt64
  jti : Option String
  actor : Option String
  actorId : Option String
  repository : String
  repositoryId : String
  gitRef : String
  refType : String
  refProtected : Option JsonValue
  sha : String
  workflowRef : String
  workflowSha : Option String
  eventName : String
  runId : String
  runAttempt : String
  environment : Option String
  runnerEnvironment : Option String
  deriving DecidableEq, Repr

structure GithubAccountIdentity where
  userId : String
  login : String
  deriving DecidableEq, Repr

structure GithubActionsIdentity where
  repository : String
  repositoryId : String
  actor : Option String
  actorId : Option String
  gitRef : String
  refType : String
  refProtected : Bool
  sha : String
  workflowRef : String
  eventName : String
  environment : Option String
  runId : String
  runAttempt : String
  deriving DecidableEq, Repr

inductive AuthSource where
  | githubAccount (account : GithubAccountIdentity)
  | githubActions (actions : GithubActionsIdentity)
  deriving DecidableEq, Repr

structure AuthPrincipal where
  identityId : String
  principalKey : String
  authMethod : String
  issuer : String
  audience : Option String
  subject : String
  jti : Option String
  source : AuthSource
  deriving DecidableEq, Repr

inductive AuthError where
  | missingBearer
  | tokenTooLarge
  | invalidToken
  | tokenReplayed
  | replayCacheUnavailable
  | keyDiscovery
  | identityProviderUnavailable
  | claimsDenied
  deriving DecidableEq, Repr

def claimIsTrue : Option JsonValue → Bool
  | some (.bool flag) => flag
  | some (.string text) => text == "true"
  | _ => false

def scopeGrantsReadUser (scopes : List String) : Bool :=
  scopes.any fun scope => scope == oauthScope || scope == "user"

def matchesGithubAccountIdentity (identity : IdentityConfig) (userId login : String) : Bool :=
  identity.kind == .githubAccount && identity.githubUserId == some userId &&
    identity.githubLogin.all fun expected => eqIgnoreAsciiCase expected login

def expectedWorkflowRef (claims : GithubActionsClaims) (workflowPath : String) : String :=
  claims.repository ++ "/" ++ workflowPath ++ "@" ++ claims.gitRef

def refTypeAllowed (identity : IdentityConfig) (claims : GithubActionsClaims) : Bool :=
  match identity.allowedRefTypes with
  | some allowedRefTypes => allowedRefTypes.any fun refType => refType == claims.refType
  -- Tag refs are the default.
  | none => claims.refType == "tag"

def workflowShaAllowed (identity : IdentityConfig) (claims : GithubActionsClaims) : Bool :=
  match identity.allowedWorkflowShas with
  | none => true
  | some allowedWorkflowShas =>
    if allowedWorkflowShas.isEmpty then true
    else match claims.workflowSha with
      | none => false
      | some workflowSha =>
        allowedWorkflowShas.any fun allowed => eqIgnoreAsciiCase allowed workflowSha

/-- The checks that a `WorkflowPath` switches on, in the order of the source. -/
def matchesWorkflow (identity : IdentityConfig) (claims : GithubActionsClaims)
    (workflowPath : String) : Bool :=
  match identity.allowedEventNames with
  | none => false
  | some allowedEvents =>
    if !allowedEvents.any fun event => event == claims.eventName then false
    else if !refTypeAllowed identity claims then false
    else if claims.workflowRef != expectedWorkflowRef claims workflowPath then false
    else if identity.requiredEnvironment.any fun e => claims.environment != some e then false
    else if identity.requiredRunnerEnvironment.any fun e => claims.runnerEnvironment != some e then
      false
    else workflowShaAllowed identity claims

def matchesGithubActionsIdentity (identity : IdentityConfig) (claims : GithubActionsClaims) : Bool :=
  if identity.kind != .githubActions || identity.repositoryId != some claims.repositoryId ||
      !(identity.repository.all fun expected => eqIgnoreAsciiCase expected claims.repository) then
    false
  else
    -- Without a `WorkflowPath` the identity is the whole repository.
    match identity.workflowPath with
    | none => true
    | some workflowPath => matchesWorkflow identity claims workflowPath

def resolveGithubActionsIdentity (identities : List IdentityConfig) (claims : GithubActionsClaims) :
    Except AuthError IdentityConfig :=
  match identities.filter fun identity => matchesGithubActionsIdentity identity claims with
  | [] => .error .claimsDenied
  | [identity] => .ok identity
  -- Overlapping identities are never told apart by their order.
  | _ :: _ :: _ => .error .claimsDenied

/-! ## What a match means -/

theorem claimIsTrue_iff {claim : Option JsonValue} :
    claimIsTrue claim = true ↔ claim = some (.bool true) ∨ claim = some (.string "true") := by
  cases claim with
  | none => simp [claimIsTrue]
  | some value => cases value <;> simp [claimIsTrue]

/-- The constraints that `WorkflowPath` switches on. -/
structure WorkflowMatch (identity : IdentityConfig) (claims : GithubActionsClaims)
    (workflowPath : String) : Prop where
  event : ∃ events, identity.allowedEventNames = some events ∧ claims.eventName ∈ events
  refType : match identity.allowedRefTypes with
    | some types => claims.refType ∈ types
    | none => claims.refType = "tag"
  workflowRef : claims.workflowRef = expectedWorkflowRef claims workflowPath
  environment : ∀ e, identity.requiredEnvironment = some e → claims.environment = some e
  runner : ∀ e, identity.requiredRunnerEnvironment = some e → claims.runnerEnvironment = some e
  workflowSha : ∀ shas, identity.allowedWorkflowShas = some shas → shas ≠ [] →
    ∃ sha, claims.workflowSha = some sha ∧ ∃ allowed ∈ shas, eqIgnoreAsciiCase allowed sha = true

/-- The identity matches the claims. -/
structure GithubActionsMatch (identity : IdentityConfig) (claims : GithubActionsClaims) : Prop where
  kind : identity.kind = .githubActions
  repositoryId : identity.repositoryId = some claims.repositoryId
  repository : ∀ r, identity.repository = some r → eqIgnoreAsciiCase r claims.repository = true
  workflow : ∀ w, identity.workflowPath = some w → WorkflowMatch identity claims w

theorem refTypeAllowed_iff {identity : IdentityConfig} {claims : GithubActionsClaims} :
    refTypeAllowed identity claims = true ↔ match identity.allowedRefTypes with
      | some types => claims.refType ∈ types
      | none => claims.refType = "tag" := by
  unfold refTypeAllowed
  split <;> simp

theorem workflowShaAllowed_iff {identity : IdentityConfig} {claims : GithubActionsClaims} :
    workflowShaAllowed identity claims = true ↔
      ∀ shas, identity.allowedWorkflowShas = some shas → shas ≠ [] →
        ∃ sha, claims.workflowSha = some sha ∧
          ∃ allowed ∈ shas, eqIgnoreAsciiCase allowed sha = true := by
  unfold workflowShaAllowed
  cases identity.allowedWorkflowShas with
  | none => simp
  | some shas => cases shas with
    | nil => simp
    | cons a shas => cases claims.workflowSha <;> simp

/-- An optional requirement is met iff the claim is what it requires. -/
theorem any_ne_some {required claim : Option String} :
    (required.any fun e => claim != some e) = false ↔ ∀ e, required = some e → claim = some e := by
  cases required <;> simp

theorem matchesWorkflow_iff {identity : IdentityConfig} {claims : GithubActionsClaims}
    {workflowPath : String} :
    matchesWorkflow identity claims workflowPath = true ↔
      WorkflowMatch identity claims workflowPath := by
  unfold matchesWorkflow
  cases he : identity.allowedEventNames with
  | none =>
    refine ⟨fun h => by simp at h, fun hm => ?_⟩
    obtain ⟨events, h, -⟩ := hm.event
    rw [he] at h
    cases h
  | some events =>
    have hevent : (events.any fun event => event == claims.eventName) = true ↔
        claims.eventName ∈ events := by simp
    simp only [Bool.ite_eq_true_distrib, Bool.false_eq_true, if_false_left, Bool.not_eq_true',
      Bool.not_eq_false, bne_iff_ne, ne_eq, not_not, Bool.not_eq_true, any_ne_some, hevent,
      refTypeAllowed_iff, workflowShaAllowed_iff]
    constructor
    · rintro ⟨h1, h2, h3, h4, h5, h6⟩
      exact ⟨⟨events, he, h1⟩, h2, h3, h4, h5, h6⟩
    · rintro ⟨⟨events', he', h1⟩, h2, h3, h4, h5, h6⟩
      rw [he] at he'
      cases he'
      exact ⟨h1, h2, h3, h4, h5, h6⟩

theorem matchesGithubActionsIdentity_iff {identity : IdentityConfig} {claims : GithubActionsClaims} :
    matchesGithubActionsIdentity identity claims = true ↔ GithubActionsMatch identity claims := by
  unfold matchesGithubActionsIdentity
  split
  · rename_i h
    simp only [Bool.false_eq_true, false_iff]
    intro hm
    have hrepo : identity.repository.all (fun e => eqIgnoreAsciiCase e claims.repository) = true := by
      cases hr : identity.repository with
      | none => rfl
      | some r => exact hm.repository r hr
    simp [hm.kind, hm.repositoryId, hrepo] at h
  · rename_i h
    simp only [Bool.or_eq_true, bne_iff_ne, ne_eq, Bool.not_eq_true', not_or, not_not,
      Bool.not_eq_false] at h
    obtain ⟨⟨hkind, hid⟩, hrepo⟩ := h
    have hbase : GithubActionsMatch identity claims ↔
        ∀ w, identity.workflowPath = some w → WorkflowMatch identity claims w := by
      refine ⟨fun hm => hm.workflow, fun hw => ⟨hkind, hid, fun r hr => ?_, hw⟩⟩
      rwa [hr] at hrepo
    rw [hbase]
    cases hw : identity.workflowPath with
    | none => simp
    | some w =>
      have hone : (∀ v, some w = some v → WorkflowMatch identity claims v) ↔
          WorkflowMatch identity claims w := by simp
      rw [hone]
      exact matchesWorkflow_iff

/-- The resolved identity is the only configured one that matches. -/
theorem resolveGithubActionsIdentity_eq_ok {identities : List IdentityConfig}
    {claims : GithubActionsClaims} {identity : IdentityConfig} :
    resolveGithubActionsIdentity identities claims = .ok identity ↔
      (identities.filter fun i => matchesGithubActionsIdentity i claims) = [identity] := by
  unfold resolveGithubActionsIdentity
  cases identities.filter fun i => matchesGithubActionsIdentity i claims with
  | nil => simp
  | cons i is => cases is <;> simp

theorem resolve_matches {identities : List IdentityConfig} {claims : GithubActionsClaims}
    {identity : IdentityConfig}
    (h : resolveGithubActionsIdentity identities claims = .ok identity) :
    identity ∈ identities ∧ GithubActionsMatch identity claims := by
  have hm : identity ∈ identities.filter fun i => matchesGithubActionsIdentity i claims := by
    rw [resolveGithubActionsIdentity_eq_ok.mp h]
    exact List.mem_singleton_self identity
  obtain ⟨hmem, hb⟩ := List.mem_filter.mp hm
  exact ⟨hmem, matchesGithubActionsIdentity_iff.mp hb⟩

end MicrotunSigner
