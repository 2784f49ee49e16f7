import MicrotunSigner.Api.Audit
import MicrotunSigner.Authorization
import MicrotunSigner.Auth.Actions
import MicrotunSigner.Config.Accepted
import MicrotunSigner.Key.UnlockCalls
import MicrotunSigner.Lib.Base64

/-!
# Signing (`api.rs`)

`createSignature` with its two checks, `validateSigningRequest` and `validateSigningContext`. The
result is the audit records that the handler emitted, in order, and its answer.

* What it gets from elsewhere are arguments: the answer of `authenticate`, the id of the attempt,
  the locks of the keys when the request is validated and when it is signed, and the random numbers
  of the signature.
* `ApiCrates`: the JSON parser and the standard base64 of the `serde_json` and `base64` crates.
-/

namespace MicrotunSigner

open Lib Lib.Text

/-- The body of a signing request. -/
structure SigningRequest where
  digest : String

structure SignatureResponse where
  signature : String
  deriving DecidableEq, Repr

/-- The crates that read a request and write its answer. `fromSlice` accepts a body with the one
field `digest`. -/
structure ApiCrates where
  fromSlice : List UInt8 → Option SigningRequest
  decode : List UInt8 → Option (List UInt8)
  encode : List UInt8 → String

/-- The immutable state of the handlers. -/
structure AppState where
  keys : KeyStore
  authz : Authorizer

/-- `get`, with the position of the key's lock. -/
def KeyStore.getAt (self : KeyStore) (keyId : String) : Option (Nat × KeyMaterial) := do
  let position ← self.position keyId
  let key ← self.keys[position]?
  return (position, key)

def toDigest (decoded : List UInt8) : Option (Vector UInt8 32) :=
  if h : decoded.length = 32 then some ⟨decoded.toArray, by simpa using h⟩ else none

def validateSigningContext (principal : AuthPrincipal) : Except ApiError Unit :=
  match principal.source with
  | .githubAccount _ => .ok ()
  | .githubActions actions => do
    bailIf (actions.refType != "tag")
      (.withoutRequestId .forbidden "tag-required" "A release tag is required"
        "Firmware signing from GitHub Actions requires an authenticated tag ref.")
    bailIf (!actions.refProtected)
      (.withoutRequestId .forbidden "protected-ref-required" "A protected release tag is required"
        "Firmware signing from GitHub Actions requires a tag protected by a GitHub ruleset.")
    let tag ← okOr (stripPrefix actions.gitRef "refs/tags/")
      (.withoutRequestId .forbidden "tag-required" "A release tag is required"
        "The authenticated GitHub Actions ref must be under refs/tags/.")
    bailIf (isEmpty tag)
      (.withoutRequestId .forbidden "tag-required" "A release tag is required"
        "The authenticated GitHub Actions tag ref must name a tag.")

variable {P S R : Type}

def validateSigningRequest (api : ApiCrates) (state : AppState) (cells : KeyCells P S R)
    (principal : AuthPrincipal) (keyId : String) (request : SigningRequest) :
    Except ApiError (Vector UInt8 32) := do
  bailIf (!validKeyId keyId) unknownKeyError
  (state.authz.authorize principal .sign keyId).mapError fun _ => policyDeniedError
  let (position, key) ← okOr (state.keys.getAt keyId) unknownKeyError
  bailIf (key.state != .active)
    (.withoutRequestId .conflict "key-state-conflict" "Signing key is not active"
      "The requested key is available for metadata lookup but cannot create new signatures.")
  bailIf (!(cells position).isUnlocked)
    (.withoutRequestId .locked "key-locked" "Signing key is locked"
      "The requested signing key must be manually unlocked before it can create signatures.")
  let decoded ← okOr (api.decode request.digest.toByteArray.data.toList)
    (.unprocessable "invalid-digest-base64" "Invalid firmware digest" "digest must be valid base64.")
  let digest ← okOr (toDigest decoded)
    (.unprocessable "invalid-digest-length" "Invalid firmware digest length"
      (if decoded.length < 32 then "The decoded SHA-256 digest is shorter than 32 bytes."
      else "The decoded SHA-256 digest is longer than 32 bytes."))
  validateSigningContext principal
  return digest

/-- The last part of `create_signature`: sign the digest of a validated request. -/
def signValidated (api : ApiCrates) (crates : KeyCrates P S R) (state : AppState)
    (cells : KeyCells P S R) (rng : Nat) (attemptRequestId : String) (principal : AuthPrincipal)
    (keyId : String) (digest : Vector UInt8 32) :
    List AuditRecord × Outcome ApiError SignatureResponse :=
  match state.keys.getAt keyId with
  | none => ([], .panic)
  | some (position, _) =>
    match (cells position).signDigest crates rng digest with
    -- Neither error leaves a record.
    | .error .locked => ([], .err (.new .locked "key-locked" "Signing key is locked"
        "The requested signing key must be manually unlocked before it can create signatures."
        attemptRequestId))
    | .error .failed => ([], .err (.new .internalServerError "signing-failed"
        "Signing operation failed"
        "The signing key could not create a signature due to an internal error."
        attemptRequestId))
    | .ok signature =>
      ([auditRecord attemptRequestId "sign" true "ok" (some principal)
          { keyId := some keyId, firmwareDigest := some (hexEncode digest.toList) }],
        .ok ⟨api.encode signature⟩)

/-- `checked` and `signed` are the locks when the request is validated and when it is signed. -/
def createSignature (api : ApiCrates) (crates : KeyCrates P S R) (state : AppState)
    (authenticated : Except AuthError AuthPrincipal) (checked signed : KeyCells P S R) (rng : Nat)
    (attemptRequestId keyId : String) (headers : HeaderMap) (body : List UInt8) :
    List AuditRecord × Outcome ApiError SignatureResponse :=
  if !isJsonContentType headers then
    ([], .err (.new .unsupportedMediaType "unsupported-content-type" "Unsupported content type"
      "Signing requests must use Content-Type: application/json." attemptRequestId))
  else match authenticated with
  | .error error =>
    let apiError := authError error attemptRequestId
    ([{ requestId := attemptRequestId, operation := "sign", success := false,
        reason := apiError.slug }], .err apiError)
  | .ok principal =>
    match api.fromSlice body with
    | none =>
      let error := ApiError.new .badRequest "malformed-json" "Malformed signing request"
        "The request body must contain exactly one base64-encoded SHA-256 digest." attemptRequestId
      ([auditRecord attemptRequestId "sign" false error.slug (some principal)
        { keyId := some keyId }], .err error)
    | some request =>
      match validateSigningRequest api state checked principal keyId request with
      | .error error =>
        let error := { error with requestId := attemptRequestId }
        ([auditRecord attemptRequestId "sign" false error.slug (some principal)
          { keyId := some keyId }], .err error)
      | .ok digest =>
        signValidated api crates state signed rng attemptRequestId principal keyId digest

/-! ## What the checks accept -/

theorem toDigest_eq_some {decoded : List UInt8} {digest : Vector UInt8 32} :
    toDigest decoded = some digest ↔ decoded = digest.toList := by
  unfold toDigest
  constructor
  · intro h
    split at h
    · cases h
      rfl
    · cases h
  · rintro rfl
    rw [dif_pos (Vector.length_toList), Option.some.injEq, ← Vector.toArray_inj]
    exact Array.toArray_toList

theorem getAt_eq_some {store : KeyStore} {keyId : String} {i : Nat} {key : KeyMaterial} :
    store.getAt keyId = some (i, key) ↔
      store.position keyId = some i ∧ store.keys[i]? = some key := by
  simp only [KeyStore.getAt, Option.bind_eq_bind, Option.bind_eq_some_iff, Option.pure_def,
    Option.some.injEq, Prod.mk.injEq]
  constructor
  · rintro ⟨j, hj, k, hk, rfl, rfl⟩
    exact ⟨hj, hk⟩
  · rintro ⟨hi, hk⟩
    exact ⟨i, hi, key, hk, rfl, rfl⟩

/-- A release tag: protected, and with a name. -/
structure ReleaseRef (actions : GithubActionsIdentity) : Prop where
  refType : actions.refType = "tag"
  refProtected : actions.refProtected = true
  gitRef : ∃ tag, tag ≠ "" ∧ actions.gitRef = "refs/tags/" ++ tag

theorem validateSigningContext_eq_ok {principal : AuthPrincipal} {u : Unit} :
    validateSigningContext principal = .ok u ↔
      ∀ actions, principal.source = .githubActions actions → ReleaseRef actions := by
  unfold validateSigningContext
  cases principal.source with
  | githubAccount account => simp
  | githubActions actions =>
    simp only [Except.bind_eq_ok, bailIf_eq_ok, exists_const, okOr_eq_ok, bne_eq_false_iff_eq,
      Bool.not_eq_false', AuthSource.githubActions.injEq, forall_eq']
    constructor
    · rintro ⟨htype, hprot, tag, htag, hne⟩
      refine ⟨htype, hprot, tag, ?_, stripPrefix_eq_some htag⟩
      rintro rfl
      cases hne
    · rintro ⟨htype, hprot, tag, hne, href⟩
      refine ⟨htype, hprot, tag, ?_, ?_⟩
      · rw [href]
        exact stripPrefix_append "refs/tags/" tag
      · exact isEmpty_eq_false.mpr hne

variable {api : ApiCrates} {crates : KeyCrates P S R} {state : AppState}
  {authenticated : Except AuthError AuthPrincipal} {cells checked signed : KeyCells P S R}
  {rng : Nat} {attemptRequestId keyId : String} {headers : HeaderMap} {body : List UInt8}
  {principal : AuthPrincipal} {request : SigningRequest} {digest : Vector UInt8 32}

/-- What a validated request is. -/
structure ValidRequest (api : ApiCrates) (state : AppState) (cells : KeyCells P S R)
    (principal : AuthPrincipal) (keyId : String) (request : SigningRequest)
    (digest : Vector UInt8 32) : Prop where
  validId : validKeyId keyId = true
  allowed : state.authz.authorize principal .sign keyId = .ok ()
  opened : ∃ i key, state.keys.getAt keyId = some (i, key) ∧ key.state = .active ∧
    (cells i).isUnlocked = true
  decoded : api.decode request.digest.toByteArray.data.toList = some digest.toList
  context : ∀ actions, principal.source = .githubActions actions → ReleaseRef actions

theorem validateSigningRequest_eq_ok :
    validateSigningRequest api state cells principal keyId request = .ok digest ↔
      ValidRequest api state cells principal keyId request digest := by
  simp only [validateSigningRequest, Except.bind_eq_ok, bailIf_eq_ok, exists_const, okOr_eq_ok,
    mapError_eq_ok, Bool.not_eq_false', Prod.exists, bne_eq_false_iff_eq, toDigest_eq_some,
    validateSigningContext_eq_ok]
  constructor
  · rintro ⟨hid, ⟨⟩, hauth, i, key, hget, hact, hopen, _, hdec, digest', rfl, hctx, he⟩
    cases he
    exact ⟨hid, hauth, ⟨i, key, hget, hact, hopen⟩, hdec, hctx⟩
  · rintro ⟨hid, hauth, ⟨i, key, hget, hact, hopen⟩, hdec, hctx⟩
    exact ⟨hid, (), hauth, i, key, hget, hact, hopen, _, hdec, digest, rfl, hctx, rfl⟩

/-! ## Requests that are signed -/

/-- A request that is answered with a signature was authenticated, parsed and valid, and the
signature is one of its digest by the key. -/
theorem createSignature_ok {response : SignatureResponse}
    (h : (createSignature api crates state authenticated checked signed rng attemptRequestId keyId
      headers body).2 = .ok response) :
    ∃ principal request digest i key signature, authenticated = .ok principal ∧
      api.fromSlice body = some request ∧
      ValidRequest api state checked principal keyId request digest ∧
      state.keys.getAt keyId = some (i, key) ∧
      (signed i).signDigest crates rng digest = .ok signature ∧
      response.signature = api.encode signature := by
  unfold createSignature at h
  split at h
  · cases h
  split at h
  · cases h
  rename_i principal
  split at h
  · cases h
  rename_i request hreq
  split at h
  · cases h
  rename_i digest hval
  unfold signValidated at h
  split at h
  · cases h
  rename_i i key hget
  split at h
  · cases h
  · cases h
  rename_i signature hsig
  cases h
  exact ⟨principal, request, digest, i, key, signature, rfl, hreq,
    validateSigningRequest_eq_ok.mp hval, hget, hsig, rfl⟩

/-- What the claims of a signing run satisfy of the identity they match. -/
structure ReleaseClaims (identity : IdentityConfig) (claims : GithubActionsClaims) : Prop where
  repositoryId : identity.repositoryId = some claims.repositoryId
  repository : ∀ r, identity.repository = some r → eqIgnoreAsciiCase r claims.repository = true
  workflowRef : ∃ w, identity.workflowPath = some w ∧
    claims.workflowRef = claims.repository ++ "/" ++ w ++ "@" ++ claims.gitRef
  eventName : ∃ events, identity.allowedEventNames = some events ∧ claims.eventName ∈ events
  refType : claims.refType = "tag"
  gitRef : ∃ tag, tag ≠ "" ∧ claims.gitRef = "refs/tags/" ++ tag
  refProtected : claims.refProtected = some (.bool true) ∨
    claims.refProtected = some (.string "true")
  environment : ∃ e, identity.requiredEnvironment = some e ∧ claims.environment = some e
  runnerEnvironment : ∀ e, identity.requiredRunnerEnvironment = some e →
    claims.runnerEnvironment = some e
  workflowSha : ∀ shas, identity.allowedWorkflowShas = some shas →
    ∃ sha, claims.workflowSha = some sha ∧ ∃ allowed ∈ shas, eqIgnoreAsciiCase allowed sha = true

/-- **End-to-end soundness of signing from GitHub Actions.** Under an accepted configuration, a
signature for a principal of these claims means: one configured identity matches the claims, it may
sign with this key, and the claims are those of a release run that it describes. The key is active
and unlocked, and it signed the digest of the request. -/
theorem actions_signature_sound {parse : String → Option Url} {config : Config}
    (hconfig : config.normalizeAndValidate parse = .ok ()) {store : KeyStore}
    {claims : GithubActionsClaims} {now : Int} {unixNow : Nat} {seenJtis seenJtis' : SeenJtis}
    (hauth : admitClaims config.identities claims now unixNow seenJtis = (.ok principal, seenJtis'))
    {response : SignatureResponse}
    (hsign : (createSignature api crates ⟨store, ⟨config.policies⟩⟩ (.ok principal) checked signed
      rng attemptRequestId keyId headers body).2 = .ok response) :
    ∃ identity,
      (config.identities.filter fun i => matchesGithubActionsIdentity i claims) = [identity] ∧
      identity.kind = .githubActions ∧
      (∃ policy ∈ config.policies, policy.identity = identity.id ∧ .sign ∈ policy.actions ∧
        ("*" ∈ policy.keys ∨ keyId ∈ policy.keys)) ∧
      ReleaseClaims identity claims ∧
      ∃ i key request digest material signature, store.position keyId = some i ∧
        store.keys[i]? = some key ∧ key.state = .active ∧ (checked i).isUnlocked = true ∧
        (signed i).unlocked = some material ∧ api.fromSlice body = some request ∧
        api.decode request.digest.toByteArray.data.toList = some (Vector.toList digest) ∧
        material.sign crates rng digest = .ok signature ∧
        response.signature = api.encode signature := by
  have hacc := Config.accepted_of_ok hconfig
  obtain ⟨principal', request, digest, i, key, signature, he, hreq, hvalid, hget, hsig, hres⟩ :=
    createSignature_ok hsign
  cases he
  -- The principal is that of the one identity the claims match.
  obtain ⟨jti, identity, hresolve, rfl⟩ := admitClaims_ok hauth
  obtain ⟨hmem, hmatch⟩ := resolve_matches hresolve
  obtain ⟨policy, hpolicy, hid, hact, hkey⟩ := Authorizer.authorize_eq_ok.mp hvalid.allowed
  have hid : policy.identity = identity.id := hid
  obtain ⟨⟨w, hw⟩, ⟨e, henv⟩, htypes⟩ := hacc.sign_identity hpolicy hmem hid hmatch.kind hact
  have hwf := hmatch.workflow w hw
  have href := hvalid.context _ rfl
  obtain ⟨i', key', hget', hactive, hopen⟩ := hvalid.opened
  rw [hget] at hget'
  cases hget'
  obtain ⟨hpos, hkeys⟩ := getAt_eq_some.mp hget
  obtain ⟨material, hmat, hmsign⟩ := (signDigest_cases (signed i)).1 signature hsig
  refine ⟨identity, resolveGithubActionsIdentity_eq_ok.mp hresolve, hmatch.kind,
    ⟨policy, hpolicy, hid, hact, hkey⟩, ?_, i, key, request, digest, material, signature, hpos,
    hkeys, hactive, hopen, hmat, hreq, hvalid.decoded, hmsign, hres⟩
  exact {
    repositoryId := hmatch.repositoryId
    repository := hmatch.repository
    workflowRef := ⟨w, hw, hwf.workflowRef⟩
    eventName := hwf.event
    refType := href.refType
    gitRef := href.gitRef
    refProtected := claimIsTrue_iff.mp href.refProtected
    environment := ⟨e, henv, hwf.environment e henv⟩
    runnerEnvironment := hwf.runner
    workflowSha := fun shas hs =>
      hwf.workflowSha shas hs (hacc.workflow_shas hmem hmatch.kind hs) }

/-! ### The shipped configuration -/

/-- The digest of 32 zero bytes in base64. -/
def exampleDigest : String := "AAAAAAAAAAAAAAAAAAAAAAAAAAAAAAAAAAAAAAAAAAA="

def exampleBody : List UInt8 :=
  ("\x7b\"digest\":\"" ++ exampleDigest ++ "\"\x7d").toByteArray.data.toList

/-- Crates that know this body, and write base64 without padding. -/
def exampleApi : ApiCrates where
  fromSlice body := if body = exampleBody then some ⟨exampleDigest⟩ else none
  decode text := if text = exampleDigest.toByteArray.data.toList then some (List.replicate 32 0)
    else none
  encode bytes := String.ofList (Base64.encode bytes)

def exampleHeaders : HeaderMap := ⟨none, some "application/json".toByteArray.data.toList⟩

def exampleState : AppState := ⟨exampleKeyStore, ⟨exampleConfig.policies⟩⟩

/-- The production key is unlocked. -/
def exampleCells (i : Nat) : KeyCell (UnlockedKeyMaterial String String String) :=
  ⟨if i = 0 then some (.p256 "PEM1") else none, false, none⟩

def examplePrincipal : AuthPrincipal := actionsPrincipal exampleRelease exampleClaims "4f1c"

/-- A release run signs with the production key. -/
theorem release_run_signs :
    (createSignature exampleApi exampleCrates exampleState (.ok examplePrincipal) exampleCells
      exampleCells 0 "01J" "microtun-firmware-prod" exampleHeaders exampleBody).2 =
      .ok ⟨"UEVNMQAAAAAAAAAAAAAAAAAAAAAAAAAAAAAAAAAAAAAAAAAA"⟩ ∧
    ∃ identity,
      (exampleConfig.identities.filter fun i => matchesGithubActionsIdentity i exampleClaims) =
        [identity] ∧ ReleaseClaims identity exampleClaims := by
  have hsign : (createSignature exampleApi exampleCrates exampleState (.ok examplePrincipal)
      exampleCells exampleCells 0 "01J" "microtun-firmware-prod" exampleHeaders exampleBody).2 =
      .ok ⟨"UEVNMQAAAAAAAAAAAAAAAAAAAAAAAAAAAAAAAAAAAAAAAAAA"⟩ := by decide
  have hauth : admitClaims exampleConfig.identities exampleClaims 0 900 { data := Map.empty } =
      (.ok examplePrincipal, { data := Map.empty.insert "4f1c" 160000000000 }) := by rfl
  obtain ⟨identity, hone, -, -, hclaims, -⟩ := actions_signature_sound exampleConfig_accepted hauth hsign
  exact ⟨hsign, identity, hone, hclaims⟩

/-! ## Audit -/

/-- One record for the attempt, which tells what happened. -/
def AuditedOnce (authenticated : Except AuthError AuthPrincipal) (keyId : String)
    (out : List AuditRecord × Outcome ApiError SignatureResponse) : Prop :=
  ∃ record, out.1 = [record] ∧ (record.success = true ↔ ∃ response, out.2 = .ok response) ∧
    (∀ e, out.2 = .err e → record.reason = e.slug ∧ record.requestId = e.requestId) ∧
    ∀ principal, authenticated = .ok principal →
      record.identityId = some principal.identityId ∧ record.keyId = some keyId

/-- The request is authenticated and valid, and then the key does not sign. -/
def SignFails (api : ApiCrates) (crates : KeyCrates P S R) (state : AppState)
    (authenticated : Except AuthError AuthPrincipal) (checked signed : KeyCells P S R) (rng : Nat)
    (keyId : String) (body : List UInt8) : Prop :=
  ∃ principal request digest i key e, authenticated = .ok principal ∧
    api.fromSlice body = some request ∧
    ValidRequest api state checked principal keyId request digest ∧
    state.keys.getAt keyId = some (i, key) ∧ (signed i).signDigest crates rng digest = .error e

theorem signValidated_error {i : Nat} {key : KeyMaterial} {e : SignError}
    (hget : state.keys.getAt keyId = some (i, key))
    (he : (signed i).signDigest crates rng digest = .error e) :
    (signValidated api crates state signed rng attemptRequestId principal keyId digest).1 = [] := by
  unfold signValidated
  rw [hget]
  simp only [he]
  cases e <;> rfl

theorem signValidated_ok {i : Nat} {key : KeyMaterial} {signature : List UInt8}
    (hget : state.keys.getAt keyId = some (i, key))
    (hs : (signed i).signDigest crates rng digest = .ok signature) :
    signValidated api crates state signed rng attemptRequestId principal keyId digest =
      ([auditRecord attemptRequestId "sign" true "ok" (some principal)
          { keyId := some keyId, firmwareDigest := some (hexEncode digest.toList) }],
        .ok ⟨api.encode signature⟩) := by
  unfold signValidated
  rw [hget]
  simp only [hs]

/-- A record of a failure after authentication. -/
theorem auditedOnce_failure (error : ApiError) (hid : error.requestId = attemptRequestId) :
    AuditedOnce (.ok principal) keyId
      ([auditRecord attemptRequestId "sign" false error.slug (some principal)
        { keyId := some keyId }], .err error) := by
  refine ⟨_, rfl, ⟨fun h => (nomatch h), fun ⟨_, h⟩ => nomatch h⟩, ?_, ?_⟩
  · intro e he
    cases he
    exact ⟨rfl, hid.symm⟩
  · intro p hp
    cases hp
    exact ⟨rfl, rfl⟩

/-- A request with the right content type leaves exactly one truthful record, unless it is valid
and the key then fails to sign: both exits of `sign_digest` leave none. -/
theorem audited_once_iff (hjson : isJsonContentType headers = true) :
    AuditedOnce authenticated keyId (createSignature api crates state authenticated checked signed
      rng attemptRequestId keyId headers body) ↔
    ¬ SignFails api crates state authenticated checked signed rng keyId body := by
  unfold createSignature
  rw [if_neg (by simp [hjson])]
  constructor
  · rintro ⟨record, hone, -⟩ ⟨principal, request, digest, i, key, e, rfl, hreq, hvalid, hget, he⟩
    have hval := validateSigningRequest_eq_ok.mpr hvalid
    simp only [hreq, hval, signValidated_error hget he] at hone
    cases hone
  · intro hok
    cases authenticated with
    | error error =>
      refine ⟨_, rfl, ⟨fun h => (nomatch h), fun ⟨_, h⟩ => nomatch h⟩, ?_, fun p hp => nomatch hp⟩
      intro e he
      cases he
      exact ⟨rfl, (authError_requestId error attemptRequestId).symm⟩
    | ok principal =>
      cases hreq : api.fromSlice body with
      | none =>
        exact auditedOnce_failure _ rfl
      | some request =>
        cases hval : validateSigningRequest api state checked principal keyId request with
        | error error =>
          simp only [hval]
          exact auditedOnce_failure { error with requestId := attemptRequestId } rfl
        | ok digest =>
          have hvalid := validateSigningRequest_eq_ok.mp hval
          obtain ⟨i, key, hget, -, -⟩ := hvalid.opened
          cases hsig : (signed i).signDigest crates rng digest with
          | error e =>
            exact absurd ⟨principal, request, digest, i, key, e, rfl, hreq, hvalid, hget, hsig⟩ hok
          | ok signature =>
            simp only [hval, signValidated_ok hget hsig]
            refine ⟨_, rfl, ⟨fun _ => ⟨_, rfl⟩, fun _ => rfl⟩, fun e he => (nomatch he), ?_⟩
            intro p hp
            cases hp
            exact ⟨rfl, rfl⟩

/-- The release run that signs is audited. -/
theorem release_run_audited :
    AuditedOnce (.ok examplePrincipal) "microtun-firmware-prod"
      (createSignature exampleApi exampleCrates exampleState (.ok examplePrincipal) exampleCells
        exampleCells 0 "01J" "microtun-firmware-prod" exampleHeaders exampleBody) := by
  refine (audited_once_iff (by decide)).mpr ?_
  rintro ⟨principal, request, digest, i, key, e, -, -, -, hget, he⟩
  have hzero : exampleState.keys.getAt "microtun-firmware-prod" = some (0, _) := rfl
  rw [hzero] at hget
  cases hget
  cases he

/-- Crates in which a short RSA key has no PSS signature with SHA-256. -/
def shortRsaCrates : KeyCrates String String String :=
  { exampleCrates with rsaPss := { exampleCrate with signPrehash := fun _ _ _ => none } }

/-- The RSA key is unlocked. -/
def shortRsaCells (i : Nat) : KeyCell (UnlockedKeyMaterial String String String) :=
  ⟨if i = 1 then some (.rsaPss "PEM2") else none, false, none⟩

/-- A policy for all keys. -/
def wildcardState : AppState := ⟨exampleKeyStore, ⟨[⟨"microtun-release-actions", [.sign], ["*"]⟩]⟩⟩

/-- A valid request for a key that cannot sign is answered without a record. -/
theorem failed_signature_unaudited :
    isJsonContentType exampleHeaders = true ∧
    ¬ AuditedOnce (.ok examplePrincipal) "microtun-firmware-next"
      (createSignature exampleApi shortRsaCrates wildcardState (.ok examplePrincipal) shortRsaCells
        shortRsaCells 0 "01J" "microtun-firmware-next" exampleHeaders exampleBody) := by
  refine ⟨by decide, ?_⟩
  rintro ⟨record, hone, -⟩
  have hnone : (createSignature exampleApi shortRsaCrates wildcardState (.ok examplePrincipal)
      shortRsaCells shortRsaCells 0 "01J" "microtun-firmware-next" exampleHeaders exampleBody).1 =
      [] := by rfl
  rw [hnone] at hone
  cases hone

end MicrotunSigner
