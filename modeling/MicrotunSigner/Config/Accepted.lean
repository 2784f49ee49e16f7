import MicrotunSigner.Config

/-!
# Accepted configurations

What holds of a configuration that `Config.normalizeAndValidate` accepted. Each loop of the check
has one lemma that says what it accepts and what its accumulators are afterwards; `accepted_of_ok`
collects them in `Config.Accepted`, which the proofs about the running server use.

* `Accepted.identity_inj`: an identity is determined by its id, so a policy names one identity.
* `Accepted.sign_identity`: what a sign policy guarantees of the github-actions identity it names.
-/

namespace MicrotunSigner

open Lib Lib.Text

/-! ## Keys -/

/-- The loop over `[[Key]]` collects the ids, all valid and distinct. -/
theorem validateKeys_eq_ok {keyIds ids : List String} {keys : List KeyConfig} :
    validateKeys keyIds keys = .ok ids ↔
      ids = (keys.map (·.id)).reverse ++ keyIds ∧ (keys.map (·.id)).Nodup ∧
      ∀ key ∈ keys, validKeyId key.id = true ∧ key.id ∉ keyIds ∧ key.passphraseCredential = none := by
  induction keys generalizing keyIds with
  | nil =>
    simp only [validateKeys, List.map_nil, List.reverse_nil, List.nil_append, List.nodup_nil,
      List.not_mem_nil, false_implies, implies_true, and_true, Except.ok.injEq]
    exact eq_comm
  | cons key keys ih =>
    simp only [validateKeys, Except.bind_eq_ok, bailIf_eq_ok, exists_const, ih, Bool.not_eq_false', List.contains_eq_mem,
      decide_eq_false_iff_not, Option.isSome_eq_false_iff, Option.isNone_iff_eq_none,
      List.map_cons, List.reverse_cons, List.append_assoc, List.singleton_append, List.nodup_cons,
      List.mem_cons, forall_eq_or_imp, not_or, List.mem_map, not_exists, not_and]
    constructor
    · rintro ⟨hv, hn, hc, he, hd, hall⟩
      exact ⟨he, ⟨fun k hk e => (hall k hk).2.1.1 e, hd⟩, ⟨hv, hn, hc⟩,
        fun k hk => ⟨(hall k hk).1, (hall k hk).2.1.2, (hall k hk).2.2⟩⟩
    · rintro ⟨he, ⟨hne, hd⟩, ⟨hv, hn, hc⟩, hall⟩
      exact ⟨hv, hn, hc, he, hd, fun k hk =>
        ⟨(hall k hk).1, ⟨fun e => hne k hk e, (hall k hk).2.1⟩, (hall k hk).2.2⟩⟩

/-! ## Identities -/

/-- The loop over `[[Identity]]`: distinct ids, each identity passed the check of its kind, and
`identity_kinds` is the kind of the identity with that id. -/
theorem validateIdentities_ok {ids accounts : List String} {kinds kinds' : Map String IdentityKind}
    {identities : List IdentityConfig}
    (h : validateIdentities ids accounts kinds identities = .ok kinds') :
    (identities.map (·.id)).Nodup ∧
    (∀ i ∈ identities, i.id ∉ ids ∧ (∃ a a', validateIdentityKind a i = .ok a') ∧
      kinds'.lookup i.id = some i.kind) ∧
    ∀ k, (∀ i ∈ identities, i.id ≠ k) → kinds'.lookup k = kinds.lookup k := by
  induction identities generalizing ids accounts kinds with
  | nil => cases h; exact ⟨List.nodup_nil, by simp, fun _ _ => rfl⟩
  | cons i is ih =>
    simp only [validateIdentities, Except.bind_eq_ok, bailIf_eq_ok, exists_const] at h
    obtain ⟨-, hnew, accounts', hkind, hrest⟩ := h
    rw [List.contains_eq_mem, decide_eq_false_iff_not] at hnew
    obtain ⟨hd, hmem, hout⟩ := ih hrest
    have hne : ∀ j ∈ is, j.id ≠ i.id := fun j hj e =>
      (hmem j hj).1 (by rw [e]; exact List.mem_cons_self)
    have hi : kinds'.lookup i.id = some i.kind := by
      rw [hout i.id hne, Map.lookup_insert, if_pos rfl]
    refine ⟨?_, fun j hj => ?_, fun k hk => ?_⟩
    · rw [List.map_cons, List.nodup_cons]
      refine ⟨fun hc => ?_, hd⟩
      obtain ⟨j, hj, e⟩ := List.mem_map.mp hc
      exact hne j hj e
    · rcases List.mem_cons.mp hj with rfl | hj
      · exact ⟨hnew, ⟨accounts, accounts', hkind⟩, hi⟩
      · obtain ⟨h1, h2, h3⟩ := hmem j hj
        exact ⟨fun hc => h1 (List.mem_cons_of_mem _ hc), h2, h3⟩
    · have hk' : k ≠ i.id := fun e => hk i List.mem_cons_self e.symm
      rw [hout k fun j hj => hk j (List.mem_cons_of_mem _ hj), Map.lookup_insert, if_neg hk']

/-! ## Policies -/

theorem validatePolicies_ok {keyIds : List String} {kinds : Map String IdentityKind}
    {identities : List IdentityConfig} {policies : List PolicyConfig}
    (h : validatePolicies keyIds kinds identities policies = .ok ()) :
    ∀ policy ∈ policies, validatePolicy keyIds kinds identities policy = .ok () := by
  induction policies with
  | nil => intro p hp; cases hp
  | cons p ps ih =>
    simp only [validatePolicies, Except.bind_eq_ok] at h
    obtain ⟨_, hp, hrest⟩ := h
    intro q hq
    rcases List.mem_cons.mp hq with rfl | hq
    · exact hp
    · exact ih hrest q hq

/-! ## The whole check -/

/-- What the running server relies on in its configuration. -/
structure Config.Accepted (config : Config) : Prop where
  keyIds : (config.keys.map (·.id)).Nodup
  validKeys : ∀ key ∈ config.keys, validKeyId key.id = true
  identityIds : (config.identities.map (·.id)).Nodup
  identityKind : ∀ i ∈ config.identities, ∃ a a', validateIdentityKind a i = .ok a'
  sessionTtl : 0 < config.github.oauthSessionTtlSeconds ∧
    config.github.oauthSessionTtlSeconds ≤ maxOAuthSessionTtlSeconds
  jwksTtl : 0 < config.githubActions.jwksTtlSeconds
  policy : ∃ keyIds kinds, (∀ k, k ∈ keyIds ↔ k ∈ config.keys.map (·.id)) ∧
    (∀ i ∈ config.identities, Map.lookup kinds i.id = some i.kind) ∧
    ∀ p ∈ config.policies, validatePolicy keyIds kinds config.identities p = .ok ()

theorem validateGithub_ok {parse : String → Option Url} {github : GithubConfig}
    (h : validateGithub parse github = .ok ()) : 0 < github.oauthSessionTtlSeconds ∧
      github.oauthSessionTtlSeconds ≤ maxOAuthSessionTtlSeconds := by
  simp only [validateGithub, Except.bind_eq_ok, bailIf_eq_ok, exists_const] at h
  obtain ⟨-, -, -, -, -, -, -, -, httl⟩ := h
  simp only [Bool.or_eq_false_iff, beq_eq_false_iff_ne, decide_eq_false_iff_not] at httl
  omega

theorem validateGithubActions_ok {actions : GithubActionsConfig}
    (h : validateGithubActions actions = .ok ()) : 0 < actions.jwksTtlSeconds := by
  simp only [validateGithubActions, Except.bind_eq_ok, bailIf_eq_ok, exists_const] at h
  obtain ⟨-, -, httl⟩ := h
  exact Nat.pos_of_ne_zero (beq_eq_false_iff_ne.mp httl)

theorem Config.accepted_of_ok {parse : String → Option Url} {config : Config}
    (h : config.normalizeAndValidate parse = .ok ()) : config.Accepted := by
  simp only [Config.normalizeAndValidate, Except.bind_eq_ok, bailIf_eq_ok, exists_const] at h
  obtain ⟨_, -, _, -, -, keyIds, hkeys, _, -, _, hgithub, _, hactions, -, kinds, hids, -, hpol⟩ := h
  obtain ⟨rfl, hd, hvalid⟩ := validateKeys_eq_ok.mp hkeys
  obtain ⟨hid, hmem, -⟩ := validateIdentities_ok hids
  exact {
    keyIds := hd
    validKeys := fun key hk => (hvalid key hk).1
    identityIds := hid
    identityKind := fun i hi => (hmem i hi).2.1
    sessionTtl := validateGithub_ok hgithub
    jwksTtl := validateGithubActions_ok hactions
    policy := ⟨_, kinds, by simp, fun i hi => (hmem i hi).2.2, validatePolicies_ok hpol⟩ }

namespace Config.Accepted

variable {config : Config}

/-- An identity is determined by its id. -/
theorem identity_inj (h : config.Accepted) {i j : IdentityConfig} (hi : i ∈ config.identities)
    (hj : j ∈ config.identities) (e : i.id = j.id) : i = j :=
  List.inj_on_of_nodup_map h.identityIds hi hj e

/-- The lookup of a policy's identity by its id finds it. -/
theorem find_identity (h : config.Accepted) {i : IdentityConfig} (hi : i ∈ config.identities) :
    config.identities.find? (fun j => j.id == i.id) = some i := by
  cases hf : config.identities.find? fun j => j.id == i.id with
  | none =>
    have := List.find?_eq_none.mp hf i hi
    simp at this
  | some j =>
    have he : j.id = i.id := by simpa using List.find?_some hf
    rw [h.identity_inj (List.mem_of_find?_eq_some hf) hi he]

/-- A github-actions identity with a sign policy is constrained: it has a workflow and a protected
environment, and no ref type but `tag`. -/
theorem sign_identity (h : config.Accepted) {p : PolicyConfig} {i : IdentityConfig}
    (hp : p ∈ config.policies) (hi : i ∈ config.identities) (he : p.identity = i.id)
    (hk : i.kind = .githubActions) (hs : PolicyAction.sign ∈ p.actions) :
    (∃ w, i.workflowPath = some w) ∧ (∃ e, i.requiredEnvironment = some e) ∧
      ∀ types, i.allowedRefTypes = some types → ∀ t ∈ types, t = "tag" := by
  obtain ⟨keyIds, kinds, -, hkinds, hall⟩ := h.policy
  have hv := hall p hp
  simp only [validatePolicy, Except.bind_eq_ok, bailIf_eq_ok, exists_const, okOr_eq_ok] at hv
  obtain ⟨kind, hlook, -, -, _, -, _, -, hsign⟩ := hv
  rw [he, hkinds i hi, hk] at hlook
  cases hlook
  rw [if_pos (by simp [hs]), he, h.find_identity hi] at hsign
  simp only [validateSignIdentity, Except.bind_eq_ok, bailIf_eq_ok, exists_const] at hsign
  obtain ⟨hw, henv, htypes⟩ := hsign
  refine ⟨Option.isSome_iff_exists.mp (by simpa using hw),
    Option.isSome_iff_exists.mp (by simpa using henv), fun types ht t htm => ?_⟩
  rw [ht, Option.any_some, List.any_eq_false] at htypes
  simpa using htypes t htm

/-- A github-actions identity passed the check of its kind. -/
theorem actions_identity (h : config.Accepted) {i : IdentityConfig} (hi : i ∈ config.identities)
    (hk : i.kind = .githubActions) : validateActionsKind i = .ok () := by
  obtain ⟨a, a', hv⟩ := h.identityKind i hi
  simp only [validateIdentityKind, hk, Except.bind_eq_ok] at hv
  obtain ⟨_, hv, -⟩ := hv
  exact hv

/-- A configured list of workflow commits is not empty. -/
theorem workflow_shas (h : config.Accepted) {i : IdentityConfig} (hi : i ∈ config.identities)
    (hk : i.kind = .githubActions) {shas : List String} (hs : i.allowedWorkflowShas = some shas) :
    shas ≠ [] := by
  have hv := h.actions_identity hi hk
  simp only [validateActionsKind, Except.bind_eq_ok, bailIf_eq_ok, exists_const, okOr_eq_ok] at hv
  obtain ⟨_, -, _, -, -, -, hident⟩ := hv
  have hset : hasClaimConstraints i = true := by simp [hasClaimConstraints, hs]
  simp only [validateActionsIdentity, hset, Bool.not_true, Bool.false_eq_true, if_false,
    Except.bind_eq_ok, bailIf_eq_ok, exists_const, okOr_eq_ok] at hident
  obtain ⟨_, -, -, _, -, -, -, -, -, hne, -⟩ := hident
  rw [hs, Option.any_some] at hne
  simpa using hne

end Config.Accepted

/-! ## The shipped example -/

/-- The two identities of `config.example.toml`. -/
def exampleMaintainer : IdentityConfig where
  id := "firmware-maintainer"
  kind := .githubAccount
  githubUserId := some "24681012"
  githubLogin := some "maintainer-login"
  repositoryId := none
  repository := none
  workflowPath := none
  allowedEventNames := none
  allowedRefTypes := none
  requiredEnvironment := none
  requiredRunnerEnvironment := none
  allowedWorkflowShas := none

def exampleRelease : IdentityConfig where
  id := "microtun-release-actions"
  kind := .githubActions
  githubUserId := none
  githubLogin := none
  repositoryId := some "123456789"
  repository := some "owner/microtun"
  workflowPath := some ".github/workflows/release.yml"
  allowedEventNames := some ["push"]
  allowedRefTypes := some ["tag"]
  requiredEnvironment := some "firmware-signing"
  requiredRunnerEnvironment := none
  allowedWorkflowShas := none

/-- `config.example.toml`. -/
def exampleConfig : Config where
  microtun := ⟨"microtun.dev/v1alpha1", "SignerConfig"⟩
  server := {
    listen := ⟨.v4 127 0 0 1, "127.0.0.1:8080"⟩
    adminSocketPath := "/run/microtun-signer/admin.sock"
    adminSocketMode := 0o660
    adminSocketGroup := some "microtun-signer-operators"
    allowNonLoopbackListen := false }
  keys := [{
    id := "microtun-firmware-prod"
    algorithm := .p256
    pemPath := "/etc/microtun-signer/firmware-signing-key.encrypted.pem"
    state := .active
    passphraseCredential := none }]
  keyrings := [⟨"firmware-prod", ["microtun-firmware-prod"]⟩]
  github := {
    apiUrl := "https://api.github.com"
    apiVersion := "2026-03-10"
    oauthAccessTokenUrl := "https://github.com/login/oauth/access_token"
    oauthDeviceCodeUrl := "https://github.com/login/device/code"
    oauthClientId := "Ov23liEXAMPLE"
    oauthClientSecretCredential := "github-oauth-client-secret"
    oauthSessionTtlSeconds := 900 }
  githubActions := {
    audience := "microtun-signer"
    jwksUrl := "https://token.actions.githubusercontent.com/.well-known/jwks"
    jwksTtlSeconds := 3600 }
  identities := [exampleMaintainer, exampleRelease]
  policies := [⟨"firmware-maintainer", [.sign], ["microtun-firmware-prod"]⟩,
    ⟨"microtun-release-actions", [.sign], ["microtun-firmware-prod"]⟩]

/-- The parse of the two URLs in it. -/
def exampleUrl (_ : String) : Option Url := some ⟨"https", some "github.com"⟩

theorem exampleConfig_accepted : exampleConfig.normalizeAndValidate exampleUrl = .ok () := by decide

end MicrotunSigner
