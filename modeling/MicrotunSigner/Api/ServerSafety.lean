import MicrotunSigner.Api.ServerSteps
import MicrotunSigner.Api.AdminOrigin
import MicrotunSigner.Auth.DeviceOrigin
import MicrotunSigner.Auth.JwksOrigin

/-!
# What a signature stands for (`api.rs`, `auth.rs`, `key.rs`)

`SignOk` says of the handler of a signing request, at each of its places, what has been checked so
far. It holds in every run of the server (`run_signOk`), whatever the other handlers, the admin API,
GitHub and the clocks do meanwhile: no step takes back what it says (`SignOk.mono`).

* `Authentic`: how the principal of a request was established.
* `signatures_accounted`: under an accepted configuration, every signature that the server answers
  with goes back to a principal that may ask for it, and to an unlock of its key.
-/

namespace MicrotunSigner

open Lib Lib.Text

variable {Key P S R : Type}

section Places

variable (server : Server Key P S R) (now₀ : Int) (as : List ServerAct) (c : Nat)

/-- A signing request with its bearer token. -/
structure SignRequest (request : PublicRequest) (keyId token : String) : Prop where
  route : request.route = .sign keyId
  json : isJsonContentType request.headers = true
  bearer : bearerToken request.headers = .ok token

/-- The clock showed `now` when the handler `c` had the request. -/
def ReadBy (request : PublicRequest) (now : Int) : Prop :=
  ∃ pre post v, as = pre ++ post ∧ server.sys.run (.new now₀) pre = some v ∧
    v.handlers c = .entered request ∧ v.device.shared.now = now

/-- The key in the header of the token was fetched. -/
structure JwkOf (token : String) (jwk : RsaJwk) : Prop where
  fetched : ∃ header kid, server.auth.jwt.decodeHeader token = some header ∧
    header.kid = some kid ∧ Fetched server.auth.actions server.jwksFromSlice now₀
      (server.jwksActions now₀ as) kid jwk

/-- The claims are those of a token that verifies with a key of GitHub Actions. -/
structure ClaimsOf (token : String) (claims : GithubActionsClaims) : Prop where
  verified : ∃ jwk key wall, JwkOf server now₀ as token jwk ∧
    server.auth.jwt.fromRsaComponents jwk.n jwk.e = some key ∧
    server.auth.jwt.decode (unixSeconds wall) token key (actionsValidation server.auth.actions) =
      some claims
  rs256 : ∃ header, server.auth.jwt.decodeHeader token = some header ∧ header.alg = .rs256

/-- How the principal of a request was established: by a session that was minted in the run and had
not expired, or by the claims of a verified token. -/
inductive Authentic (request : PublicRequest) : AuthPrincipal → Prop where
  | session (token session now) : bearerToken request.headers = .ok token →
      MintedIn server.auth now₀ (server.deviceActions now₀ as) (server.auth.key token) session →
      ReadBy server now₀ as c request now → now < session.expiresAt →
      Authentic request (sessionPrincipal server.auth.github session)
  | actions (token claims jti identity) : bearerToken request.headers = .ok token →
      ClaimsOf server now₀ as token claims → claims.jti = some jti →
      resolveGithubActionsIdentity server.auth.identities claims = .ok identity →
      Authentic request (actionsPrincipal identity claims jti)

/-- What holds of a request whose digest is to be signed. -/
structure Validated (request : PublicRequest) (keyId : String) (principal : AuthPrincipal)
    (digest : Vector UInt8 32) : Prop where
  route : request.route = .sign keyId
  authentic : Authentic server now₀ as c request principal
  allowed : server.state.authz.authorize principal .sign keyId = .ok ()
  active : ∃ i key, server.state.keys.getAt keyId = some (i, key) ∧ key.state = .active
  digest : ∃ body, server.api.fromSlice request.body = some body ∧
    server.api.decode body.digest.toByteArray.data.toList = some digest.toList
  context : ∀ actions, principal.source = .githubActions actions → ReleaseRef actions

/-- The signature is one of the digest by the key, and it is in the audit records. -/
structure SignedWith (s : ServerSt P S R) (request : PublicRequest) (keyId : String)
    (principal : AuthPrincipal) (digest : Vector UInt8 32) (records : List AuditRecord)
    (response : SignatureResponse) : Prop where
  signature : ∃ i key material rng signature, server.state.keys.getAt keyId = some (i, key) ∧
    (s.admin.keys.cells i).unlocked = some material ∧
    material.sign server.crates rng digest = .ok signature ∧
    response.signature = server.api.encode signature
  records : records = [auditRecord request.requestId "sign" true "ok" (some principal)
    { keyId := some keyId, firmwareDigest := some (hexEncode digest.toList) }]

/-- What has been checked at each place. -/
def SignOk (s : ServerSt P S R) : PublicPc → Prop
  | .looking request keyId token now => SignRequest request keyId token ∧
      ReadBy server now₀ as c request now
  | .awaitingJwk request keyId token j => SignRequest request keyId token ∧ ∃ header kid,
      server.auth.jwt.decodeHeader token = some header ∧ header.kid = some kid ∧
      (s.jwks.calls j).kid? = some kid
  | .verifying request keyId token jwk => SignRequest request keyId token ∧
      JwkOf server now₀ as token jwk
  | .recording request keyId token jwk _ => SignRequest request keyId token ∧
      JwkOf server now₀ as token jwk
  | .authenticated request keyId principal => request.route = .sign keyId ∧
      Authentic server now₀ as c request principal
  | .validated request keyId principal digest =>
      Validated server now₀ as c request keyId principal digest
  | .answered request records (.ok (.signature response)) => ∃ keyId principal digest,
      Validated server now₀ as c request keyId principal digest ∧
      SignedWith server s request keyId principal digest records response
  | _ => True

end Places

section Mono

variable {server : Server Key P S R} {s t u : ServerSt P S R} {a : ServerAct} {as : List ServerAct}
  {now₀ : Int} {c : Nat} {pc pc' : PublicPc} {request : PublicRequest} {principal : AuthPrincipal}

/-! ## What has been checked stays checked -/

theorem ReadBy.snoc {now : Int} (h : ReadBy server now₀ as c request now) (a : ServerAct) :
    ReadBy server now₀ (as ++ [a]) c request now := by
  obtain ⟨pre, post, v, rfl, hv, hc, hnow⟩ := h
  exact ⟨pre, post ++ [a], v, List.append_assoc .., hv, hc, hnow⟩

theorem deviceActions_snoc (ht : server.sys.run (.new now₀) as = some t)
    (hu : server.sys.step t a = some u) :
    server.deviceActions now₀ (as ++ [a]) = server.deviceActions now₀ as ++ server.deviceMoves t a u :=
  Sys.Refines.actions_snoc (R := server.deviceView) ht hu

theorem jwksActions_snoc (ht : server.sys.run (.new now₀) as = some t)
    (hu : server.sys.step t a = some u) :
    server.jwksActions now₀ (as ++ [a]) = server.jwksActions now₀ as ++ server.jwksMoves t a u :=
  Sys.Refines.actions_snoc (R := server.jwksView) ht hu

/-- The locks of the keys only gain material. -/
theorem server_keeps (hu : server.sys.step t a = some u) :
    Keeps t.admin.keys.cells u.admin.keys.cells := by
  cases serverStep hu with
  | handle c input s' pc hs =>
    rw [hs.admin]
    exact keeps_refl
  | admin a admin ha hs =>
    cases adminStep hs with
    | start c op keys _ hk => exact step_keeps hk
    | work c op keys _ hk => exact step_keeps hk
    | publicCall c op keys _ _ hk => exact step_keeps hk
    | publicStep c keys _ hk => exact step_keeps hk
    | poison i keys hk => exact step_keeps hk
    | _ => exact keeps_refl
  | _ => exact keeps_refl

/-- The calls of `jwk_for` keep their names. -/
theorem server_kid (hu : server.sys.step t a = some u) {j : Nat} {kid : String}
    (hk : (t.jwks.calls j).kid? = some kid) :
    (u.jwks.calls j).kid? = some kid := by
  cases serverStep hu with
  | handle c input s' pc hs =>
    generalize t.handlers c = pc₀ at hs
    cases hs with
    | askJwk request keyId token header kid' i jwks _ _ _ _ _ hj => exact kid_kept hj hk
    | leaveJwk request keyId token i jwks hj => exact kid_kept hj hk
    | _ => exact hk
  | jwks i input jwks device _ hj _ => exact kid_kept hj hk
  | tick d device jwks _ hj => exact kid_kept hj hk
  | _ => exact hk

section Step

variable (ht : server.sys.run (.new now₀) as = some t) (hu : server.sys.step t a = some u)
include ht hu

theorem JwkOf.step {token : String} {jwk : RsaJwk} (h : JwkOf server now₀ as token jwk) :
    JwkOf server now₀ (as ++ [a]) token jwk := by
  obtain ⟨header, kid, hheader, hkid, hfetched⟩ := h
  refine ⟨header, kid, hheader, hkid, ?_⟩
  rw [jwksActions_snoc ht hu]
  exact hfetched.append _

theorem ClaimsOf.step {token : String} {claims : GithubActionsClaims}
    (h : ClaimsOf server now₀ as token claims) : ClaimsOf server now₀ (as ++ [a]) token claims := by
  obtain ⟨⟨jwk, key, wall, hjwk, hverified⟩, hrs⟩ := h
  exact ⟨⟨jwk, key, wall, hjwk.step ht hu, hverified⟩, hrs⟩

theorem Authentic.step (h : Authentic server now₀ as c request principal) :
    Authentic server now₀ (as ++ [a]) c request principal := by
  cases h with
  | session token session now hb hm hr hlive =>
    refine .session token session now hb ?_ (hr.snoc a) hlive
    rw [deviceActions_snoc ht hu]
    exact hm.append _
  | actions token claims jti identity hb hc hj hr =>
    exact .actions token claims jti identity hb (hc.step ht hu) hj hr

theorem Validated.step {keyId : String} {digest : Vector UInt8 32}
    (h : Validated server now₀ as c request keyId principal digest) :
    Validated server now₀ (as ++ [a]) c request keyId principal digest :=
  { h with authentic := h.authentic.step ht hu }

/-- **A step takes nothing back** of what has been checked for a handler. -/
theorem SignOk.mono (h : SignOk server now₀ as c t pc) : SignOk server now₀ (as ++ [a]) c u pc := by
  unfold SignOk at h ⊢
  split at h
  · exact ⟨h.1, h.2.snoc a⟩
  · obtain ⟨hs, header, kid, hheader, hkid, hcall⟩ := h
    exact ⟨hs, header, kid, hheader, hkid, server_kid hu hcall⟩
  · exact ⟨h.1, h.2.step ht hu⟩
  · exact ⟨h.1, h.2.step ht hu⟩
  · exact ⟨h.1, h.2.step ht hu⟩
  · exact h.step ht hu
  · obtain ⟨keyId, principal, digest, hv, hsigned⟩ := h
    refine ⟨keyId, principal, digest, hv.step ht hu, ?_, hsigned.records⟩
    obtain ⟨i, key, material, rng, signature, hget, hm, hsign⟩ := hsigned.signature
    exact ⟨i, key, material, rng, signature, hget, server_keeps hu i material hm, hsign⟩
  · trivial

end Step

/-! ## The steps of a handler -/

/-- A verified token, whatever its key is. -/
theorem verifyToken_key {jwt : JsonWebToken Key} {actions : GithubActionsConfig} {jwk : RsaJwk}
    {unixNow : Nat} {token : String} {claims : GithubActionsClaims}
    (h : verifyToken jwt actions (fun _ => .ok jwk) unixNow token = .ok claims) :
    (∃ header, jwt.decodeHeader token = some header ∧ header.alg = .rs256) ∧
      ∃ key, jwt.fromRsaComponents jwk.n jwk.e = some key ∧
        jwt.decode unixNow token key (actionsValidation actions) = some claims := by
  simp only [verifyToken, Except.bind_eq_ok, okOr_eq_ok, bailIf_eq_ok, exists_const,
    bne_eq_false_iff_eq] at h
  obtain ⟨header, hheader, halg, kid, -, jwk', hjwk, key, hkey, hd⟩ := h
  cases hjwk
  exact ⟨⟨header, hheader, halg⟩, key, hkey, hd⟩

/-- An accepted token: its `jti` and the identity. -/
theorem admitClaims_jti {identities : List IdentityConfig} {claims : GithubActionsClaims} {now : Int}
    {unixNow : Nat} {seenJtis seenJtis' : SeenJtis}
    (h : admitClaims identities claims now unixNow seenJtis = (.ok principal, seenJtis')) :
    ∃ jti identity, claims.jti = some jti ∧
      resolveGithubActionsIdentity identities claims = .ok identity ∧
      principal = actionsPrincipal identity claims jti := by
  rcases admitClaims_cases identities claims with ⟨e, he⟩ | ⟨jti, identity, hjti, hres, hrec⟩
  · rw [he] at h
    cases h
  · rw [hrec, Prod.mk.injEq] at h
    refine ⟨jti, identity, hjti, hres, ?_⟩
    have hok := h.1
    cases hr : (recordJti jti claims.exp now unixNow seenJtis).1 with
    | ok u =>
      rw [hr] at hok
      cases hok
      rfl
    | err e => rw [hr] at hok; cases hok
    | panic => rw [hr] at hok; cases hok

/-- What an answer with a signature comes from. -/
theorem signValidated_signature {keyId : String} {digest : Vector UInt8 32} {rng : Nat}
    {records : List AuditRecord} {outcome : Outcome ApiError SignatureResponse}
    {response : SignatureResponse}
    (h : signValidated server.api server.crates server.state s.admin.keys.cells rng
      request.requestId principal keyId digest = (records, outcome))
    (hok : outcome = .ok response) :
    SignedWith server s request keyId principal digest records response := by
  subst hok
  unfold signValidated at h
  split at h
  · cases h
  rename_i i key hget
  split at h
  · cases h
  · cases h
  rename_i signature hsig
  cases h
  obtain ⟨material, hm, hsign⟩ := (signDigest_cases (s.admin.keys.cells i)).1 signature hsig
  exact ⟨⟨i, key, material, rng, signature, hget, hm, hsign, rfl⟩, rfl⟩

theorem SignOk.handle {input : PublicIn} {s' : ServerSt P S R}
    (ht : server.sys.run (.new now₀) as = some t)
    (hu : server.sys.step t (.handle c input) =
      some { s' with handlers := Function.update t.handlers c pc' })
    (hs : PublicStep server t (t.handlers c) input s' pc')
    (h : SignOk server now₀ as c t (t.handlers c)) :
    SignOk server now₀ (as ++ [.handle c input]) c
      { s' with handlers := Function.update t.handlers c pc' } pc' := by
  generalize hpc : t.handlers c = pc at hs h
  cases hs with
  | look request keyId token _ hroute hjson hb _ =>
    exact ⟨⟨hroute, hjson, hb⟩, as, [.handle c input], t, rfl, ht, hpc, rfl⟩
  | askJwk request keyId token header kid j jwks hroute hjson hb hheader hkid hj =>
    refine ⟨⟨hroute, hjson, hb⟩, header, kid, hheader, hkid, ?_⟩
    rcases jwks_cases hj with ⟨_, _, he, -, rfl⟩ | ⟨_, _, _, _, he, -, -⟩ | ⟨_, he, -⟩
    · cases he
      dsimp only
      rw [Function.update_self]
      rfl
    · cases he
    · cases he
  | session request keyId token now principal hauth =>
    obtain ⟨hreq, hread⟩ := h
    obtain ⟨-, session, hlive, rfl⟩ := authenticateGithubAccountSession_eq_ok.mp hauth
    obtain ⟨hlookup, hnow⟩ := Map.live_eq_some.mp hlive
    refine ⟨hreq.route, Authentic.step ht hu (.session token session now hreq.bearer ?_ hread hnow)⟩
    exact run_minted (run_device ht) hlookup
  | jwk request keyId token j kid jwk hdone =>
    obtain ⟨hreq, header, kid', hheader, hkid, hcall⟩ := h
    rw [hdone] at hcall
    cases hcall
    refine ⟨hreq, JwkOf.step ht hu ⟨header, kid, hheader, hkid, ?_⟩⟩
    exact run_fetched (c := j) (run_jwks ht) (by rw [hdone]; rfl)
  | readings request keyId token jwk decodeWall unixWall => exact ⟨h.1, h.2.step ht hu⟩
  | record request keyId token jwk at_ principal seenJtis hauth =>
    obtain ⟨hreq, hjwk⟩ := h
    unfold authenticateGithubActions at hauth
    split at hauth
    · cases hauth
    · rename_i claims hverify
      obtain ⟨hheader, key, hkey, hd⟩ := verifyToken_key hverify
      obtain ⟨jti, identity, hjti, hres, rfl⟩ := admitClaims_jti hauth
      exact ⟨hreq.route, Authentic.step ht hu (.actions token claims jti identity hreq.bearer
        ⟨⟨jwk, key, _, hjwk, hkey, hd⟩, hheader⟩ hjti hres)⟩
  | validate request keyId principal body digest hbody hvalid =>
    obtain ⟨hroute, hauthentic⟩ := h
    obtain ⟨i, key, hget, hactive, -⟩ := hvalid.opened
    exact {
      route := hroute
      authentic := hauthentic.step ht hu
      allowed := hvalid.allowed
      active := ⟨i, key, hget, hactive⟩
      digest := ⟨body, hbody, hvalid.decoded⟩
      context := hvalid.context }
  | sign request keyId principal digest rng records outcome hsign =>
    cases outcome with
    | err | panic => trivial
    | ok response =>
      exact ⟨keyId, principal, digest, Validated.step ht hu h,
        signValidated_signature (s := { t with handlers := _ }) hsign rfl⟩
  | exchanged request d token result hdone => cases result <;> trivial
  | leaveJwk => exact h.mono ht hu
  | _ => trivial

/-- **What has been checked, in every run.** -/
theorem run_signOk (hrun : server.sys.run (.new now₀) as = some t) (c : Nat) :
    SignOk server now₀ as c t (t.handlers c) := by
  have h0 : ∀ c, SignOk server now₀ [] c (.new now₀) .out := fun _ => trivial
  refine Sys.run_induction (P := fun as t => ∀ c, SignOk server now₀ as c t (t.handlers c))
    h0 ?_ as t hrun c
  intro as t a u ht ih hu c
  have hother (hsame : u.handlers c = t.handlers c) :
      SignOk server now₀ (as ++ [a]) c u (u.handlers c) := by
    rw [hsame]
    exact (ih c).mono ht hu
  cases serverStep hu with
  | arrive d request hout =>
    rcases update_cases t.handlers d (.entered request) c with ⟨-, he⟩ | ⟨-, he⟩
    · dsimp only
      rw [he]
      trivial
    · exact hother he
  | handle d input s' pc hs =>
    rcases update_cases t.handlers d pc c with ⟨rfl, he⟩ | ⟨-, he⟩
    · dsimp only
      rw [he]
      exact SignOk.handle ht hu hs (ih c)
    · exact hother he
  | _ => exact hother rfl

/-! ## Which requests are answered -/

/-- The request of a handler. -/
def PublicPc.request? : PublicPc → Option PublicRequest
  | .out | .gone => none
  | .entered request | .admitting request _ | .acquiring request | .admitted request
  | .exchanging request _ | .looking request _ _ _ | .awaitingJwk request _ _ _
  | .verifying request _ _ _ | .recording request _ _ _ _ | .authenticated request _ _
  | .validated request _ _ _ | .answered request _ _ => some request

/-- A handler keeps its request. -/
theorem PublicStep.request_kept {input : PublicIn} {s' : ServerSt P S R}
    (h : PublicStep server s pc input s' pc') : pc'.request? = pc.request? ∨ pc' = .gone := by
  cases h with
  | exchanged request d token result => cases result <;> exact .inl rfl
  | leaveLimiter | exchangeGone | leaveSessions | jwkGone => exact .inr rfl
  | _ => exact .inl rfl

/-- A handler works on a request that has arrived. -/
theorem run_arrived (hrun : server.sys.run (.new now₀) as = some t)
    (hc : (t.handlers c).request? = some request) : .arrive c request ∈ as := by
  revert hc
  refine Sys.run_induction (P := fun as t => (t.handlers c).request? = some request →
    .arrive c request ∈ as) ?_ ?_ as t hrun
  · intro hc
    cases hc
  · intro as t a u ht ih hu hc
    have hother (hsame : u.handlers c = t.handlers c) : .arrive c request ∈ as ++ [a] := by
      rw [hsame] at hc
      exact List.mem_append_left _ (ih hc)
    cases serverStep hu with
    | arrive d request' hout =>
      dsimp only at hc
      rcases update_cases t.handlers d (.entered request') c with ⟨rfl, he⟩ | ⟨-, he⟩
      · rw [he] at hc
        cases hc
        exact List.mem_append_right _ List.mem_cons_self
      · exact hother he
    | handle d input s' pc hs =>
      dsimp only at hc
      rcases update_cases t.handlers d pc c with ⟨rfl, he⟩ | ⟨-, he⟩
      · rw [he] at hc
        rcases hs.request_kept with hreq | rfl
        · exact List.mem_append_left _ (ih (hreq ▸ hc))
        · cases hc
      · exact hother he
    | _ => exact hother rfl

theorem mem_of_adminActions {b : AdminAct} (hrun : server.sys.run (.new now₀) as = some t)
    (hb : b ∈ server.adminActions now₀ as) : .admin b ∈ as := by
  obtain ⟨pre, a, post, v, u, rfl, -, -, hp⟩ := Sys.did_of_mem_trace hrun hb
  have ha : a = .admin b := by
    change b ∈ ServerSt.adminMoves a at hp
    unfold ServerSt.adminMoves at hp
    split at hp
    · rw [List.mem_singleton.mp hp]
    · cases hp
  exact ha ▸ List.mem_append_right _ List.mem_cons_self

end Mono

/-! ## The signatures of a configured server -/

/-- What `run_server` has built the server from. -/
structure BuiltFrom (readProtectedFile : String → Except String String)
    (enforceKeyEncryptionPolicy : String → Except String Unit) (config : Config)
    (server : Server Key P S R) : Prop where
  github : server.auth.github = config.github
  actions : server.auth.actions = config.githubActions
  identities : server.auth.identities = config.identities
  policies : server.state.authz.policies = config.policies
  keys : KeyStore.load readProtectedFile enforceKeyEncryptionPolicy config.keys config.keyrings =
    .ok server.state.keys

section Configured

variable {readProtectedFile : String → Except String String}
  {enforceKeyEncryptionPolicy : String → Except String Unit} {config : Config}
  {server : Server Key P S R} {now₀ : Int} {as : List ServerAct} {t : ServerSt P S R} {c : Nat}
  {request : PublicRequest} {principal : AuthPrincipal} {keyId : String}

variable (server now₀ as c) in
/-- The request has a session of the account, which a complete exchange of the run has minted for
this identity less than its lifetime before. -/
structure AccountSigner (request : PublicRequest) (principal : AuthPrincipal)
    (identity : IdentityConfig) : Prop where
  kind : identity.kind = .githubAccount
  session : ∃ token session d pre post githubToken user mintedAt now,
    bearerToken request.headers = .ok token ∧
    server.deviceActions now₀ as = pre ++ .call d .go :: post ∧
    MintedBy server.auth (server.auth.key token) session githubToken user mintedAt
      (server.auth.deviceHistory d (.new now₀) pre) ∧
    session.identityId = identity.id ∧
    matchesGithubAccountIdentity identity (toString user.id.toNat) user.login = true ∧
    ReadBy server now₀ as c request now ∧
    now < mintedAt + Duration.fromSecs server.auth.github.oauthSessionTtlSeconds ∧
    principal = sessionPrincipal server.auth.github session

variable (server now₀ as) in
/-- The request has a token with the claims of a release run that the identity describes, and no
other identity matches. -/
structure ActionsSigner (request : PublicRequest) (principal : AuthPrincipal)
    (identity : IdentityConfig) : Prop where
  kind : identity.kind = .githubActions
  claims : ∃ token claims jti, bearerToken request.headers = .ok token ∧
    ClaimsOf server now₀ as token claims ∧ claims.jti = some jti ∧
    (server.auth.identities.filter fun i => matchesGithubActionsIdentity i claims) = [identity] ∧
    ReleaseClaims identity claims ∧ principal = actionsPrincipal identity claims jti

/-- Under an accepted configuration, a principal that may sign from GitHub Actions has the claims of
a release run. -/
theorem releaseClaims_of_policy (hacc : config.Accepted) {claims : GithubActionsClaims} {jti : String}
    {identity : IdentityConfig} {policy : PolicyConfig}
    (hresolve : resolveGithubActionsIdentity config.identities claims = .ok identity)
    (hpolicy : policy ∈ config.policies) (hid : policy.identity = identity.id)
    (hsign : .sign ∈ policy.actions)
    (hctx : ∀ actions, (actionsPrincipal identity claims jti).source = .githubActions actions →
      ReleaseRef actions) : ReleaseClaims identity claims := by
  obtain ⟨hmem, hmatch⟩ := resolve_matches hresolve
  obtain ⟨⟨w, hw⟩, ⟨e, henv⟩, -⟩ := hacc.sign_identity hpolicy hmem hid hmatch.kind hsign
  have hwf := hmatch.workflow w hw
  have href := hctx _ rfl
  exact {
    repositoryId := hmatch.repositoryId
    repository := hmatch.repository
    workflowRef := ⟨w, hw, hwf.workflowRef⟩
    eventName := hwf.event
    refType := href.refType
    gitRef := href.gitRef
    refProtected := claimIsTrue_iff.mp href.refProtected
    environment := ⟨e, henv, hwf.environment e henv⟩
    runnerEnvironment := hwf.runner
    workflowSha := fun shas hs =>
      hwf.workflowSha shas hs (hacc.workflow_shas hmem hmatch.kind hs) }

variable (server now₀ as c) in
/-- Who has asked for a signature, that it may, and what was signed with which key. -/
structure Accounted (config : Config) (readProtectedFile : String → Except String String)
    (enforceKeyEncryptionPolicy : String → Except String Unit) (request : PublicRequest)
    (records : List AuditRecord) (response : SignatureResponse) (keyId : String)
    (principal : AuthPrincipal) (identity : IdentityConfig) (key : KeyMaterial)
    (digest : Vector UInt8 32) : Prop where
  arrived : .arrive c request ∈ as
  route : request.route = .sign keyId
  signer : AccountSigner server now₀ as c request principal identity ∨
    ActionsSigner server now₀ as request principal identity
  configured : identity ∈ config.identities ∧ principal.identityId = identity.id
  allowed : ∃ policy ∈ config.policies, policy.identity = identity.id ∧ .sign ∈ policy.actions ∧
    ("*" ∈ policy.keys ∨ keyId ∈ policy.keys)
  /-- The key is active, and its PEM is the text of its file, which is encrypted strongly enough. -/
  stored : ∃ entry ∈ config.keys, entry.id = keyId ∧ entry.state = .active ∧ key.id = keyId ∧
    readProtectedFile entry.pemPath = .ok key.encryptedPem ∧
    enforceKeyEncryptionPolicy key.encryptedPem = .ok ()
  asked : ∃ body, server.api.fromSlice request.body = some body ∧
    server.api.decode body.digest.toByteArray.data.toList = some digest.toList
  /-- An operator has unlocked the key with its passphrase, and it has signed the digest. -/
  signed : ∃ d adminRequest passphrase material rng signature,
    .admin (.arrive d adminRequest) ∈ as ∧ adminRequest.names config.keyrings key ∧
    server.unlockFromSlice adminRequest.body = some ⟨passphrase⟩ ∧
    key.decrypt server.crates passphrase = .ok material ∧
    material.sign server.crates rng digest = .ok signature ∧
    response.signature = server.api.encode signature
  audited : records = [auditRecord request.requestId "sign" true "ok" (some principal)
    { keyId := some keyId, firmwareDigest := some (hexEncode digest.toList) }]

/-- The signer of a validated request. -/
theorem signer_of_validated (hbuilt : BuiltFrom readProtectedFile enforceKeyEncryptionPolicy config
      server) (hacc : config.Accepted) {digest : Vector UInt8 32}
    (h : Validated server now₀ as c request keyId principal digest) :
    ∃ identity, identity ∈ config.identities ∧ principal.identityId = identity.id ∧
      (∃ policy ∈ config.policies, policy.identity = identity.id ∧ .sign ∈ policy.actions ∧
        ("*" ∈ policy.keys ∨ keyId ∈ policy.keys)) ∧
      (AccountSigner server now₀ as c request principal identity ∨
        ActionsSigner server now₀ as request principal identity) := by
  obtain ⟨policy, hpolicy, hid, hsign, hkeys⟩ := Authorizer.authorize_eq_ok.mp h.allowed
  rw [hbuilt.policies] at hpolicy
  have hctx := h.context
  obtain ⟨-, hauthentic, -⟩ := h
  cases hauthentic with
  | session token session now hb hm hread hlive =>
    obtain ⟨d, pre, post, githubToken, user, mintedAt, hpre, hminted⟩ := hm
    have ⟨⟨_, hcomplete⟩, hsession, _⟩ := hminted
    obtain ⟨-, ⟨identity, hmem, hidentity, hmatch⟩, -⟩ := hcomplete
    have hkind : identity.kind = .githubAccount := by
      simp only [matchesGithubAccountIdentity, Bool.and_eq_true, beq_iff_eq] at hmatch
      exact hmatch.1.1
    refine ⟨identity, hbuilt.identities ▸ hmem, hidentity.symm, ⟨policy, hpolicy, ?_, hsign, hkeys⟩,
      .inl ⟨hkind, token, session, d, pre, post, githubToken, user, mintedAt, now, hb, hpre,
        hminted, hidentity.symm, hmatch, hread, ?_, rfl⟩⟩
    · rw [hid, hidentity]
      rfl
    · rw [hsession] at hlive
      exact hlive
  | actions token claims jti identity hb hclaims hjti hresolve =>
    have hresolve' := hresolve
    rw [hbuilt.identities] at hresolve'
    obtain ⟨hmem, hmatch⟩ := resolve_matches hresolve'
    refine ⟨identity, hmem, rfl, ⟨policy, hpolicy, hid, hsign, hkeys⟩,
      .inr ⟨hmatch.kind, token, claims, jti, hb, hclaims, hjti,
        resolveGithubActionsIdentity_eq_ok.mp hresolve, ?_, rfl⟩⟩
    exact releaseClaims_of_policy hacc hresolve' hpolicy hid hsign hctx

/-- **Every signature is accounted for.** The server runs under an accepted configuration, and any
requests to its two APIs, replies of GitHub, fetched keys and readings of the clocks interleave. A
request that is answered with a signature has arrived, and its principal is that of one configured
identity: a GitHub account with a session from a complete exchange that has not expired, or a
release run with a token that verifies. A policy lets this identity sign with the key. The key is
active, an operator has unlocked it, and it has signed the digest of the request, of which there is
one audit record. -/
theorem signatures_accounted {parse : String → Option Url}
    (hconfig : config.normalizeAndValidate parse = .ok ())
    (hbuilt : BuiltFrom readProtectedFile enforceKeyEncryptionPolicy config server)
    (hrun : server.sys.run (.new now₀) as = some t) {records : List AuditRecord}
    {response : SignatureResponse}
    (hanswered : t.handlers c = .answered request records (.ok (.signature response))) :
    ∃ keyId principal identity key digest, Accounted server now₀ as c config readProtectedFile
      enforceKeyEncryptionPolicy request records response keyId principal identity key digest := by
  have hok := run_signOk hrun c
  have harrived : .arrive c request ∈ as := run_arrived hrun (by rw [hanswered]; rfl)
  rw [hanswered] at hok
  obtain ⟨keyId, principal, digest, hvalid, hsigned⟩ := hok
  obtain ⟨identity, hmem, hid, hpolicy, hsigner⟩ :=
    signer_of_validated hbuilt (Config.accepted_of_ok hconfig) hvalid
  obtain ⟨keys, hload, hstore⟩ := Except.bind_eq_ok.mp hbuilt.keys
  obtain ⟨⟨i, key, material, rng, signature, hget, hm, hsign, hresponse⟩, hrecords⟩ := hsigned
  obtain ⟨i', key', hget', hactive⟩ := hvalid.active
  rw [hget] at hget'
  cases hget'
  obtain ⟨hpos, hkey⟩ := getAt_eq_some.mp hget
  have hw := KeyStore.wellFormed_of_ok hstore
  obtain ⟨key', hkey', hkeyId⟩ := (hw.position_iff keyId i).mp hpos
  rw [hkey] at hkey'
  cases hkey'
  obtain ⟨-, hstoreKeys, -⟩ := KeyStore.fromKeys_ok hstore
  obtain ⟨entry, hentry, hentryLoad⟩ :=
    KeyStore.mem_of_loadKeys hload (hstoreKeys ▸ List.mem_of_getElem? hkey)
  obtain ⟨pem, hread, -, henforce, hloaded⟩ := KeyStore.load_ok.mp hentryLoad
  have hentryId : entry.id = key.id := by rw [hloaded]
  have hentryState : entry.state = key.state := by rw [hloaded]
  have hpem : pem = key.encryptedPem := by rw [hloaded]
  subst hpem
  obtain ⟨d, adminRequest, key', passphrase, -, hadmin, hkey', -, hnames, hbody, -, hd⟩ :=
    opened_by_request hw (run_admin hrun) hm
  rw [hkey] at hkey'
  cases hkey'
  exact ⟨keyId, principal, identity, key, digest, {
    arrived := harrived
    route := hvalid.route
    signer := hsigner
    configured := ⟨hmem, hid⟩
    allowed := hpolicy
    stored := ⟨entry, hentry, hentryId.trans hkeyId, hentryState.trans hactive, hkeyId, hread, henforce⟩
    asked := hvalid.digest
    signed := ⟨d, adminRequest, passphrase, material, rng, signature,
      mem_of_adminActions hrun hadmin, hnames, hbody, hd, hsign, hresponse⟩
    audited := hrecords }⟩

end Configured

/-- An operator unlocks the keyring, the maintainer logs in, and his request is signed. -/
def exampleSignRequest : PublicRequest where
  requestId := "01L"
  peer := .v4 192 0 2 1
  route := .sign "microtun-firmware-prod"
  headers := ⟨some ("Bearer " ++ exampleSessionToken).toByteArray.data.toList,
    some "application/json".toByteArray.data.toList⟩
  body := exampleBody

def exampleSignRun : List ServerAct :=
  [.admin (.arrive 0 ⟨"01H", .unlockKeyring "firmware-prod", jsonHeaders, unlockBody "correct horse"⟩),
    .admin (.acquire 0), .admin (.start 0), .admin (.work 0), .admin (.work 0), .admin (.work 0),
    .admin (.work 0), .admin (.work 0), .admin (.work 0), .admin (.work 0), .admin (.finish 0)] ++
  exampleExchangeStart 0 "01J" ++
  [.device 0 .go, .device 0 .go, .device 0 .go,
    .device 0 (.check (some ⟨⟨200⟩, some ⟨["read:user"], ⟨exampleConfig.github.oauthClientId⟩⟩⟩)),
    .device 0 .go, .device 0 .go, .device 0 (.user (some ⟨⟨200⟩, some exampleUser⟩)),
    .device 0 .go, .device 0 (.revoke (some .noContent)), .device 0 .go, .device 0 .go,
    .device 0 (.random (Vector.replicate 32 0)), .device 0 .go, .device 0 .go, .handle 0 .go] ++
  [.arrive 1 exampleSignRequest, .handle 1 .go, .handle 1 .go, .handle 1 .go, .handle 1 (.random 0)]

def exampleReadFile (path : String) : Except String String :=
  if path = "/etc/microtun-signer/firmware-signing-key.encrypted.pem" then .ok examplePem
  else .error "failed to open signing key"

def examplePolicy (pem : String) : Except String Unit :=
  if pem = examplePem then .ok () else .error "invalid PEM encoding"

theorem exampleServer_built :
    BuiltFrom exampleReadFile examplePolicy exampleConfig exampleServer := by
  constructor
  case keys => rfl
  all_goals rfl

theorem maintainer_signs : ∃ t records response keyId principal identity key digest,
    exampleServer.sys.run (.new 0) exampleSignRun = some t ∧
    t.handlers 1 = .answered exampleSignRequest records (.ok (.signature response)) ∧
    Accounted exampleServer 0 exampleSignRun 1 exampleConfig exampleReadFile examplePolicy
      exampleSignRequest records response keyId principal identity key digest := by
  obtain ⟨t, records, response, hrun, hanswered⟩ : ∃ t records response,
      exampleServer.sys.run (.new 0) exampleSignRun = some t ∧
      t.handlers 1 = .answered exampleSignRequest records (.ok (.signature response)) :=
    ⟨_, _, _, rfl, rfl⟩
  obtain ⟨keyId, principal, identity, key, digest, haccounted⟩ :=
    signatures_accounted exampleConfig_accepted exampleServer_built hrun hanswered
  exact ⟨t, records, response, keyId, principal, identity, key, digest, hrun, hanswered, haccounted⟩

end MicrotunSigner
