import MicrotunSigner.Auth.Session
import MicrotunSigner.Lib.Expiry
import MicrotunSigner.Config.Accepted
import MicrotunSigner.Authorization

/-!
# The session store and the history of minted sessions (`auth.rs`)

Sequences of mints and `authenticate` calls, in the order in which they take the lock of the
session store, with clock readings that do not decrease. `history` is the list of the successful
mints. It decides what the store answers: `applyOps_reflects` couples the two, and
`sessions_refine_history` is what a client can tell.

Expired sessions are evicted by mints only, while a lookup ignores them, so the store and the
unexpired part of the history mostly differ.
-/

namespace MicrotunSigner

open Lib Lib.Text

inductive SessionOp where
  | mint (now : Int) (random : Vector UInt8 32) (identityId : String) (user : GithubUserResponse)
  | authenticate (call : AuthCall)

namespace SessionOp

/-- The reading of the monotonic clock. -/
def now : SessionOp → Int
  | .mint now _ _ _ => now
  | .authenticate call => call.at_.now

/-- The token that a mint generates. -/
def generated : SessionOp → Option String
  | .mint _ random _ _ => some (sessionToken random)
  | .authenticate _ => none

/-- The token that a call presents. -/
def presented : SessionOp → Option String
  | .mint _ _ _ _ => none
  | .authenticate call => (bearerToken call.headers).toOption

end SessionOp

/-- A successful mint: the token it returned, when it was minted, and for whom. -/
structure Minted where
  token : String
  at_ : Int
  identityId : String
  user : GithubUserResponse
  deriving DecidableEq

variable {Key : Type}

namespace Authenticator

variable (self : Authenticator Key)

def mint (now : Int) (random : Vector UInt8 32) (identityId : String) (user : GithubUserResponse)
    (s : AuthState) : Except OAuthFlowError OAuthSessionGrant × AuthState :=
  let (grant, oauthSessions) := mintGithubAccountSession self.sha256 self.github now random
    identityId user s.oauthSessions
  (grant, { s with oauthSessions })

def applyOp (s : AuthState) : SessionOp → AuthState
  | .mint now random identityId user => (self.mint now random identityId user s).2
  | .authenticate call => (self.authenticate call s).2

def applyOps (ops : List SessionOp) : AuthState := ops.foldl self.applyOp AuthState.new

/-- What an operation adds to the history. -/
def minted (s : AuthState) : SessionOp → List Minted
  | .mint now random identityId user =>
    match (self.mint now random identityId user s).1 with
    | .ok grant => [⟨grant.accessToken, now, identityId, user⟩]
    | .error _ => []
  | .authenticate _ => []

def historyFrom (s : AuthState) : List SessionOp → List Minted
  | [] => []
  | op :: ops => self.minted s op ++ historyFrom (self.applyOp s op) ops

/-- The successful mints, oldest first. -/
def history (ops : List SessionOp) : List Minted := self.historyFrom AuthState.new ops

/-- The entry of the store that a mint made. -/
def entry (x : Minted) : Sha256Digest × GithubAccountSession :=
  (sessionKey self.sha256 x.token, newSession self.github x.at_ x.identityId x.user)

end Authenticator

/-- The sequence has clock readings that do not decrease, its mints generate different tokens, and
SHA-256 tells the tokens in it apart. -/
structure Authenticator.Assumed (auth : Authenticator Key) (ops : List SessionOp) : Prop where
  clock : ops.Pairwise fun a b => a.now ≤ b.now
  distinct : (ops.filterMap SessionOp.generated).Nodup
  collisionFree : ∀ t ∈ ops.filterMap SessionOp.generated,
    ∀ t' ∈ ops.filterMap SessionOp.generated ++ ops.filterMap SessionOp.presented,
      sessionKey auth.sha256 t = sessionKey auth.sha256 t' → t = t'

section Store

variable {self : Authenticator Key} {ops : List SessionOp} {op : SessionOp} {s : AuthState}

/-- A mint evicts what has expired, and then finds the store full or adds its session. -/
theorem mint_cases (self : Authenticator Key) (now : Int) (random : Vector UInt8 32)
    (identityId : String) (user : GithubUserResponse) (s : AuthState) :
    let m := s.oauthSessions.purge GithubAccountSession.expiresAt now
    let e := self.entry ⟨sessionToken random, now, identityId, user⟩
    (maxOAuthSessions ≤ m.size ∧ self.mint now random identityId user s =
      (.error .sessionCapacity, { s with oauthSessions := m })) ∨
    (m.size < maxOAuthSessions ∧ self.mint now random identityId user s =
      (.ok ⟨sessionToken random, self.github.oauthSessionTtlSeconds⟩,
      { s with oauthSessions := m.insert e.1 e.2 })) := by
  intro m e
  unfold Authenticator.mint mintGithubAccountSession insertSession
  by_cases h : maxOAuthSessions ≤ m.size
  · exact .inl ⟨h, by simp only [ge_iff_le, m, h, if_true]; rfl⟩
  · exact .inr ⟨Nat.lt_of_not_le h, by simp only [ge_iff_le, m, h, if_false]; rfl⟩

/-- Authenticating leaves the sessions alone. -/
theorem authenticate_sessions (self : Authenticator Key) (call : AuthCall) (s : AuthState) :
    (self.authenticate call s).2.oauthSessions = s.oauthSessions := by
  cases hb : bearerToken call.headers with
  | error e => rw [authenticate_error hb]
  | ok token =>
    cases hj : isGithubActionsJwt self.jwt token with
    | true => rw [authenticate_actions hb hj]
    | false => rw [authenticate_session hb hj]

theorem applyOps_snoc (self : Authenticator Key) (ops : List SessionOp) (op : SessionOp) :
    self.applyOps (ops ++ [op]) = self.applyOp (self.applyOps ops) op := by
  unfold Authenticator.applyOps
  rw [List.foldl_append]
  rfl

theorem history_snoc (self : Authenticator Key) (ops : List SessionOp) (op : SessionOp) :
    self.history (ops ++ [op]) = self.history ops ++ self.minted (self.applyOps ops) op := by
  have h : ∀ s, self.historyFrom s (ops ++ [op]) =
      self.historyFrom s ops ++ self.minted (ops.foldl self.applyOp s) op := by
    induction ops with
    | nil => intro s; simp [Authenticator.historyFrom]
    | cons a ops ih =>
      intro s
      rw [List.cons_append, Authenticator.historyFrom, Authenticator.historyFrom, ih,
        List.append_assoc, List.foldl_cons]
  exact h AuthState.new

/-- A minted token is the one that the mint generated. -/
theorem minted_tokens (self : Authenticator Key) (s : AuthState) (op : SessionOp) :
    ((self.minted s op).map Minted.token).Sublist op.generated.toList := by
  cases op with
  | authenticate call => exact List.Sublist.refl _
  | mint now random identityId user =>
    rcases mint_cases self now random identityId user s with ⟨-, he⟩ | ⟨-, he⟩
    · simp only [Authenticator.minted, he]
      exact List.nil_sublist _
    · simp only [Authenticator.minted, he]
      exact List.Sublist.refl _

theorem history_tokens (self : Authenticator Key) (ops : List SessionOp) :
    ((self.history ops).map Minted.token).Sublist (ops.filterMap SessionOp.generated) := by
  induction ops using List.reverseRecOn with
  | nil => exact List.Sublist.refl _
  | append_singleton ops op ih =>
    rw [history_snoc, List.map_append, List.filterMap_append]
    refine ih.append ?_
    have h := minted_tokens self (self.applyOps ops) op
    cases hg : op.generated with
    | none => rw [hg] at h; simpa [hg] using h
    | some t => rw [hg] at h; simpa [hg] using h

/-- A token of the history has the shape of a session token. -/
theorem history_sessionToken {x : Minted} (hx : x ∈ self.history ops) :
    ∃ random, x.token = sessionToken random := by
  have hg : x.token ∈ ops.filterMap SessionOp.generated :=
    (history_tokens self ops).subset (List.mem_map_of_mem hx)
  obtain ⟨op, -, hop⟩ := List.mem_filterMap.mp hg
  cases op with
  | authenticate call => cases hop
  | mint now random identityId user => exact ⟨random, (Option.some.inj hop).symm⟩

/-- The account of a minted session is the one that its mint was called with. -/
theorem history_op {x : Minted} (hx : x ∈ self.history ops) :
    ∃ random, SessionOp.mint x.at_ random x.identityId x.user ∈ ops := by
  induction ops using List.reverseRecOn with
  | nil => cases hx
  | append_singleton ops op ih =>
    rw [history_snoc] at hx
    rcases List.mem_append.mp hx with hold | hnew
    · obtain ⟨random, hm⟩ := ih hold
      exact ⟨random, List.mem_append_left _ hm⟩
    · cases op with
      | authenticate call => cases hnew
      | mint now random identityId user =>
        rcases mint_cases self now random identityId user (self.applyOps ops) with
          ⟨-, he⟩ | ⟨-, he⟩
        · simp only [Authenticator.minted, he] at hnew
          cases hnew
        · simp only [Authenticator.minted, he, List.mem_singleton] at hnew
          subst hnew
          exact ⟨random, List.mem_append_right _ (List.mem_singleton_self _)⟩

theorem Authenticator.Assumed.init (h : self.Assumed (ops ++ [op])) : self.Assumed ops where
  clock := (List.pairwise_append.mp h.clock).1
  distinct := by
    have hd := h.distinct
    rw [List.filterMap_append] at hd
    exact hd.of_append_left
  collisionFree := fun t ht t' ht' => by
    refine h.collisionFree t ?_ t' ?_
    · rw [List.filterMap_append]
      exact List.mem_append_left _ ht
    · rw [List.filterMap_append, List.filterMap_append]
      rcases List.mem_append.mp ht' with hg | hp
      · exact List.mem_append_left _ (List.mem_append_left _ hg)
      · exact List.mem_append_right _ (List.mem_append_left _ hp)

theorem Authenticator.Assumed.le (h : self.Assumed (ops ++ [op])) : ∀ a ∈ ops, a.now ≤ op.now :=
  fun a ha => (List.pairwise_append.mp h.clock).2.2 a ha op (List.mem_singleton_self _)

/-- Two minted tokens of a sequence have different digests. -/
theorem Authenticator.Assumed.keys_nodup (h : self.Assumed ops) :
    (((self.history ops).map self.entry).map Prod.fst).Nodup := by
  have hsub := history_tokens self ops
  have hd : ((self.history ops).map Minted.token).Nodup := h.distinct.sublist hsub
  have hk : (((self.history ops).map Minted.token).map (sessionKey self.sha256)).Nodup :=
    hd.map_on fun a ha b hb he => h.collisionFree a (hsub.subset ha) b
      (List.mem_append_left _ (hsub.subset hb)) he
  rw [List.map_map] at hk ⊢
  exact hk

/-- The store after a sequence holds the unexpired part of its history, within its capacity. -/
theorem applyOps_reflects (h : self.Assumed ops) (now : Int) (hnow : ∀ op ∈ ops, op.now ≤ now) :
    Map.Reflects GithubAccountSession.expiresAt now (self.applyOps ops).oauthSessions
      ((self.history ops).map self.entry) ∧
    (self.applyOps ops).oauthSessions.size ≤ maxOAuthSessions := by
  induction ops using List.reverseRecOn generalizing now with
  | nil => exact ⟨Map.reflects_empty, Nat.zero_le _⟩
  | append_singleton ops op ih =>
    obtain ⟨hr, hsize⟩ := ih h.init op.now h.le
    have hlast : op.now ≤ now := hnow op (List.mem_append_right _ (List.mem_singleton_self _))
    have hnodup := h.keys_nodup
    rw [applyOps_snoc, history_snoc]
    rw [history_snoc] at hnodup
    cases op with
    | authenticate call =>
      simp only [Authenticator.applyOp, Authenticator.minted, authenticate_sessions,
        List.append_nil]
      exact ⟨hr.later hlast, hsize⟩
    | mint at_ random identityId user =>
      have hpurge : Map.Reflects _ at_ _ _ := hr.purge (le_refl at_)
      rcases mint_cases self at_ random identityId user (self.applyOps ops) with
        ⟨-, he⟩ | ⟨hroom, he⟩
      · simp only [Authenticator.applyOp, Authenticator.minted, he, List.append_nil]
        exact ⟨hpurge.later hlast, le_trans Map.size_purge_le hsize⟩
      · simp only [Authenticator.applyOp, Authenticator.minted, he] at hnodup ⊢
        rw [List.map_append, List.map_append] at hnodup
        rw [List.map_append]
        have hnew : (self.entry ⟨sessionToken random, at_, identityId, user⟩).1 ∉
            ((self.history ops).map self.entry).map Prod.fst := fun hm =>
          List.disjoint_of_nodup_append hnodup hm (List.mem_singleton_self _)
        refine ⟨(hpurge.insert hnew).later hlast, ?_⟩
        exact le_trans (Map.size_insert_le _ _ _) hroom

end Store

/-! ## What a client can tell -/

/-- The account of a mint is one that GitHub reported and a configured identity matched. -/
def SessionOp.fromAccount (identities : List IdentityConfig) : SessionOp → Prop
  | .mint _ _ identityId user => ∃ scopes reported,
      githubAccountFromToken identities scopes reported = .ok (identityId, user)
  | .authenticate _ => True

/-- The policy is one of a github-actions identity. -/
def PolicyConfig.isForActions (identities : List IdentityConfig) (policy : PolicyConfig) : Bool :=
  identities.any fun i => i.id == policy.identity && i.kind == .githubActions

section Clients

variable {self : Authenticator Key} {ops : List SessionOp}

/-- A session token is good iff a mint returned it and its time has not run out. -/
theorem session_ok_iff {call : AuthCall} (h : self.Assumed (ops ++ [.authenticate call]))
    {token : String} (hb : bearerToken call.headers = .ok token)
    (hj : isGithubActionsJwt self.jwt token = false) (p : AuthPrincipal) :
    (self.authenticate call (self.applyOps ops)).1 = .ok p ↔
      ∃ x ∈ self.history ops, x.token = token ∧
        call.at_.now < x.at_ + Duration.fromSecs self.github.oauthSessionTtlSeconds ∧
        p = sessionPrincipal self.github (newSession self.github x.at_ x.identityId x.user) := by
  obtain ⟨hr, -⟩ := applyOps_reflects h.init call.at_.now h.le
  rw [authenticate_session hb hj, Outcome.ofExcept_eq_ok,
    authenticateGithubAccountSession_eq_ok]
  constructor
  · rintro ⟨-, session, hlive, rfl⟩
    obtain ⟨hm, hlt⟩ := (hr.live_iff (le_refl _)).mp hlive
    obtain ⟨x, hx, he⟩ := List.mem_map.mp hm
    have hkey : sessionKey self.sha256 x.token = sessionKey self.sha256 token := congrArg Prod.fst he
    have hsession : newSession self.github x.at_ x.identityId x.user = session :=
      congrArg Prod.snd he
    subst hsession
    refine ⟨x, hx, h.collisionFree x.token ?_ token ?_ hkey, hlt, rfl⟩
    · rw [List.filterMap_append]
      exact List.mem_append_left _ ((history_tokens self ops).subset (List.mem_map_of_mem hx))
    · rw [List.filterMap_append, List.filterMap_append]
      refine List.mem_append_right _ (List.mem_append_right _ ?_)
      simp [SessionOp.presented, hb, Except.toOption]
  · rintro ⟨x, hx, rfl, hlt, rfl⟩
    obtain ⟨random, he⟩ := history_sessionToken hx
    refine ⟨?_, _, (hr.live_iff (le_refl _)).mpr ⟨List.mem_map_of_mem hx, hlt⟩, rfl⟩
    rw [he]
    exact sessionToken_prefix random

/-- A mint is refused iff the history has as many unexpired sessions as the store may hold. -/
theorem mint_capacity_iff {now : Int} {random : Vector UInt8 32} {identityId : String}
    {user : GithubUserResponse} (h : self.Assumed (ops ++ [.mint now random identityId user])) :
    (self.mint now random identityId user (self.applyOps ops)).1 = .error .sessionCapacity ↔
      ((self.history ops).filter fun x => decide
        (now < x.at_ + Duration.fromSecs self.github.oauthSessionTtlSeconds)).length =
        maxOAuthSessions := by
  obtain ⟨hr, hsize⟩ := applyOps_reflects h.init now h.le
  have hlen : ((self.history ops).filter fun x => decide
      (now < x.at_ + Duration.fromSecs self.github.oauthSessionTtlSeconds)).length =
      ((self.applyOps ops).oauthSessions.purge GithubAccountSession.expiresAt now).size := by
    rw [hr.size_purge (le_refl _) h.init.keys_nodup, List.filter_map, List.length_map]
    rfl
  rw [hlen]
  have hle : ((self.applyOps ops).oauthSessions.purge GithubAccountSession.expiresAt now).size ≤
      maxOAuthSessions := le_trans Map.size_purge_le hsize
  rcases mint_cases self now random identityId user (self.applyOps ops) with
    ⟨hfull, he⟩ | ⟨hroom, he⟩
  · rw [he]
    exact ⟨fun _ => le_antisymm hle hfull, fun _ => rfl⟩
  · rw [he]
    refine ⟨fun hc => ?_, fun hc => absurd hc (Nat.ne_of_lt hroom)⟩
    cases hc

/-- No mint removes or changes a session that has not expired. -/
theorem mint_keeps_unexpired {now : Int} {random : Vector UInt8 32} {identityId : String}
    {user : GithubUserResponse} (h : self.Assumed (ops ++ [.mint now random identityId user]))
    {k : Sha256Digest} {v : GithubAccountSession}
    (hk : (self.applyOps ops).oauthSessions.lookup k = some v) (hlive : now < v.expiresAt) :
    (self.mint now random identityId user (self.applyOps ops)).2.oauthSessions.lookup k =
      some v := by
  obtain ⟨hr, -⟩ := applyOps_reflects h.init now h.le
  have hpurge : ((self.applyOps ops).oauthSessions.purge GithubAccountSession.expiresAt now).lookup
      k = some v := by
    rw [Map.lookup_purge, Map.live_eq_some]
    exact ⟨hk, hlive⟩
  have hnodup := h.keys_nodup
  rw [history_snoc] at hnodup
  rcases mint_cases self now random identityId user (self.applyOps ops) with
    ⟨-, he⟩ | ⟨-, he⟩
  · rw [he]
    exact hpurge
  · rw [he]
    simp only [Authenticator.minted, he, List.map_append] at hnodup
    have hne : k ≠ (self.entry ⟨sessionToken random, now, identityId, user⟩).1 := by
      rintro rfl
      exact List.disjoint_of_nodup_append hnodup (List.mem_map_of_mem (hr.sound _ _ hk))
        (List.mem_singleton_self _)
    rw [Map.lookup_insert, if_neg hne]
    exact hpurge

/-- In a checked configuration, the identity of an account is a github-account identity. -/
theorem account_identity_kind {parse : String → Option Url} {config : Config}
    (hconfig : config.normalizeAndValidate parse = .ok ()) {identityId : String}
    {scopes : List String} {reported : Except AuthError GithubUserResponse}
    {user : GithubUserResponse}
    (h : githubAccountFromToken config.identities scopes reported = .ok (identityId, user)) :
    (∃ i ∈ config.identities, i.id = identityId) ∧
      ∀ i ∈ config.identities, i.id = identityId → i.kind = .githubAccount := by
  obtain ⟨-, -, ⟨i, hi, rfl, hmatch⟩, -⟩ := githubAccountFromToken_ok h
  have hkind : i.kind = .githubAccount := by
    simp only [matchesGithubAccountIdentity, Bool.and_eq_true, beq_iff_eq] at hmatch
    exact hmatch.1.1
  refine ⟨⟨i, hi, rfl⟩, fun j hj he => ?_⟩
  rw [(Config.accepted_of_ok hconfig).identity_inj hj hi he]
  exact hkind

/-- The policies of github-actions identities decide nothing for a principal whose identity is a
github-account. -/
theorem authorize_without_actions {identities : List IdentityConfig} {policies : List PolicyConfig}
    {p : AuthPrincipal} (h : ∀ i ∈ identities, i.id = p.identityId → i.kind = .githubAccount)
    (action : PolicyAction) (keyId : String) :
    Authorizer.authorize ⟨policies⟩ p action keyId =
      Authorizer.authorize ⟨policies.filter fun q => !q.isForActions identities⟩ p action keyId := by
  have hiff : Authorizer.authorize ⟨policies⟩ p action keyId = .ok () ↔
      Authorizer.authorize ⟨policies.filter fun q => !q.isForActions identities⟩ p action keyId =
        .ok () := by
    rw [Authorizer.authorize_eq_ok, Authorizer.authorize_eq_ok]
    refine exists_congr fun q => ?_
    rw [List.mem_filter, and_assoc]
    refine and_congr_right fun _ => ⟨fun hq => ⟨?_, hq⟩, fun hq => hq.2⟩
    rw [Bool.not_eq_true', PolicyConfig.isForActions, List.any_eq_false]
    intro i hi hc
    rw [Bool.and_eq_true, beq_iff_eq, beq_iff_eq] at hc
    have hkind := h i hi (hc.1.trans hq.1)
    rw [hc.2] at hkind
    cases hkind
  have hcases : ∀ a : Authorizer, Authorizer.authorize a p action keyId = .ok () ∨
      Authorizer.authorize a p action keyId = .error .policyDenied := fun a => by
    unfold Authorizer.authorize
    simp only
    split
    · exact .inl rfl
    · exact .inr rfl
  rcases hcases ⟨policies⟩ with h1 | h1
  · rw [h1, hiff.mp h1]
  · rcases hcases ⟨policies.filter fun q => !q.isForActions identities⟩ with h2 | h2
    · rw [hiff.mpr h2] at h1
      cases h1
    · rw [h1, h2]

end Clients

def exampleMint : SessionOp :=
  .mint 0 (Vector.replicate 32 0) "firmware-maintainer" ⟨"maintainer-login", 24681012, some true⟩

/-- The session presented ten seconds later. -/
def exampleSessionCall : AuthCall where
  headers := ⟨some ("Bearer " ++ exampleSessionToken).toByteArray.data.toList, none⟩
  jwkFor _ := .error .keyDiscovery
  at_ := ⟨10000000000, 10000000000, 10000000000⟩

end MicrotunSigner
