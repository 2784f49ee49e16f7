import MicrotunSigner.Auth.Replay
import MicrotunSigner.Lib.Sys

/-!
# The replay cache of Actions tokens over whole runs (`auth.rs`)

Runs of `authenticate_github_actions` calls on the cache `seen_jtis`, in the order in which they
take its lock (`actionsSys`). `call_cases` says what one call does: it is refused before the cache,
or its token is `Admitted` and `record_jti` decides.

* `seenJtis_exact`: the cache is bounded, forgets nothing before its time, and takes in admitted
  tokens only. When it is full, it refuses.
* `retention_total_iff`: `record_jti` panics, and puts the cache out of use for good, where the
  expiry of a new entry is no instant, and only there.
-/

namespace MicrotunSigner

open Lib Lib.Text

variable {Key : Type}

/-- One call of `authenticate_github_actions`. -/
structure ActionsCall where
  jwkFor : String → Except AuthError RsaJwk
  at_ : Readings
  token : String

section Calls

variable (jwt : JsonWebToken Key) (actions : GithubActionsConfig) (identities : List IdentityConfig)

def ActionsCall.authenticate (call : ActionsCall) (seen : SeenJtis) :
    Outcome AuthError AuthPrincipal × SeenJtis :=
  authenticateGithubActions jwt actions identities call.jwkFor call.at_ call.token seen

/-- The cache under one call after the other. -/
def actionsSys : Sys SeenJtis ActionsCall where
  init seen := seen = { data := Map.empty }
  step seen call := some (call.authenticate jwt actions identities seen).2

/-- The token verified, has a `jti` of a valid length, and exactly one identity matches it. -/
structure Admitted (call : ActionsCall) (claims : GithubActionsClaims) (jti : String)
    (identity : IdentityConfig) : Prop where
  verified : verifyToken jwt actions call.jwkFor (unixSeconds call.at_.decodeWall) call.token =
    .ok claims
  claimed : claims.jti = some jti
  nonempty : jti ≠ ""
  short : len jti ≤ maxJtiBytes
  resolved : (identities.filter fun i => matchesGithubActionsIdentity i claims) = [identity]

end Calls

/-- Until when `record_jti` would remember the `jti` of the claims, in nanoseconds from `now`. -/
def retention (exp : UInt64) (unixNow : Nat) : Nat :=
  Duration.fromSecs (saturatingAdd (exp.toNat - unixNow) jwtLeewaySeconds)

theorem retention_pos (exp : UInt64) (unixNow : Nat) : 0 < retention exp unixNow := by
  have hsecs : 0 < saturatingAdd (exp.toNat - unixNow) jwtLeewaySeconds := by
    apply Nat.lt_min.mpr
    constructor
    · exact Nat.add_pos_right _ (by decide)
    · decide
  exact Nat.mul_pos hsecs (by decide)

/-! ## One call -/

section Step

variable {jwt : JsonWebToken Key} {actions : GithubActionsConfig}
  {identities : List IdentityConfig} {call : ActionsCall} {claims : GithubActionsClaims}
  {jti : String} {identity : IdentityConfig} {seen : SeenJtis}

/-- The claims, the `jti` and the identity are determined by the call. -/
theorem Admitted.unique {claims' : GithubActionsClaims} {jti' : String} {identity' : IdentityConfig}
    (h : Admitted jwt actions identities call claims jti identity)
    (h' : Admitted jwt actions identities call claims' jti' identity') :
    claims = claims' ∧ jti = jti' := by
  have hc : claims = claims' := Except.ok.inj (h.verified.symm.trans h'.verified)
  subst hc
  exact ⟨rfl, Option.some.inj (h.claimed.symm.trans h'.claimed)⟩

/-- `record_jti` decides an admitted call. -/
theorem Admitted.authenticate (h : Admitted jwt actions identities call claims jti identity)
    (seen : SeenJtis) : call.authenticate jwt actions identities seen =
      ((recordJti jti claims.exp call.at_.now (unixSeconds call.at_.unixWall) seen).1.bind fun _ =>
        .ok (actionsPrincipal identity claims jti),
      (recordJti jti claims.exp call.at_.now (unixSeconds call.at_.unixWall) seen).2) := by
  have hjti := filter_jti_eq_some.mpr ⟨h.claimed, h.nonempty, h.short⟩
  unfold ActionsCall.authenticate authenticateGithubActions admitClaims
  simp only [h.verified, hjti, resolveGithubActionsIdentity_eq_ok.mpr h.resolved]

/-- A call is admitted, or it is refused without a look at the cache. -/
theorem call_cases (jwt : JsonWebToken Key) (actions : GithubActionsConfig)
    (identities : List IdentityConfig) (call : ActionsCall) :
    (∃ claims jti identity, Admitted jwt actions identities call claims jti identity) ∨
    (¬ ∃ claims jti identity, Admitted jwt actions identities call claims jti identity) ∧
      ∃ e, ∀ seen, call.authenticate jwt actions identities seen = (.err e, seen) := by
  by_cases ha : ∃ claims jti identity, Admitted jwt actions identities call claims jti identity
  · exact .inl ha
  refine .inr ⟨ha, ?_⟩
  unfold ActionsCall.authenticate authenticateGithubActions
  cases hv : verifyToken jwt actions call.jwkFor (unixSeconds call.at_.decodeWall) call.token with
  | error e => exact ⟨e, fun _ => rfl⟩
  | ok claims =>
    simp only [admitClaims]
    cases hj : claims.jti.filter fun jti => !isEmpty jti && decide (len jti ≤ maxJtiBytes) with
    | none => exact ⟨_, fun _ => rfl⟩
    | some jti =>
      cases hr : resolveGithubActionsIdentity identities claims with
      | error e => exact ⟨e, fun _ => rfl⟩
      | ok identity =>
        obtain ⟨hjti, hnonempty, hshort⟩ := filter_jti_eq_some.mp hj
        exact absurd ⟨claims, jti, identity, hv, hjti, hnonempty, hshort,
          resolveGithubActionsIdentity_eq_ok.mp hr⟩ ha

/-- What `record_jti` does to the entries: nothing that a reader sees, or it adds a new one. -/
theorem recordJti_live (jti : String) (exp : UInt64) (now : Int) (unixNow : Nat) (seen : SeenJtis) :
    ((recordJti jti exp now unixNow seen).1.isOk = false ∧
      (recordJti jti exp now unixNow seen).2.data.live id now = seen.data.live id now) ∨
    ((recordJti jti exp now unixNow seen).1.isOk = true ∧ seen.data.live id now jti = none ∧
      (recordJti jti exp now unixNow seen).2.data.live id now =
        Function.update (seen.data.live id now) jti (some (now + retention exp unixNow))) := by
  cases hp : seen.poisoned with
  | true =>
    rw [recordJti_poisoned hp]
    exact .inl ⟨rfl, rfl⟩
  | false =>
    have hpurge : (seen.data.purge id now).live id now = seen.data.live id now := by
      funext k
      exact Map.live_purge (le_refl now)
    rcases recordJti_cases jti exp now unixNow hp with
      ⟨v, -, he⟩ | ⟨-, -, he⟩ | ⟨-, -, -, he⟩ | ⟨hn, -, -, he⟩
    · rw [he]; exact .inl ⟨rfl, hpurge⟩
    · rw [he]; exact .inl ⟨rfl, hpurge⟩
    · rw [he]; exact .inl ⟨rfl, hpurge⟩
    · rw [he]
      refine .inr ⟨rfl, Map.lookup_purge.symm.trans hn, ?_⟩
      funext k
      show ((seen.data.purge id now).insert jti (now + retention exp unixNow)).live id now k = _
      have hpos := retention_pos exp unixNow
      rw [Map.live_insert, hpurge, Function.update_apply]
      split
      · exact if_pos (show now < now + (retention exp unixNow : Int) by omega)
      · rfl

/-- An entry whose time has not passed stays as it is. -/
theorem recordJti_keeps {k : String} {v now : Int} {exp : UInt64} {unixNow : Nat}
    (hk : seen.data.lookup k = some v) (hv : now < v) :
    (recordJti jti exp now unixNow seen).2.data.lookup k = some v := by
  have hlive : seen.data.live id now k = some v := Map.live_eq_some.mpr ⟨hk, hv⟩
  have hlive' : (recordJti jti exp now unixNow seen).2.data.live id now k = some v := by
    rcases recordJti_live jti exp now unixNow seen with ⟨-, he⟩ | ⟨-, hn, he⟩
    · rw [he, hlive]
    · have hne : k ≠ jti := by
        rintro rfl
        rw [hlive] at hn
        cases hn
      rw [he, Function.update_of_ne hne, hlive]
  exact (Map.live_eq_some.mp hlive').1

theorem call_keeps {k : String} {v : Int} (hk : seen.data.lookup k = some v)
    (hv : call.at_.now < v) :
    (call.authenticate jwt actions identities seen).2.data.lookup k = some v := by
  rcases call_cases jwt actions identities call with ⟨claims, jti, identity, ha⟩ | ⟨-, e, he⟩
  · rw [ha.authenticate]
    exact recordJti_keeps hk hv
  · rw [he]
    exact hk

/-- The cache is within its bound, and a poisoned one is not full. -/
structure SeenOk (seen : SeenJtis) : Prop where
  size : seen.data.size ≤ maxSeenJtis
  room : seen.poisoned = true → seen.data.size < maxSeenJtis

theorem SeenOk.recordJti (h : SeenOk seen) (jti : String) (exp : UInt64) (now : Int)
    (unixNow : Nat) : SeenOk (recordJti jti exp now unixNow seen).2 := by
  cases hp : seen.poisoned with
  | true =>
    rw [recordJti_poisoned hp]
    exact h
  | false =>
    have hpurge : (seen.data.purge id now).size ≤ seen.data.size := Map.size_purge_le
    have hsize := h.size
    rcases recordJti_cases jti exp now unixNow hp with
      ⟨v, -, he⟩ | ⟨-, -, he⟩ | ⟨-, hs, -, he⟩ | ⟨hn, hs, -, he⟩
    · rw [he]
      exact ⟨le_trans hpurge hsize, fun hc => by cases hc⟩
    · rw [he]
      exact ⟨le_trans hpurge hsize, fun hc => by cases hc⟩
    · rw [he]
      exact ⟨le_trans hpurge hsize, fun _ => hs⟩
    · rw [he]
      refine ⟨?_, fun hc => by cases hc⟩
      have hinsert := Map.size_insert_le (seen.data.purge id now) jti
        (now + Duration.fromSecs (saturatingAdd (exp.toNat - unixNow) jwtLeewaySeconds))
      exact le_trans hinsert hs

theorem recordJti_replayed {v now : Int} {exp : UInt64} {unixNow : Nat}
    (hp : seen.poisoned = false) (hv : seen.data.live id now jti = some v) :
    (recordJti jti exp now unixNow seen).1 = .err .tokenReplayed := by
  rw [← Map.lookup_purge] at hv
  rcases recordJti_cases jti exp now unixNow hp with
    ⟨w, -, he⟩ | ⟨hn, -⟩ | ⟨hn, -⟩ | ⟨hn, -⟩
  · rw [he]
  · rw [hv] at hn; cases hn
  · rw [hv] at hn; cases hn
  · rw [hv] at hn; cases hn

/-- A full cache answers from its entries. -/
theorem recordJti_full (h : SeenOk seen) (hfull : seen.data.size = maxSeenJtis) {now : Int}
    (hlive : ∀ k v, seen.data.lookup k = some v → now < v) (jti : String) (exp : UInt64)
    (unixNow : Nat) : (recordJti jti exp now unixNow seen).1 =
      .err (if jti ∈ seen.data then .tokenReplayed else .replayCacheUnavailable) := by
  have hp : seen.poisoned = false := by
    by_contra hp
    have hroom := h.room (by simpa using hp)
    omega
  have hmem : ∀ k, k ∈ seen.data ↔ k ∈ seen.data.purge id now := by
    intro k
    rw [Map.mem_purge, Map.mem_iff_lookup]
    exact exists_congr fun v => (and_iff_left_of_imp (hlive k v)).symm
  have hsize : (seen.data.purge id now).size = maxSeenJtis := (Map.size_congr hmem).symm.trans hfull
  by_cases hj : jti ∈ seen.data
  · obtain ⟨w, hw⟩ := Map.mem_iff_lookup.mp ((hmem jti).mp hj)
    rw [if_pos hj]
    rcases recordJti_cases jti exp now unixNow hp with
      ⟨v, -, he⟩ | ⟨hn, -⟩ | ⟨hn, -⟩ | ⟨hn, -⟩
    · rw [he]
    · rw [hw] at hn; cases hn
    · rw [hw] at hn; cases hn
    · rw [hw] at hn; cases hn
  · have hnone : (seen.data.purge id now).lookup jti = none :=
      Map.lookup_eq_none.mpr fun hm => hj ((hmem jti).mpr hm)
    rw [if_neg hj]
    rcases recordJti_cases jti exp now unixNow hp with
      ⟨v, hv, -⟩ | ⟨-, -, he⟩ | ⟨-, hs, -⟩ | ⟨-, hs, -⟩
    · rw [hnone] at hv; cases hv
    · rw [he]
    · omega
    · omega

end Step

/-! ## Whole runs -/

section Runs

variable {jwt : JsonWebToken Key} {actions : GithubActionsConfig}
  {identities : List IdentityConfig} {calls : List ActionsCall} {call : ActionsCall}
  {seen t : SeenJtis}

theorem seenOk_inductive : (actionsSys jwt actions identities).Inductive SeenOk where
  init := by
    rintro _ rfl
    exact ⟨Nat.zero_le _, fun h => by cases h⟩
  step := by
    intro seen call t h hs
    cases hs
    rcases call_cases jwt actions identities call with ⟨claims, jti, identity, ha⟩ | ⟨-, e, he⟩
    · rw [ha.authenticate]
      exact h.recordJti _ _ _ _
    · rw [he]
      exact h

/-- Along a run an entry stays while no call comes after its time. -/
theorem run_keeps_entry {k : String} {v : Int}
    (hrun : (actionsSys jwt actions identities).run seen calls = some t)
    (hk : seen.data.lookup k = some v) (hv : ∀ call ∈ calls, call.at_.now < v) :
    t.data.lookup k = some v := by
  induction calls generalizing seen with
  | nil =>
    cases hrun
    exact hk
  | cons call calls ih =>
    rw [List.forall_mem_cons] at hv
    exact ih hrun (call_keeps hk hv.1) hv.2

/-- What a call on the cache `seen` does to the unexpired entries, and what it answers. -/
structure CallExact (jwt : JsonWebToken Key) (actions : GithubActionsConfig)
    (identities : List IdentityConfig) (call : ActionsCall) (seen : SeenJtis) : Prop where
  adds : (call.authenticate jwt actions identities seen).2.data.live id call.at_.now =
      seen.data.live id call.at_.now ∨
    ∃ claims jti identity, Admitted jwt actions identities call claims jti identity ∧
      seen.data.live id call.at_.now jti = none ∧
      (call.authenticate jwt actions identities seen).2.data.live id call.at_.now =
        Function.update (seen.data.live id call.at_.now) jti
          (some (call.at_.now + retention claims.exp (unixSeconds call.at_.unixWall)))
  accepted : ∀ p, (call.authenticate jwt actions identities seen).1 = .ok p →
    ∃ claims jti identity, Admitted jwt actions identities call claims jti identity ∧
      p = actionsPrincipal identity claims jti ∧ seen.data.live id call.at_.now jti = none ∧
      (call.authenticate jwt actions identities seen).2.data.live id call.at_.now =
        Function.update (seen.data.live id call.at_.now) jti
          (some (call.at_.now + retention claims.exp (unixSeconds call.at_.unixWall)))
  replayed : ∀ claims jti identity v, Admitted jwt actions identities call claims jti identity →
    seen.poisoned = false → seen.data.live id call.at_.now jti = some v →
    (call.authenticate jwt actions identities seen).1 = .err .tokenReplayed
  refused : ∀ e, (call.authenticate jwt actions identities seen).1 = .err e →
    (call.authenticate jwt actions identities seen).2.data.live id call.at_.now =
      seen.data.live id call.at_.now
  full : seen.data.size = maxSeenJtis →
    (∀ k v, seen.data.lookup k = some v → call.at_.now < v) →
    (call.authenticate jwt actions identities seen).1.isOk = false ∧
    ∀ claims jti identity, Admitted jwt actions identities call claims jti identity →
      (call.authenticate jwt actions identities seen).1 =
        .err (if jti ∈ seen.data then .tokenReplayed else .replayCacheUnavailable)

theorem callExact_of_seenOk (h : SeenOk seen) : CallExact jwt actions identities call seen := by
  rcases call_cases jwt actions identities call with ⟨claims, jti, identity, ha⟩ | ⟨hnot, e, he⟩
  · have hauth := ha.authenticate seen
    have hlive := recordJti_live jti claims.exp call.at_.now (unixSeconds call.at_.unixWall) seen
    exact {
      adds := by
        rw [hauth]
        rcases hlive with ⟨-, he⟩ | ⟨-, hn, he⟩
        · exact .inl he
        · exact .inr ⟨claims, jti, identity, ha, hn, he⟩
      accepted := fun p hok => by
        rw [hauth] at hok ⊢
        rcases hlive with ⟨hno, -⟩ | ⟨-, hn, he⟩
        · have hbind := congrArg Outcome.isOk hok
          rw [Outcome.isOk_bind_ok, hno] at hbind
          cases hbind
        · obtain ⟨u, -, hp⟩ := Outcome.map_eq_ok.mp hok
          exact ⟨claims, jti, identity, ha, hp.symm, hn, he⟩
      replayed := fun c j i v ha' hp hv => by
        obtain ⟨rfl, rfl⟩ := ha.unique ha'
        rw [hauth, recordJti_replayed hp hv]
        rfl
      refused := fun e herr => by
        rw [hauth] at herr ⊢
        rcases hlive with ⟨-, he⟩ | ⟨hok, -, -⟩
        · exact he
        · have hbind := congrArg Outcome.isOk herr
          rw [Outcome.isOk_bind_ok, hok] at hbind
          cases hbind
      full := fun hfull hall => by
        have hrec := recordJti_full h hfull hall jti claims.exp (unixSeconds call.at_.unixWall)
        refine ⟨by rw [hauth, hrec]; rfl, fun c j i ha' => ?_⟩
        obtain ⟨rfl, rfl⟩ := ha.unique ha'
        rw [hauth, hrec]
        rfl }
  · exact {
      adds := .inl (by rw [he])
      accepted := fun p hok => by
        rw [he] at hok
        cases hok
      replayed := fun c j i v ha => absurd ⟨c, j, i, ha⟩ hnot
      refused := fun _ _ => by rw [he]
      full := fun _ _ => ⟨by rw [he]; rfl, fun c j i ha => absurd ⟨c, j, i, ha⟩ hnot⟩ }

/-- **The replay cache is bounded, exact and fail-closed.** After any calls and before the next one,
the monotonic readings being in order: the cache is within its bound; every entry that a call left
is still there while its time has not passed, after the next call too; and that call is exact. -/
theorem seenJtis_exact (call : ActionsCall)
    (hrun : (actionsSys jwt actions identities).run { data := Map.empty } calls = some t)
    (hmono : ((calls ++ [call]).map (·.at_.now)).Pairwise (· ≤ ·)) :
    t.data.size ≤ maxSeenJtis ∧
    (∀ pre mid seen jti v, calls = pre ++ mid →
      (actionsSys jwt actions identities).run { data := Map.empty } pre = some seen →
      seen.data.lookup jti = some v → call.at_.now < v → t.data.lookup jti = some v ∧
        (call.authenticate jwt actions identities t).2.data.lookup jti = some v) ∧
    CallExact jwt actions identities call t := by
  have hok := seenOk_inductive.run rfl hrun
  refine ⟨hok.size, fun pre mid seen jti v he hpre hk hv => ?_, callExact_of_seenOk hok⟩
  have hmid : (actionsSys jwt actions identities).run seen mid = some t := by
    rw [he, Sys.run_append, hpre] at hrun
    exact hrun
  have hkept : t.data.lookup jti = some v := by
    refine run_keeps_entry hmid hk fun c hc => ?_
    rw [List.map_append, List.pairwise_append] at hmono
    have hle : c.at_.now ≤ call.at_.now := by
      apply hmono.2.2
      · exact List.mem_map_of_mem (he ▸ List.mem_append_right _ hc)
      · simp
    exact lt_of_le_of_lt hle hv
  exact ⟨hkept, call_keeps hkept hv⟩

end Runs

/-- The example token presented at the instant `t`, which is also the wall clock. -/
def exampleActionsCall (t : Int) : ActionsCall where
  jwkFor kid := .ok ⟨"RSA", kid, some "RS256", "n", "AQAB", some "sig"⟩
  at_ := ⟨t, t, t⟩
  token := exampleToken

/-- Presented again a second later, the token is refused: the first call has taken its `jti` in. -/
theorem seenJtis_exact_second : ∃ t,
    (actionsSys exampleJwt exampleConfig.githubActions exampleConfig.identities).run
      { data := Map.empty } [exampleActionsCall 900000000000] = some t ∧
    t.data.size = 1 ∧ t.data.lookup "4f1c" = some 1060000000000 ∧
    CallExact exampleJwt exampleConfig.githubActions exampleConfig.identities
      (exampleActionsCall 901000000000) t ∧
    ((exampleActionsCall 901000000000).authenticate exampleJwt exampleConfig.githubActions
      exampleConfig.identities t).1 = .err .tokenReplayed := by
  obtain ⟨-, -, hexact⟩ := seenJtis_exact (exampleActionsCall 901000000000)
    (show (actionsSys exampleJwt exampleConfig.githubActions exampleConfig.identities).run
      { data := Map.empty } [exampleActionsCall 900000000000] = some _ from rfl) (by decide)
  have hadmitted : Admitted exampleJwt exampleConfig.githubActions exampleConfig.identities
      (exampleActionsCall 901000000000) exampleClaims "4f1c" exampleRelease :=
    ⟨rfl, rfl, by decide, by decide, by decide⟩
  have hlive : ((exampleActionsCall 900000000000).authenticate exampleJwt
      exampleConfig.githubActions exampleConfig.identities { data := Map.empty }).2.data.live id
      901000000000 "4f1c" = some 1060000000000 := by decide
  exact ⟨_, rfl, rfl, by decide, hexact, hexact.replayed _ _ _ _ hadmitted rfl hlive⟩

/-! ## The panic under the lock -/

section Panic

variable (jwt : JsonWebToken Key) (actions : GithubActionsConfig) (identities : List IdentityConfig)

/-- The call adds an entry whose expiry is no instant. -/
def ActionsCall.Overflows (call : ActionsCall) (seen : SeenJtis) : Prop :=
  ∃ claims jti identity, Admitted jwt actions identities call claims jti identity ∧
    seen.poisoned = false ∧ seen.data.live id call.at_.now jti = none ∧
    (seen.data.purge id call.at_.now).size < maxSeenJtis ∧
    ¬ Instant.InRange
      (call.at_.now + (retention claims.exp (unixSeconds call.at_.unixWall) : Int))

/-- The call returns, with a principal or an error, and leaves the lock usable if it was. -/
def ActionsCall.Total (call : ActionsCall) (seen : SeenJtis) : Prop :=
  (call.authenticate jwt actions identities seen).1 ≠ .panic ∧
    ((call.authenticate jwt actions identities seen).2.poisoned = true → seen.poisoned = true)

variable {jwt actions identities} {call : ActionsCall} {claims : GithubActionsClaims}
  {jti : String} {identity : IdentityConfig} {seen t : SeenJtis} {calls : List ActionsCall}

theorem checkedAdd_eq_none {t : Int} {d : Nat} :
    Instant.checkedAdd t d = none ↔ ¬ Instant.InRange (t + (d : Int)) := by
  unfold Instant.checkedAdd
  simp

/-- `record_jti` panics exactly there, and a panic is all that poisons the lock. -/
theorem recordJti_panic (jti : String) (exp : UInt64) (now : Int) (unixNow : Nat) (seen : SeenJtis) :
    ((recordJti jti exp now unixNow seen).1 = .panic ↔ seen.poisoned = false ∧
      seen.data.live id now jti = none ∧ (seen.data.purge id now).size < maxSeenJtis ∧
      ¬ Instant.InRange (now + (retention exp unixNow : Int))) ∧
    ((recordJti jti exp now unixNow seen).2.poisoned = true ↔
      seen.poisoned = true ∨ (recordJti jti exp now unixNow seen).1 = .panic) := by
  cases hp : seen.poisoned with
  | true =>
    rw [recordJti_poisoned hp]
    simp [hp]
  | false =>
    rw [← checkedAdd_eq_none, ← Map.lookup_purge]
    rcases recordJti_cases jti exp now unixNow hp with
      ⟨v, hv, he⟩ | ⟨-, hs, he⟩ | ⟨hn, hs, ha, he⟩ | ⟨-, -, ha, he⟩
    · rw [he]
      simp [hv]
    · rw [he]
      simp [Nat.not_lt.mpr hs]
    · rw [he]
      exact ⟨⟨fun _ => ⟨rfl, hn, hs, ha⟩, fun _ => rfl⟩, fun _ => .inr rfl, fun _ => rfl⟩
    · rw [he]
      have hsome : Instant.checkedAdd now (retention exp unixNow) ≠ none := by
        unfold retention
        rw [ha]
        simp
      simp [hsome]

theorem authenticate_panic (jwt : JsonWebToken Key) (actions : GithubActionsConfig)
    (identities : List IdentityConfig) (call : ActionsCall) (seen : SeenJtis) :
    ((call.authenticate jwt actions identities seen).1 = .panic ↔
      call.Overflows jwt actions identities seen) ∧
    ((call.authenticate jwt actions identities seen).2.poisoned = true ↔
      seen.poisoned = true ∨ call.Overflows jwt actions identities seen) := by
  rcases call_cases jwt actions identities call with ⟨claims, jti, identity, ha⟩ | ⟨hnot, e, he⟩
  · have hiff : call.Overflows jwt actions identities seen ↔
        (recordJti jti claims.exp call.at_.now (unixSeconds call.at_.unixWall) seen).1 = .panic := by
      rw [(recordJti_panic jti claims.exp call.at_.now _ seen).1]
      constructor
      · rintro ⟨claims', jti', identity', ha', hrest⟩
        obtain ⟨rfl, rfl⟩ := ha.unique ha'
        exact hrest
      · exact fun hrest => ⟨claims, jti, identity, ha, hrest⟩
    rw [ha.authenticate, hiff]
    refine ⟨?_, (recordJti_panic jti claims.exp call.at_.now _ seen).2⟩
    cases (recordJti jti claims.exp call.at_.now (unixSeconds call.at_.unixWall) seen).1 with
    | ok u => simp [Outcome.bind]
    | err e => simp [Outcome.bind]
    | panic => simp [Outcome.bind]
  · have hno : ¬ call.Overflows jwt actions identities seen := by
      rintro ⟨claims, jti, identity, ha, -⟩
      exact hnot ⟨claims, jti, identity, ha⟩
    rw [he]
    simp [hno]

/-- **When the retention arithmetic is total.** A call returns and keeps the lock usable iff it does
not overflow, for every expiry, every clock reading and every state of the cache. So after any run
the lock is poisoned iff some call of the run overflowed, and from then on every admitted call is
refused with `ReplayCacheUnavailable`. -/
theorem retention_total_iff (jwt : JsonWebToken Key) (actions : GithubActionsConfig)
    (identities : List IdentityConfig) :
    (∀ call seen, ActionsCall.Total jwt actions identities call seen ↔
      ¬ call.Overflows jwt actions identities seen) ∧
    (∀ calls t, (actionsSys jwt actions identities).run { data := Map.empty } calls = some t →
      (t.poisoned = false ↔ ¬ (actionsSys jwt actions identities).Did { data := Map.empty }
        (fun seen call _ => call.Overflows jwt actions identities seen) calls)) ∧
    ∀ calls seen t call claims jti identity, seen.poisoned = true →
      (actionsSys jwt actions identities).run seen calls = some t →
      Admitted jwt actions identities call claims jti identity →
      (call.authenticate jwt actions identities t).1 = .err .replayCacheUnavailable := by
  refine ⟨fun call seen => ?_, fun calls t hrun => ?_, ?_⟩
  · obtain ⟨hpanic, hpoison⟩ := authenticate_panic jwt actions identities call seen
    unfold ActionsCall.Total
    rw [ne_eq, hpanic, hpoison]
    constructor
    · exact fun h => h.1
    · exact fun h => ⟨h, fun hp => hp.resolve_right h⟩
  · rw [← Bool.not_eq_true, not_iff_not]
    refine Sys.run_induction (P := fun calls t => t.poisoned = true ↔
      (actionsSys jwt actions identities).Did { data := Map.empty }
        (fun seen call _ => call.Overflows jwt actions identities seen) calls) ?_ ?_ calls t hrun
    · exact ⟨fun h => (nomatch h), fun h => absurd h Sys.not_did_nil⟩
    · intro calls t call u ht ih hu
      rw [Sys.did_snoc ht hu, ← ih]
      cases hu
      exact (authenticate_panic jwt actions identities call t).2
  · intro calls seen t call claims jti identity hp hrun ha
    have hpoisoned : t.poisoned = true :=
      Sys.run_keeps (P := fun t : SeenJtis => t.poisoned = true)
        (fun t call u ht hu => by
          cases hu
          exact (authenticate_panic jwt actions identities call t).2.mpr (.inl ht)) hp hrun
    rw [ha.authenticate, recordJti_poisoned hpoisoned]
    rfl

end Panic

/-- A token like the example one, whose `exp` is the largest 64-bit value. -/
def endlessClaims : GithubActionsClaims := { exampleClaims with exp := 18446744073709551615 }

def endlessToken : String := "eyJhbGciOiJSUzI1NiJ9.eyJleHAiOi0xfQ.c2ln"

/-- A verifier that knows this token and the example one, with the documented check of the expiry. -/
def endlessJwt : JsonWebToken Unit where
  decodeHeader token :=
    if token = exampleToken ∨ token = endlessToken then some ⟨.rs256, some "kid"⟩ else none
  fromRsaComponents _ _ := some ()
  decode now token _ v :=
    if token = endlessToken ∧ now ≤ endlessClaims.exp.toNat + v.leeway then some endlessClaims
    else if token = exampleToken ∧ now ≤ exampleClaims.exp.toNat + v.leeway then some exampleClaims
    else none

def endlessCall : ActionsCall := { exampleActionsCall 900000000000 with token := endlessToken }

/-- Presented at 900 s, that token is admitted and panics under the lock. The example token, which
is good until 1000 s, is then refused for as long as it verifies. -/
theorem retention_panics :
    (∃ claims jti identity, Admitted endlessJwt exampleConfig.githubActions exampleConfig.identities
      endlessCall claims jti identity) ∧
    ¬ endlessCall.Total endlessJwt exampleConfig.githubActions exampleConfig.identities
      { data := Map.empty } ∧
    ∃ t, (actionsSys endlessJwt exampleConfig.githubActions exampleConfig.identities).run
      { data := Map.empty } [endlessCall] = some t ∧
      ((exampleActionsCall 901000000000).authenticate endlessJwt exampleConfig.githubActions
        exampleConfig.identities t).1 = .err .replayCacheUnavailable := by
  have hpanic : (endlessCall.authenticate endlessJwt exampleConfig.githubActions
      exampleConfig.identities { data := Map.empty }).1 = .panic := by decide +kernel
  refine ⟨⟨endlessClaims, "4f1c", exampleRelease, rfl, rfl, by decide, by decide, by decide⟩,
    fun h => h.1 hpanic, _, rfl, ?_⟩
  decide +kernel

theorem retention_total_example :
    ActionsCall.Total exampleJwt exampleConfig.githubActions exampleConfig.identities
      (exampleActionsCall 900000000000) { data := Map.empty } := by
  refine ((retention_total_iff exampleJwt exampleConfig.githubActions
    exampleConfig.identities).1 _ _).mpr ?_
  rintro ⟨claims, jti, identity, ha, -, -, -, hrange⟩
  have hclaims : claims = exampleClaims := by
    have hv := ha.verified
    have he : verifyToken exampleJwt exampleConfig.githubActions
      (exampleActionsCall 900000000000).jwkFor 900 exampleToken = .ok exampleClaims := rfl
    exact Except.ok.inj (hv.symm.trans he)
  subst hclaims
  exact hrange (by decide +kernel)

end MicrotunSigner
