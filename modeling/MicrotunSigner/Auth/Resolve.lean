import MicrotunSigner.Auth.Session
import MicrotunSigner.Lib.Decimal
import Mathlib.Data.List.Perm.Basic

/-!
# Which identity a caller is (`auth.rs`)

What the two ways to an identity owe to a checked list of identities.

* Actions claims resolve to the only identity that matches them, in whatever order the list is
  (`resolve_unambiguous`). Two workflows of one repository are never confused.
* A GitHub account matches at most one identity. Whether every account identity can log in is a
  question about the text of its `GitHubUserID` (`accounts_oneToOne_iff`): GitHub's ids are 64-bit
  numbers, printed without leading zeros.
-/

namespace MicrotunSigner

open Lib Lib.Text

/-! ## Actions identities -/

section Actions

variable {identities permuted added : List IdentityConfig} {claims : GithubActionsClaims}
  {i j : IdentityConfig}

/-- In a list without duplicates, one element passes the filter iff it is the only one that does. -/
theorem filter_eq_singleton {α : Type} {p : α → Bool} {xs : List α} (hd : xs.Nodup) (a : α) :
    xs.filter p = [a] ↔ (a ∈ xs ∧ p a = true) ∧ ∀ b ∈ xs, p b = true → b = a := by
  constructor
  · intro h
    have hmem : ∀ b, b ∈ xs ∧ p b = true ↔ b = a := fun b => by
      rw [← List.mem_filter, h, List.mem_singleton]
    exact ⟨(hmem a).mpr rfl, fun b hb hp => (hmem b).mp ⟨hb, hp⟩⟩
  · rintro ⟨ha, hall⟩
    apply List.perm_singleton.mp
    rw [List.perm_ext_iff_of_nodup (hd.filter p) (List.nodup_singleton a)]
    intro b
    rw [List.mem_filter, List.mem_singleton]
    constructor
    · exact fun h => hall b h.1 h.2
    · rintro rfl
      exact ha

/-- What a list of matches resolves to. -/
def onlyMatch : List IdentityConfig → Except AuthError IdentityConfig
  | [i] => .ok i
  | _ => .error .claimsDenied

theorem resolve_eq_onlyMatch (identities : List IdentityConfig) (claims : GithubActionsClaims) :
    resolveGithubActionsIdentity identities claims =
      onlyMatch (identities.filter fun i => matchesGithubActionsIdentity i claims) := by
  unfold resolveGithubActionsIdentity
  match identities.filter fun i => matchesGithubActionsIdentity i claims with
  | [] => rfl
  | [i] => rfl
  | _ :: _ :: _ => rfl

theorem onlyMatch_perm {ms ms' : List IdentityConfig} (h : ms.Perm ms') :
    onlyMatch ms' = onlyMatch ms := by
  match ms, ms' with
  | [], _ => rw [h.nil_eq]
  | [i], _ => rw [List.singleton_perm.mp h]
  | _ :: _ :: _, [] => cases h.eq_nil
  | _ :: _ :: _, [_] => cases List.perm_singleton.mp h
  | _ :: _ :: _, _ :: _ :: _ => rfl

/-- The order of the identities does not matter. -/
theorem resolve_perm (h : identities.Perm permuted) :
    resolveGithubActionsIdentity permuted claims = resolveGithubActionsIdentity identities claims := by
  rw [resolve_eq_onlyMatch, resolve_eq_onlyMatch]
  exact onlyMatch_perm (h.filter _)

/-- More matches: the only one is kept or drowned, and none becomes a new one or a denial. -/
theorem onlyMatch_append (ms ns : List IdentityConfig) :
    (∀ i, onlyMatch ms = .ok i →
      onlyMatch (ms ++ ns) = .ok i ∨ onlyMatch (ms ++ ns) = .error .claimsDenied) ∧
    ∀ e, onlyMatch ms = .error e →
      onlyMatch (ms ++ ns) = .error .claimsDenied ∨ ∃ i ∈ ns, onlyMatch (ms ++ ns) = .ok i := by
  match ms, ns with
  | [], [] => exact ⟨fun i h => (nomatch h), fun e _ => .inl rfl⟩
  | [], [n] => exact ⟨fun i h => (nomatch h), fun e _ => .inr ⟨n, by simp, rfl⟩⟩
  | [], _ :: _ :: _ => exact ⟨fun i h => (nomatch h), fun e _ => .inl rfl⟩
  | [m], [] => exact ⟨fun i h => .inl h, fun e h => (nomatch h)⟩
  | [m], _ :: _ => exact ⟨fun i _ => .inr rfl, fun e h => (nomatch h)⟩
  | _ :: _ :: _, _ => exact ⟨fun i h => (nomatch h), fun e _ => .inl rfl⟩

theorem resolve_append :
    (∀ i, resolveGithubActionsIdentity identities claims = .ok i →
      resolveGithubActionsIdentity (identities ++ added) claims = .ok i ∨
      resolveGithubActionsIdentity (identities ++ added) claims = .error .claimsDenied) ∧
    ∀ e, resolveGithubActionsIdentity identities claims = .error e →
      resolveGithubActionsIdentity (identities ++ added) claims = .error .claimsDenied ∨
      ∃ i ∈ added, resolveGithubActionsIdentity (identities ++ added) claims = .ok i := by
  rw [resolve_eq_onlyMatch, resolve_eq_onlyMatch, List.filter_append]
  obtain ⟨hok, herror⟩ := onlyMatch_append
    (identities.filter fun i => matchesGithubActionsIdentity i claims)
    (added.filter fun i => matchesGithubActionsIdentity i claims)
  refine ⟨hok, fun e he => (herror e he).imp_right ?_⟩
  rintro ⟨i, hi, h⟩
  exact ⟨i, List.mem_of_mem_filter hi, h⟩

/-- A workflow reference names one path: the repository before it and the ref behind it are those
of the claims. -/
theorem expectedWorkflowRef_inj {w w' : String}
    (h : expectedWorkflowRef claims w = expectedWorkflowRef claims w') : w = w' := by
  unfold expectedWorkflowRef at h
  rw [← String.toList_inj] at h ⊢
  simp only [String.toList_append, List.append_assoc] at h
  have htail := List.append_cancel_left (List.append_cancel_left h)
  simp only [← List.append_assoc] at htail
  exact List.append_cancel_right (List.append_cancel_right htail)

theorem workflows_disjoint {w w' : String} (hi : i.workflowPath = some w)
    (hj : j.workflowPath = some w') (hne : w ≠ w') :
    ¬ (matchesGithubActionsIdentity i claims = true ∧
      matchesGithubActionsIdentity j claims = true) := by
  rintro ⟨hmi, hmj⟩
  have hri := ((matchesGithubActionsIdentity_iff.mp hmi).workflow w hi).workflowRef
  have hrj := ((matchesGithubActionsIdentity_iff.mp hmj).workflow w' hj).workflowRef
  exact hne (expectedWorkflowRef_inj (hri.symm.trans hrj))

/-- **Actions identity resolution is unambiguous** and independent of the order of a checked list,
for all claims. -/
theorem resolve_unambiguous {kinds : Map String IdentityKind}
    (hvalid : validateIdentities [] [] Map.empty identities = .ok kinds)
    (claims : GithubActionsClaims) :
    (∀ i, resolveGithubActionsIdentity identities claims = .ok i ↔
      (i ∈ identities ∧ matchesGithubActionsIdentity i claims = true) ∧
      ∀ j ∈ identities, matchesGithubActionsIdentity j claims = true → j = i) ∧
    (∀ permuted, identities.Perm permuted → resolveGithubActionsIdentity permuted claims =
      resolveGithubActionsIdentity identities claims) ∧
    (∀ extended added, extended.Perm (identities ++ added) →
      (∀ i, resolveGithubActionsIdentity identities claims = .ok i →
        resolveGithubActionsIdentity extended claims = .ok i ∨
        resolveGithubActionsIdentity extended claims = .error .claimsDenied) ∧
      ∀ e, resolveGithubActionsIdentity identities claims = .error e →
        resolveGithubActionsIdentity extended claims = .error .claimsDenied ∨
        ∃ i ∈ added, resolveGithubActionsIdentity extended claims = .ok i) ∧
    ∀ i j w w', i.workflowPath = some w → j.workflowPath = some w' → w ≠ w' →
      ¬ (matchesGithubActionsIdentity i claims = true ∧
        matchesGithubActionsIdentity j claims = true) := by
  have hd : identities.Nodup := (validateIdentities_ok hvalid).1.of_map _
  refine ⟨fun i => ?_, fun permuted hp => resolve_perm hp, fun extended added hp => ?_,
    fun i j w w' hi hj hne => workflows_disjoint hi hj hne⟩
  · rw [resolveGithubActionsIdentity_eq_ok, filter_eq_singleton hd]
  · rw [resolve_perm hp.symm]
    exact resolve_append

theorem resolve_unambiguous_example :
    resolveGithubActionsIdentity [exampleRelease, exampleMaintainer] exampleClaims =
        .ok exampleRelease ∧
      ∀ j ∈ [exampleMaintainer, exampleRelease],
        matchesGithubActionsIdentity j exampleClaims = true → j = exampleRelease := by
  have hvalid : validateIdentities [] [] Map.empty [exampleMaintainer, exampleRelease] =
      .ok _ := rfl
  obtain ⟨hunique, hperm, -⟩ := resolve_unambiguous hvalid exampleClaims
  have hrelease : resolveGithubActionsIdentity [exampleMaintainer, exampleRelease] exampleClaims =
      .ok exampleRelease := by decide
  refine ⟨?_, ((hunique exampleRelease).mp hrelease).2⟩
  rw [hperm _ (List.Perm.swap _ _ _), hrelease]

end Actions

/-! ## Account identities -/

section Accounts

variable {identities permuted : List IdentityConfig} {i j : IdentityConfig}

/-- A checked account identity has a numeric id that is new. -/
theorem validateIdentityKind_account {accounts accounts' : List String}
    (h : validateIdentityKind accounts i = .ok accounts') (hk : i.kind = .githubAccount) :
    ∃ userId, i.githubUserId = some userId ∧ userId ∉ accounts ∧ userId ≠ "" ∧
      (∀ c ∈ userId.toList, isAsciiDigit c = true) ∧ accounts' = userId :: accounts := by
  simp only [validateIdentityKind, hk, validateAccountIdentity, validateNumericId,
    Except.bind_eq_ok, okOr_eq_ok, bailIf_eq_ok, exists_const] at h
  obtain ⟨userId, hid, hnumeric, hnew, -, -, he⟩ := h
  cases he
  rw [Bool.or_eq_false_iff, isEmpty_eq_false, Bool.not_eq_false'] at hnumeric
  refine ⟨userId, hid, by simpa using hnew, hnumeric.1, ?_, rfl⟩
  exact List.all_eq_true.mp hnumeric.2

theorem validateIdentityKind_actions {accounts accounts' : List String}
    (h : validateIdentityKind accounts i = .ok accounts') (hk : i.kind = .githubActions) :
    accounts' = accounts := by
  simp only [validateIdentityKind, hk, Except.bind_eq_ok] at h
  obtain ⟨_, -, he⟩ := h
  exact (Except.ok.inj he).symm

/-- Two checked account identities have different ids. -/
theorem validateIdentities_accounts {ids accounts : List String} {kinds kinds' : Map String IdentityKind}
    (h : validateIdentities ids accounts kinds identities = .ok kinds') :
    (∀ i ∈ identities, i.kind = .githubAccount → ∃ userId, i.githubUserId = some userId ∧
      userId ∉ accounts ∧ userId ≠ "" ∧ ∀ c ∈ userId.toList, isAsciiDigit c = true) ∧
    identities.Pairwise fun i j => i.kind = .githubAccount → j.kind = .githubAccount →
      i.githubUserId ≠ j.githubUserId := by
  induction identities generalizing ids accounts kinds with
  | nil => exact ⟨fun i hi => (nomatch hi), List.Pairwise.nil⟩
  | cons i identities ih =>
    simp only [validateIdentities, Except.bind_eq_ok, bailIf_eq_ok, exists_const] at h
    obtain ⟨-, -, accounts', hkind, hrest⟩ := h
    obtain ⟨hall, hpair⟩ := ih hrest
    rw [List.forall_mem_cons, List.pairwise_cons]
    cases hk : i.kind with
    | githubAccount =>
      obtain ⟨userId, hid, hnew, hne, hdigits, rfl⟩ := validateIdentityKind_account hkind hk
      refine ⟨⟨fun _ => ⟨userId, hid, hnew, hne, hdigits⟩, fun j hj hkj => ?_⟩,
        fun j hj _ hkj he => ?_, hpair⟩
      · obtain ⟨userId', hid', hnew', hrest⟩ := hall j hj hkj
        exact ⟨userId', hid', fun hm => hnew' (List.mem_cons_of_mem _ hm), hrest⟩
      · obtain ⟨userId', hid', hnew', -⟩ := hall j hj hkj
        rw [hid, hid'] at he
        cases he
        exact hnew' List.mem_cons_self
    | githubActions =>
      obtain rfl := validateIdentityKind_actions hkind hk
      exact ⟨⟨fun hc => absurd hc (by decide), hall⟩, fun j _ hc => absurd hc (by decide), hpair⟩

theorem matchesGithubAccountIdentity_iff {userId login : String} :
    matchesGithubAccountIdentity i userId login = true ↔ i.kind = .githubAccount ∧
      i.githubUserId = some userId ∧
      ∀ expected, i.githubLogin = some expected → eqIgnoreAsciiCase expected login = true := by
  unfold matchesGithubAccountIdentity
  cases i.githubLogin with
  | none => simp
  | some expected => simp [and_assoc]

/-- A GitHub account matches at most one checked identity. -/
theorem account_unique {kinds : Map String IdentityKind}
    (hvalid : validateIdentities [] [] Map.empty identities = .ok kinds)
    {userId login : String} (hi : i ∈ identities) (hj : j ∈ identities)
    (hmi : matchesGithubAccountIdentity i userId login = true)
    (hmj : matchesGithubAccountIdentity j userId login = true) : i = j := by
  obtain ⟨hki, hidi, -⟩ := matchesGithubAccountIdentity_iff.mp hmi
  obtain ⟨hkj, hidj, -⟩ := matchesGithubAccountIdentity_iff.mp hmj
  obtain ⟨-, hpair⟩ := validateIdentities_accounts hvalid
  by_contra hne
  have hsymm : Std.Symm fun i j : IdentityConfig => i.kind = .githubAccount →
      j.kind = .githubAccount → i.githubUserId ≠ j.githubUserId :=
    ⟨fun a b h hb ha he => h ha hb he.symm⟩
  exact hpair.forall hi hj hne hki hkj (hidi.trans hidj.symm)

/-- Where at most one element has the property, its lookup does not depend on the order. -/
theorem find?_perm {α : Type} {p : α → Bool} {xs ys : List α} (h : xs.Perm ys)
    (hunique : ∀ a ∈ xs, ∀ b ∈ xs, p a = true → p b = true → a = b) :
    ys.find? p = xs.find? p := by
  cases hx : xs.find? p with
  | none =>
    rw [List.find?_eq_none] at hx ⊢
    exact fun a ha => hx a (h.mem_iff.mpr ha)
  | some a =>
    have hpa : p a = true := List.find?_some hx
    have ha : a ∈ xs := List.mem_of_find?_eq_some hx
    cases hy : ys.find? p with
    | none => exact absurd hpa (List.find?_eq_none.mp hy a (h.mem_iff.mp ha))
    | some b =>
      have hb : b ∈ xs := h.mem_iff.mpr (List.mem_of_find?_eq_some hy)
      rw [hunique b hb a ha (List.find?_some hy) hpa]

theorem githubAccountFromToken_perm {kinds : Map String IdentityKind}
    (hvalid : validateIdentities [] [] Map.empty identities = .ok kinds)
    (h : identities.Perm permuted) (scopes : List String)
    (user : Except AuthError GithubUserResponse) :
    githubAccountFromToken permuted scopes user = githubAccountFromToken identities scopes user := by
  have hfind : ∀ userId login,
      permuted.find? (fun i => matchesGithubAccountIdentity i userId login) =
        identities.find? fun i => matchesGithubAccountIdentity i userId login := fun userId login =>
    find?_perm h fun _ hi _ hj hmi hmj => account_unique hvalid hi hj hmi hmj
  unfold githubAccountFromToken
  simp only [hfind]

/-- An account identity is matched by a user record iff GitHub can print its id. -/
theorem exists_user_iff (hk : i.kind = .githubAccount) {userId : String}
    (hid : i.githubUserId = some userId) :
    (∃ (id : UInt64) (login : String),
      matchesGithubAccountIdentity i (toString id.toNat) login = true) ↔
    Decimal.Canonical userId ∧ Decimal.value userId < 2 ^ 64 := by
  rw [← Decimal.exists_uint64_iff]
  refine exists_congr fun id => ?_
  constructor
  · rintro ⟨login, hm⟩
    obtain ⟨-, hid', -⟩ := matchesGithubAccountIdentity_iff.mp hm
    exact Option.some.inj (hid.symm.trans hid')
  · rintro rfl
    refine ⟨i.githubLogin.getD "", matchesGithubAccountIdentity_iff.mpr ⟨hk, hid, ?_⟩⟩
    intro expected he
    rw [he, Option.getD_some]
    unfold eqIgnoreAsciiCase
    exact beq_self_eq_true _

/-- Accounts and account identities correspond one to one: an account matches at most one identity,
so the lookup does not depend on their order, and every account identity has an account. -/
structure AccountsOneToOne (identities : List IdentityConfig) : Prop where
  unique : ∀ (id : UInt64) (login : String), ∀ i ∈ identities, ∀ j ∈ identities,
    matchesGithubAccountIdentity i (toString id.toNat) login = true →
    matchesGithubAccountIdentity j (toString id.toNat) login = true → i = j
  order : ∀ permuted, identities.Perm permuted → ∀ scopes user,
    githubAccountFromToken permuted scopes user = githubAccountFromToken identities scopes user
  reachable : ∀ i ∈ identities, i.kind = .githubAccount → ∃ (id : UInt64) (login : String),
    matchesGithubAccountIdentity i (toString id.toNat) login = true

theorem validateIdentities_of_accepted {parse : String → Option Url} {config : Config}
    (h : config.normalizeAndValidate parse = .ok ()) :
    ∃ kinds, validateIdentities [] [] Map.empty config.identities = .ok kinds := by
  simp only [Config.normalizeAndValidate, Except.bind_eq_ok] at h
  obtain ⟨_, -, _, -, _, -, _, -, _, -, _, -, _, -, _, -, kinds, hkinds, -⟩ := h
  exact ⟨kinds, hkinds⟩

/-- **When accounts and account identities correspond one to one.** In an accepted configuration
they do iff every `GitHubUserID` of an account identity is canonical and below `2^64`. -/
theorem accounts_oneToOne_iff {parse : String → Option Url} {config : Config}
    (h : config.normalizeAndValidate parse = .ok ()) :
    AccountsOneToOne config.identities ↔
      ∀ i ∈ config.identities, i.kind = .githubAccount → ∀ userId, i.githubUserId = some userId →
        Decimal.Canonical userId ∧ Decimal.value userId < 2 ^ 64 := by
  obtain ⟨kinds, hvalid⟩ := validateIdentities_of_accepted h
  constructor
  · intro hone i hi hk userId hid
    exact (exists_user_iff hk hid).mp (hone.reachable i hi hk)
  · intro hall
    exact {
      unique := fun id login i hi j hj hmi hmj => account_unique hvalid hi hj hmi hmj
      order := fun permuted hp scopes user => githubAccountFromToken_perm hvalid hp scopes user
      reachable := fun i hi hk => by
        obtain ⟨userId, hid, -⟩ := (validateIdentities_accounts hvalid).1 i hi hk
        exact (exists_user_iff hk hid).mpr (hall i hi hk userId hid) }

theorem accounts_oneToOne_example : AccountsOneToOne exampleConfig.identities := by
  refine (accounts_oneToOne_iff exampleConfig_accepted).mpr ?_
  intro i hi hk userId hid
  have hi' : i = exampleMaintainer ∨ i = exampleRelease := by simpa [exampleConfig] using hi
  rcases hi' with rfl | rfl
  · cases hid
    exact ⟨⟨by decide, List.all_eq_true.mp (by decide), by decide⟩, by decide⟩
  · cases hk

/-- The shipped example with `GitHubUserID = "007"`. -/
def paddedConfig : Config :=
  { exampleConfig with
    identities := [{ exampleMaintainer with githubUserId := some "007" }, exampleRelease] }

/-- It is accepted, and no GitHub account is the maintainer. -/
theorem padded_unreachable :
    paddedConfig.normalizeAndValidate exampleUrl = .ok () ∧
    ¬ AccountsOneToOne paddedConfig.identities := by
  refine ⟨by decide, fun hone => ?_⟩
  have hmem : { exampleMaintainer with githubUserId := some "007" } ∈ paddedConfig.identities := by
    simp [paddedConfig]
  obtain ⟨hcanonical, -⟩ := (exists_user_iff rfl rfl).mp (hone.reachable _ hmem rfl)
  have hzero := hcanonical.head (by decide)
  revert hzero
  decide

end Accounts

end MicrotunSigner
