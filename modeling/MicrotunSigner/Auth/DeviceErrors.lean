import MicrotunSigner.Auth.DeviceRuns

/-!
# How an exchange ends (`auth.rs`)

`exchange_fails_closed`: what a call that was not cancelled has done when it returns, whichever of
its checks failed. Its events tell (`Ended`); what they mean for the cache of used tokens and for
the sessions is `Auth.DeviceReplay` and `Auth.DeviceRuns`.
-/

namespace MicrotunSigner

open Lib Lib.Text Lib.SingleUse

variable {Key : Type} {self : Authenticator Key} {s t u v : DeviceSt} {a : DeviceAct}
  {as bs : List DeviceAct} {c : Nat} {token other : String} {tr : List DeviceEvent} {n : Int}
  {outcome outcome' : Except OAuthFlowError (String × GithubUserResponse)} {e : OAuthFlowError}
  {result : Except OAuthFlowError OAuthSessionGrant}

/-! ## Errors -/

/-- GitHub's answers never make a token a replayed one. -/
theorem checkGithubOAuthToken_error {github : GithubConfig}
    {reply : Option (HttpResponse GithubTokenCheckResponse)}
    (h : checkGithubOAuthToken github reply = .error e) : e ≠ .tokenReplayed := by
  rintro rfl
  simp [checkGithubOAuthToken, Except.bind_eq_error, okOr_eq_error, bailIf_eq_error, pure,
    Except.pure] at h

theorem githubAccountFromToken_error {identities : List IdentityConfig} {scopes : List String}
    {reported : Except AuthError GithubUserResponse}
    (h : githubAccountFromToken identities scopes reported = .error e) : e ≠ .tokenReplayed := by
  rintro rfl
  unfold githubAccountFromToken at h
  split at h
  · cases h
  · split at h
    · cases h
    · cases h
    · cases h
    · dsimp only at h
      split at h
      · cases h
      · split at h <;> cases h

/-! ## What the events of a call say -/

theorem Identified.outcome_eq (h : Identified self token outcome tr)
    (ho : .identified outcome' ∈ tr) : outcome' = outcome := by
  cases h <;> simpa using ho

theorem Identified.check {reply : Option (HttpResponse GithubTokenCheckResponse)}
    (h : Identified self token outcome tr) (hr : .checkReply reply ∈ tr) :
    ∃ scopes, checkGithubOAuthToken self.github reply = .ok scopes := by
  cases h with
  | noScope reply' scopes hc =>
    have he : reply = reply' := by simpa using hr
    exact ⟨scopes, he ▸ hc⟩
  | lookedUp reply' scopes _ hc =>
    have he : reply = reply' := by simpa using hr
    exact ⟨scopes, he ▸ hc⟩

theorem Identified.no_revokeReply {reply : Option StatusCode} (h : Identified self token outcome tr) :
    .revokeReply reply ∉ tr := by
  cases h <;> simp

theorem Revoked.outcome_eq (h : Revoked self token outcome tr) (ho : .identified outcome' ∈ tr) :
    outcome' = outcome := by
  obtain ⟨tr₀, reply, hi, -⟩ := h
  exact hi.outcome_eq (by simpa using ho)

theorem Revoked.check {reply : Option (HttpResponse GithubTokenCheckResponse)}
    (h : Revoked self token outcome tr) (hr : .checkReply reply ∈ tr) :
    ∃ scopes, checkGithubOAuthToken self.github reply = .ok scopes := by
  obtain ⟨tr₀, reply', hi, -⟩ := h
  exact hi.check (by simpa using hr)

theorem Revoked.revokes (h : Revoked self token outcome tr) : .sent (.revokeToken token) ∈ tr := by
  obtain ⟨tr₀, reply, hi, -⟩ := h
  simp

theorem Revoked.revoked {reply : Option StatusCode} (h : Revoked self token outcome tr)
    (hr : .revokeReply reply ∈ tr) : revokeGithubToken reply = .ok () := by
  obtain ⟨tr₀, reply', hi, hok⟩ := h
  have he : reply = reply' := by simpa [hi.no_revokeReply] using hr
  exact he ▸ hok

theorem Revoked.not_declined (h : Revoked self token outcome tr) : .declined ∉ tr := by
  obtain ⟨tr₀, reply, hi, -⟩ := h
  cases hi <;> simp

theorem Revoked.not_minted {session : GithubAccountSession} (h : Revoked self token outcome tr) :
    .minted session ∉ tr := by
  obtain ⟨tr₀, reply, hi, -⟩ := h
  cases hi <;> simp

section Ended

variable (h : Ended self token result tr)
include h

theorem Ended.revokes {reply : Option (HttpResponse GithubTokenCheckResponse)}
    {scopes : List String} (hr : .checkReply reply ∈ tr)
    (hc : checkGithubOAuthToken self.github reply = .ok scopes) :
    .sent (.revokeToken token) ∈ tr := by
  cases h with
  | invalid | refused => simp at hr
  | rejected reply' e he =>
    have hreply : reply = reply' := by simpa using hr
    rw [← hreply, hc] at he
    cases he
  | notRevoked outcome tr reply' e hi => simp
  | declined outcome tr hv | denied e tr now hv | full account tr now hv
  | minted identityId user tr now session grant hv => exact List.mem_append_left _ hv.revokes

theorem Ended.of_rejected {reply : Option (HttpResponse GithubTokenCheckResponse)}
    (hr : .checkReply reply ∈ tr) (hc : checkGithubOAuthToken self.github reply = .error e) :
    result = .error e ∧ tr = [.reserved token, .sent (.checkToken token), .checkReply reply] := by
  have hno : ∀ scopes, checkGithubOAuthToken self.github reply ≠ .ok scopes := by
    intro scopes hok
    rw [hc] at hok
    cases hok
  cases h with
  | invalid | refused => simp at hr
  | rejected reply' e' he =>
    have hreply : reply = reply' := by simpa using hr
    rw [← hreply, hc] at he
    cases he
    exact ⟨rfl, by rw [hreply]⟩
  | notRevoked outcome tr reply' e' hi =>
    obtain ⟨scopes, hok⟩ := hi.check (by simpa using hr)
    exact absurd hok (hno scopes)
  | declined outcome tr hv | denied e' tr now hv | full account tr now hv
  | minted identityId user tr now session grant hv =>
    obtain ⟨scopes, hok⟩ := hv.check (by simpa using hr)
    exact absurd hok (hno scopes)

theorem Ended.of_not_revoked {reply : Option StatusCode} (hr : .revokeReply reply ∈ tr)
    (he : revokeGithubToken reply = .error e) : result = .error .tokenRevocationFailed ∧
      (∀ other n, .recorded other n ∉ tr) ∧ ∀ session, .minted session ∉ tr := by
  have hno : revokeGithubToken reply ≠ .ok () := by
    intro hok
    rw [he] at hok
    cases hok
  cases h with
  | invalid | refused | rejected => simp at hr
  | notRevoked outcome tr reply' e' hi he' =>
    refine ⟨by rw [revokeGithubToken_error he'], fun other n => ?_, fun session => ?_⟩
    · simp [hi.not_recorded]
    · cases hi <;> simp
  | declined outcome tr hv | denied e' tr now hv | full account tr now hv
  | minted identityId user tr now session grant hv =>
    exact absurd (hv.revoked (by simpa using hr)) hno

theorem Ended.of_revoked {reply : Option StatusCode} (hr : .revokeReply reply ∈ tr)
    (hok : revokeGithubToken reply = .ok ()) :
    (∃ now, .recorded token now ∈ tr) ∨ result = .error .replayCacheUnavailable := by
  cases h with
  | invalid | refused | rejected => simp at hr
  | notRevoked outcome tr reply' e hi he =>
    have hreply : reply = reply' := by simpa [hi.no_revokeReply] using hr
    rw [← hreply, hok] at he
    cases he
  | declined => exact .inr rfl
  | denied e tr now | full account tr now | minted identityId user tr now =>
    exact .inl ⟨now, by simp⟩

/-- Once the token is recorded, the outcome of the lookup is what counts. -/
theorem Ended.original (hr : .recorded other n ∈ tr) (hi : .identified (.error e) ∈ tr) :
    result = .error e := by
  cases h with
  | invalid | refused | rejected => simp at hr
  | notRevoked outcome tr reply e hi' => simp [hi'.not_recorded] at hr
  | declined outcome tr hv => simp [hv.not_recorded] at hr
  | denied e' tr now hv =>
    have he := hv.outcome_eq (by simpa using hi)
    cases he
    rfl
  | full account tr now hv =>
    have he := hv.outcome_eq (by simpa using hi)
    cases he
  | minted identityId user tr now session grant hv =>
    have he := hv.outcome_eq (by simpa using hi)
    cases he

theorem Ended.of_declined (hd : .declined ∈ tr) :
    result = .error .replayCacheUnavailable ∧ ∀ session, .minted session ∉ tr := by
  cases h with
  | invalid | refused | rejected => simp at hd
  | notRevoked outcome tr reply e hi => cases hi <;> simp at hd
  | declined outcome tr hv =>
    exact ⟨rfl, fun session => by simp [hv.not_minted]⟩
  | denied e tr now hv | full account tr now hv | minted identityId user tr now session grant hv =>
    simp [hv.not_declined] at hd

theorem Ended.not_minted (he : result = .error e) (session : GithubAccountSession) :
    .minted session ∉ tr := by
  cases h with
  | invalid | refused | rejected => simp
  | notRevoked outcome tr reply e hi => cases hi <;> simp
  | declined outcome tr hv | denied e tr now hv | full account tr now hv => simp [hv.not_minted]
  | minted => cases he

/-- Only the cache itself refuses a token as replayed. -/
theorem Ended.refused_mem (he : result = .error .tokenReplayed) : .refused token ∈ tr := by
  cases h with
  | invalid e hne => exact absurd (Except.error.inj he) hne
  | refused => exact List.mem_singleton_self _
  | rejected reply e hc => exact absurd (Except.error.inj he) (checkGithubOAuthToken_error hc)
  | notRevoked outcome tr reply e hi hr =>
    rw [revokeGithubToken_error hr] at he
    cases he
  | denied e tr now hv =>
    obtain ⟨tr₀, reply, hi, -⟩ := hv
    generalize hout : Except.error e = outcome at hi
    cases hi with
    | noScope =>
      cases hout
      cases he
    | lookedUp reply scopes reply' =>
      exact absurd (Except.error.inj he) (githubAccountFromToken_error hout.symm)
  | declined | full | minted => cases he

end Ended

/-! ## What a call keeps -/

theorem DeviceStep.token?_eq {s s' : DeviceShared} {pc pc' : DevicePc} {input : DeviceIn}
    (hs : DeviceStep self s pc input s' pc') : pc'.token? = pc.token? := by
  cases hs with
  | cancel pc token ha =>
    cases pc with
    | idle | entered | beginning | granted | revoked | consuming | minting | dropping | done =>
      cases ha
    | sendCheck | checking | sendUser | lookingUp | sendRevoke | revoking | inserting =>
      exact ha.symm
  | _ => rfl

/-- A call keeps its token. -/
theorem token_kept (ht : (t.calls c).token? = some token) (hrun : self.deviceSys.run t bs = some v) :
    (v.calls c).token? = some token := by
  refine Sys.run_keeps (P := fun t => (t.calls c).token? = some token) ?_ ht hrun
  intro t a u ht hu
  rcases device_cases hu with
    ⟨d, other, rfl, hidle, rfl⟩ | ⟨d, input, shared, pc, rfl, hs, rfl⟩ | ⟨_, -, rfl⟩ | ⟨-, rfl⟩
  · have hcd : c ≠ d := by
      rintro rfl
      rw [hidle] at ht
      cases ht
    show (Function.update t.calls d _ c).token? = _
    rw [Function.update_of_ne hcd]
    exact ht
  · show (Function.update t.calls d pc c).token? = _
    by_cases hcd : c = d
    · subst hcd
      rw [Function.update_self, hs.token?_eq]
      exact ht
    · rw [Function.update_of_ne hcd]
      exact ht
  · exact ht
  · exact ht

/-- A call that has returned does nothing more. -/
theorem done_kept {r : DeviceResult} (ht : t.calls c = .done token r)
    (hrun : self.deviceSys.run t bs = some v) :
    v.calls c = .done token r ∧ self.deviceHistory c t bs = [] := by
  refine Sys.run_induction (P := fun bs v => v.calls c = .done token r ∧
    self.deviceHistory c t bs = []) ⟨ht, rfl⟩ ?_ bs v hrun
  intro bs v a u hv ih hu
  obtain ⟨hdone, hnil⟩ := ih
  rw [deviceHistory_snoc hv hu, hnil, List.nil_append]
  rcases device_cases hu with
    ⟨d, other, rfl, hidle, rfl⟩ | ⟨d, input, shared, pc, rfl, hs, rfl⟩ | ⟨_, rfl, rfl⟩ | ⟨rfl, rfl⟩
  · have hcd : c ≠ d := by
      rintro rfl
      rw [hidle] at hdone
      cases hdone
    exact ⟨(Function.update_of_ne hcd _ _).trans hdone, rfl⟩
  · by_cases hcd : c = d
    · subst hcd
      rw [hdone] at hs
      cases hs with
      | cancel pc token ha => cases ha
    · exact ⟨(Function.update_of_ne hcd _ _).trans hdone, if_neg fun e => hcd e.symm⟩
  · exact ⟨hdone, rfl⟩
  · exact ⟨hdone, rfl⟩

/-! ## The cache of used tokens -/

/-- Where a call finds the cache full, its own token is not in it, and it is turned down. -/
theorem declined_of_full {now₀ : Int} (hrun : self.deviceSys.run (.new now₀) as = some t)
    (h : self.deviceSys.Did (.new now₀) (FindsFull c) as) :
    .declined ∈ self.deviceHistory c (.new now₀) as := by
  obtain ⟨pre, a, post, v, u, rfl, hv, hu, ⟨rfl, token, outcome, now, hpc, hfull⟩⟩ := h
  have hnew : v.shared.replay.data.used.lookup (self.key token) = none := by
    have hrole : (abstractReplay self v (recordedLog self (.new now₀) pre)).roles c =
        .recording (self.key token) now := by
      show (v.calls c).role self = _
      rw [hpc]
      rfl
    exact ((run_singleUse hv).recording c _ _ hrole).1
  have hevent : .declined ∈ self.deviceEvents c v (.call c .go) u := by
    show _ ∈ ite _ _ _
    rw [if_pos rfl, hpc]
    unfold Authenticator.ownEvents
    dsimp only
    rw [markConsumed_full hfull hnew]
    exact List.mem_singleton_self _
  exact Sys.mem_trace_of_did hrun ⟨pre, _, post, v, u, rfl, hv, hu, hevent⟩

/-- Who refuses a token finds another call that has it reserved, or one that recorded it. -/
theorem refused_by_call {now₀ : Int} (hv : self.deviceSys.run (.new now₀) as = some v) {input : DeviceIn}
    (hu : self.deviceSys.step v (.call c input) = some u)
    (h : .refused token ∈ self.deviceEvents c v (.call c input) u) :
    ∃ d other, d ≠ c ∧ self.key other = self.key token ∧ (v.calls d).token? = some other ∧
      ((∃ r, v.calls d = .done other r) →
        ∃ n, .recorded other n ∈ self.deviceHistory d (.new now₀) as) := by
  have hown : .refused token ∈ self.ownEvents v.shared u.shared (v.calls c) input := by
    have h : _ ∈ ite _ _ _ := h
    rw [if_pos rfl] at h
    exact h
  obtain ⟨now, hpc, hb⟩ := ownEvents_refused hown
  rcases beginDeviceTokenUse_error (Prod.ext hb rfl) with ⟨he, -⟩ | ⟨-, hpoisoned, hmem, -⟩
  · cases he
  have hinv := run_singleUse hv
  rcases hmem with hused | hin
  · obtain ⟨e, he⟩ := Map.mem_iff_lookup.mp hused
    obtain ⟨d, n, other, hkey, hr⟩ := hinv.source (self.key token) e (lookup_of_purge he)
    have htoken := (run_traceOk (c := d) rfl hv).recorded_token hr
    refine ⟨d, other, ?_, hkey, htoken, fun _ => ⟨n, hr⟩⟩
    rintro rfl
    have hnil : self.deviceHistory d (.new now₀) as = [] := by
      have htrace := run_traceOk (c := d) rfl hv
      rw [hpc] at htrace
      exact htrace
    rw [hnil] at hr
    cases hr
  · obtain ⟨d, hd⟩ := hinv.owned hpoisoned _ hin
    have hrole : ((v.calls d).role self).key = some (self.key token) := hd
    have hdone : ∀ other r, v.calls d ≠ .done other r := by
      intro other r he
      rw [he] at hrole
      cases hrole
    obtain ⟨other, hother, hkey⟩ : ∃ other, (v.calls d).token? = some other ∧
        self.key other = self.key token := by
      revert hrole
      cases v.calls d with
      | idle | entered | beginning | done => intro hrole; cases hrole
      | sendCheck other | checking other | granted other | sendUser other | lookingUp other
      | sendRevoke other | revoking other | revoked other | consuming other | minting other
      | inserting other | dropping other =>
        intro hrole
        exact ⟨other, rfl, Option.some.inj hrole⟩
    refine ⟨d, other, ?_, hkey, hother, ?_⟩
    · rintro rfl
      rw [hpc] at hrole
      cases hrole
    · rintro ⟨r, hr⟩
      have htoken : (v.calls d).token? = some other := hother
      exact absurd hr (hdone other r)

/-- **A token that was not recorded can be tried again.** The call `c` has returned without
recording its token; no other call but a later one, `d`, is about this token. Then `d` is not
refused. -/
theorem not_refused_again {now₀ : Int} {d : Nat} {r : DeviceResult}
    {result : Except OAuthFlowError OAuthSessionGrant}
    (hrun : self.deviceSys.run (.new now₀) as = some t) (hdone : t.calls c = .done token r)
    (hno : ∀ other n, .recorded other n ∉ self.deviceHistory c (.new now₀) as)
    (hidle : t.calls d = .idle) (hlater : self.deviceSys.run t bs = some v)
    (hresult : v.calls d = .done token (some result))
    (halone : ∀ d' other, d' ≠ c → d' ≠ d → (v.calls d').token? = some other →
      self.key other ≠ self.key token) :
    result ≠ .error .tokenReplayed := by
  intro he
  have htrace := run_traceOk hidle hlater
  rw [hresult] at htrace
  have hrefused : .refused token ∈ self.deviceHistory d t bs := Ended.refused_mem htrace he
  obtain ⟨pre, a, post, w, u, rfl, hw, hu, hevent⟩ := Sys.did_of_mem_trace hlater hrefused
  have hwnew : self.deviceSys.run (.new now₀) (as ++ pre) = some w := by
    rw [Sys.run_append, hrun]
    exact hw
  have hrest : self.deviceSys.run w (a :: post) = some v := by
    rw [Sys.run_append, hw] at hlater
    exact hlater
  cases a with
  | start | tick | poison => cases hevent
  | call d' input =>
    have hd : d' = d := by
      by_contra hne
      have hevent : _ ∈ ite _ _ _ := hevent
      rw [if_neg hne] at hevent
      cases hevent
    subst hd
    obtain ⟨x, other, hx, hkey, htoken, hrecorded⟩ := refused_by_call hwnew hu hevent
    have hxtoken := token_kept htoken hrest
    by_cases hxc : x = c
    · subst hxc
      obtain ⟨hxdone, hnil⟩ := done_kept hdone hw
      rw [hxdone] at htoken
      cases htoken
      obtain ⟨n, hn⟩ := hrecorded ⟨r, hxdone⟩
      have hsame : self.deviceHistory x (.new now₀) (as ++ pre) =
          self.deviceHistory x (.new now₀) as := by
        have happ : self.deviceHistory x (.new now₀) (as ++ pre) =
            self.deviceHistory x (.new now₀) as ++ self.deviceHistory x t pre :=
          Sys.trace_append hrun
        rw [happ, hnil, List.append_nil]
      exact hno token n (hsame ▸ hn)
    · exact halone x other hxc hx hxtoken hkey

/-! ## Fail-closed -/

/-- What the call `c` on `token` has done, now that it returned `result` in the state `t`. -/
structure FailsClosed (self : Authenticator Key) (now₀ : Int) (as : List DeviceAct) (t : DeviceSt)
    (c : Nat) (token : String) (result : Except OAuthFlowError OAuthSessionGrant) : Prop where
  /-- A token that GitHub vouched for was sent to be revoked. -/
  revokes : ∀ reply scopes, .checkReply reply ∈ self.deviceHistory c (.new now₀) as →
    checkGithubOAuthToken self.github reply = .ok scopes →
    .sent (.revokeToken token) ∈ self.deviceHistory c (.new now₀) as
  /-- Any other was not, and left nothing behind. -/
  rejected : ∀ reply e, .checkReply reply ∈ self.deviceHistory c (.new now₀) as →
    checkGithubOAuthToken self.github reply = .error e →
    (∀ other, .sent (.revokeToken other) ∉ self.deviceHistory c (.new now₀) as) ∧
      ¬ self.deviceSys.Did (.new now₀) (GainsUsed c) as ∧
      ¬ self.deviceSys.Did (.new now₀) (GainsSession c) as
  /-- A failed revocation is the error, and the token can be tried again. -/
  notRevoked : ∀ reply e, .revokeReply reply ∈ self.deviceHistory c (.new now₀) as →
    revokeGithubToken reply = .error e →
    result = .error .tokenRevocationFailed ∧
      ¬ self.deviceSys.Did (.new now₀) (GainsUsed c) as ∧
      ¬ self.deviceSys.Did (.new now₀) (GainsSession c) as ∧
      ∀ d bs v result', t.calls d = .idle → self.deviceSys.run t bs = some v →
        v.calls d = .done token (some result') →
        (∀ d' other, d' ≠ c → d' ≠ d → (v.calls d').token? = some other →
          self.key other ≠ self.key token) →
        result' ≠ .error .tokenReplayed
  /-- A revoked token is recorded, unless the cache declines it. -/
  revoked : ∀ reply, .revokeReply reply ∈ self.deviceHistory c (.new now₀) as →
    revokeGithubToken reply = .ok () →
    (∃ now, .recorded token now ∈ self.deviceHistory c (.new now₀) as) ∨
      result = .error .replayCacheUnavailable
  /-- What is recorded stays in the cache for its time, whatever the lookup gave; and an error of
  the lookup is the one returned. -/
  recorded : ∀ now, .recorded token now ∈ self.deviceHistory c (.new now₀) as →
    ((∃ until_, t.shared.replay.data.used.lookup (self.key token) = some until_ ∧
        now + deviceTokenReplayTtl ≤ until_) ∨ now + deviceTokenReplayTtl ≤ t.shared.now) ∧
      ∀ e, .identified (.error e) ∈ self.deviceHistory c (.new now₀) as → result = .error e
  /-- A full cache declines the token. -/
  full : self.deviceSys.Did (.new now₀) (FindsFull c) as →
    result = .error .replayCacheUnavailable ∧
      ¬ self.deviceSys.Did (.new now₀) (GainsSession c) as
  /-- Who gets an error gets no session. -/
  error : ∀ e, result = .error e → ¬ self.deviceSys.Did (.new now₀) (GainsSession c) as

/-- **Every exchange fails closed**, in every interleaving and whatever GitHub answers. -/
theorem exchange_fails_closed {now₀ : Int} (hrun : self.deviceSys.run (.new now₀) as = some t)
    (hdone : t.calls c = .done token (some result)) :
    FailsClosed self now₀ as t c token result := by
  have hended : Ended self token result (self.deviceHistory c (.new now₀) as) := by
    have htrace := run_traceOk (c := c) rfl hrun
    rw [hdone] at htrace
    exact htrace
  have hused : (∀ other n, .recorded other n ∉ self.deviceHistory c (.new now₀) as) →
      ¬ self.deviceSys.Did (.new now₀) (GainsUsed c) as := by
    intro hno hdid
    obtain ⟨other, n, hr⟩ := recorded_of_gains hrun hdid
    exact hno other n hr
  have hsession : (∀ session, .minted session ∉ self.deviceHistory c (.new now₀) as) →
      ¬ self.deviceSys.Did (.new now₀) (GainsSession c) as := by
    intro hno hdid
    obtain ⟨session, hm⟩ := minted_of_gains hrun hdid
    exact hno session hm
  constructor
  case revokes => exact fun reply scopes hr hc => hended.revokes hr hc
  case rejected =>
    intro reply e hr hc
    obtain ⟨-, htr⟩ := hended.of_rejected hr hc
    refine ⟨?_, hused ?_, hsession ?_⟩
    · simp [htr]
    · simp [htr]
    · simp [htr]
  case notRevoked =>
    intro reply e hr he
    obtain ⟨hresult, hno, hnot⟩ := hended.of_not_revoked hr he
    refine ⟨hresult, hused hno, hsession hnot, ?_⟩
    intro d bs v result' hidle hlater hresult' halone
    exact not_refused_again hrun hdone hno hidle hlater hresult' halone
  case revoked => exact fun reply hr hok => hended.of_revoked hr hok
  case recorded =>
    intro now hr
    refine ⟨?_, fun e hi => hended.original hr hi⟩
    exact (run_singleUse hrun).stored c (self.key token) now ⟨token, rfl, hr⟩
  case full =>
    intro hfull
    obtain ⟨hresult, hnot⟩ := hended.of_declined (declined_of_full hrun hfull)
    exact ⟨hresult, hsession hnot⟩
  case error => exact fun e he => hsession (hended.not_minted he)

/-- GitHub does not answer the revocation; a second exchange of the token then comes through. -/
theorem example_exchange_retried : ∃ t,
    exampleAuthenticator.deviceSys.run (.new 0) (exampleRevocation 1 none ++ [.call 1 .go]) = some t ∧
    FailsClosed exampleAuthenticator 0 (exampleRevocation 1 none ++ [.call 1 .go]) t 1
      exampleBootstrapToken (.error .tokenRevocationFailed) ∧
    (exampleAuthenticator.deviceSys.run t (exampleExchange ++ [.call 0 .go])).isSome = true := by
  obtain ⟨t, hrun, hdone, hretry⟩ : ∃ t,
      exampleAuthenticator.deviceSys.run (.new 0) (exampleRevocation 1 none ++ [.call 1 .go]) =
        some t ∧
      t.calls 1 = .done exampleBootstrapToken (some (.error .tokenRevocationFailed)) ∧
      (exampleAuthenticator.deviceSys.run t (exampleExchange ++ [.call 0 .go])).isSome = true :=
    ⟨_, rfl, rfl, by decide⟩
  exact ⟨t, hrun, exchange_fails_closed hrun hdone, hretry⟩

end MicrotunSigner
