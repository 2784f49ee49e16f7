import MicrotunSigner.Auth.Device

/-!
# What an exchange does

The events of a call, in order: its requests and the replies, the outcome of the account lookup,
and what it did to the replay cache and to the sessions. Each place of the program fixes the events
up to there (`TraceOk`), whatever the other calls do.

`DeviceStep` takes a step apart; the proofs about steps are by cases on it.
-/

namespace MicrotunSigner

open Lib Lib.Text

/-- A request to GitHub, with the token it is about. -/
inductive GithubRequest where
  | checkToken (token : String)
  | user (token : String)
  | revokeToken (token : String)
  deriving DecidableEq

inductive DeviceEvent where
  /-- The token was neither reserved nor used, and is reserved now. -/
  | reserved (token : String)
  | refused (token : String)
  | sent (request : GithubRequest)
  | checkReply (reply : Option (HttpResponse GithubTokenCheckResponse))
  | userReply (reply : Option (HttpResponse GithubUserResponse))
  | identified (outcome : Except OAuthFlowError (String × GithubUserResponse))
  | revokeReply (reply : Option StatusCode)
  /-- The token is in the cache of used tokens, for a time from the reading `now` on. -/
  | recorded (token : String) (now : Int)
  | declined
  /-- The session is in the store. -/
  | minted (session : GithubAccountSession)

variable {Key : Type}

section Steps

variable (self : Authenticator Key)

/-- The token of a call. -/
def DevicePc.token? : DevicePc → Option String
  | .idle => none
  | .entered token | .beginning token _ | .sendCheck token | .checking token | .granted token _
  | .sendUser token _ | .lookingUp token _ | .sendRevoke token _ | .revoking token _
  | .revoked token _ | .consuming token _ _ | .minting token _ _ | .inserting token _ _ _
  | .dropping token _ | .done token _ => some token

/-- The call awaits something, and can be cancelled. -/
def DevicePc.awaits : DevicePc → Option String
  | .sendCheck token | .checking token | .sendUser token _ | .lookingUp token _
  | .sendRevoke token _ | .revoking token _ | .inserting token _ _ _ => some token
  | _ => none

/-- The steps of a call. -/
inductive DeviceStep (s : DeviceShared) : DevicePc → DeviceIn → DeviceShared → DevicePc → Prop where
  | enter (token) : DeviceStep s (.entered token) .go s (.beginning token s.now)
  | refuse (token now e replay) :
      beginDeviceTokenUse (self.key token) now s.replay = (.error e, replay) →
      DeviceStep s (.beginning token now) .go { s with replay } (.done token (some (.error e)))
  | reserve (token now replay) :
      beginDeviceTokenUse (self.key token) now s.replay = (.ok (), replay) →
      DeviceStep s (.beginning token now) .go { s with replay } (.sendCheck token)
  | sendCheck (token) : DeviceStep s (.sendCheck token) .go s (.checking token)
  | rejected (token reply e) : checkGithubOAuthToken self.github reply = .error e →
      DeviceStep s (.checking token) (.check reply) s (.dropping token (some (.error e)))
  | accepted (token reply scopes) : checkGithubOAuthToken self.github reply = .ok scopes →
      DeviceStep s (.checking token) (.check reply) s (.granted token scopes)
  | lookUp (token scopes) : scopeGrantsReadUser scopes = true →
      DeviceStep s (.granted token scopes) .go s (.sendUser token scopes)
  | noScope (token scopes) : scopeGrantsReadUser scopes = false →
      DeviceStep s (.granted token scopes) .go s (.sendRevoke token (.error .scopeNotGranted))
  | sendUser (token scopes) : DeviceStep s (.sendUser token scopes) .go s (.lookingUp token scopes)
  | identified (token scopes reply) : DeviceStep s (.lookingUp token scopes) (.user reply) s
      (.sendRevoke token (githubAccountFromToken self.identities scopes (resolveGithubUser reply)))
  | sendRevoke (token outcome) :
      DeviceStep s (.sendRevoke token outcome) .go s (.revoking token outcome)
  | notRevoked (token outcome reply e) : revokeGithubToken reply = .error e →
      DeviceStep s (.revoking token outcome) (.revoke reply) s (.dropping token (some (.error e)))
  | revoked (token outcome reply) : revokeGithubToken reply = .ok () →
      DeviceStep s (.revoking token outcome) (.revoke reply) s (.revoked token outcome)
  | read (token outcome) :
      DeviceStep s (.revoked token outcome) .go s (.consuming token outcome s.now)
  | decline (token outcome now e replay) :
      markConsumed (self.key token) now s.replay = (.error e, replay) →
      DeviceStep s (.consuming token outcome now) .go { s with replay }
        (.dropping token (some (.error e)))
  | recordDenied (token e now replay) :
      markConsumed (self.key token) now s.replay = (.ok (), replay) →
      DeviceStep s (.consuming token (.error e) now) .go { s with replay }
        (.dropping token (some (.error e)))
  | record (token identityId user now replay) :
      markConsumed (self.key token) now s.replay = (.ok (), replay) →
      DeviceStep s (.consuming token (.ok (identityId, user)) now) .go { s with replay }
        (.minting token identityId user)
  | draw (token identityId user bytes) :
      DeviceStep s (.minting token identityId user) (.random bytes) s
        (.inserting token s.now (sessionToken bytes) (newSession self.github s.now identityId user))
  | full (token now sessionToken session e sessions) :
      insertSession now (self.key sessionToken) session s.sessions = (.error e, sessions) →
      DeviceStep s (.inserting token now sessionToken session) .go { s with sessions }
        (.dropping token (some (.error e)))
  | insert (token now sessionToken session sessions) :
      insertSession now (self.key sessionToken) session s.sessions = (.ok (), sessions) →
      DeviceStep s (.inserting token now sessionToken session) .go { s with sessions }
        (.dropping token (some (.ok ⟨sessionToken, self.github.oauthSessionTtlSeconds⟩)))
  | drop (token result) : DeviceStep s (.dropping token result) .go
      { s with replay := dropGuard (self.key token) s.replay } (.done token result)
  | cancel (pc token) : DevicePc.awaits pc = some token →
      DeviceStep s pc .cancel s (.dropping token none)

variable {self} {s s' : DeviceShared} {pc pc' : DevicePc} {input : DeviceIn}

theorem deviceStep_of_eq (h : self.stepDevice s pc input = some (s', pc')) :
    DeviceStep self s pc input s' pc' := by
  unfold Authenticator.stepDevice at h
  split at h
  · cases h
    exact .enter _
  · rename_i token now
    rcases hb : beginDeviceTokenUse (self.key token) now s.replay with ⟨_ | _, replay⟩
    · rw [hb] at h
      cases h
      exact .refuse _ _ _ _ hb
    · rw [hb] at h
      cases h
      exact .reserve _ _ _ hb
  · cases h
    exact .sendCheck _
  · cases h
    exact .cancel _ _ rfl
  · cases h
    split
    · exact .rejected _ _ _ ‹_›
    · exact .accepted _ _ _ ‹_›
  · cases h
    exact .cancel _ _ rfl
  · cases h
    split
    · exact .lookUp _ _ ‹_›
    · rename_i hscope
      exact .noScope _ _ (Bool.eq_false_iff.mpr hscope)
  · cases h
    exact .sendUser _ _
  · cases h
    exact .cancel _ _ rfl
  · cases h
    exact .identified _ _ _
  · cases h
    exact .cancel _ _ rfl
  · cases h
    exact .sendRevoke _ _
  · cases h
    exact .cancel _ _ rfl
  · cases h
    split
    · exact .notRevoked _ _ _ _ ‹_›
    · exact .revoked _ _ _ ‹_›
  · cases h
    exact .cancel _ _ rfl
  · cases h
    exact .read _ _
  · rename_i token outcome now
    rcases hm : markConsumed (self.key token) now s.replay with ⟨_ | _, replay⟩
    · rw [hm] at h
      cases h
      exact .decline _ _ _ _ _ hm
    · rw [hm] at h
      cases outcome with
      | error e =>
        cases h
        exact .recordDenied _ _ _ _ hm
      | ok account =>
        cases h
        exact .record _ _ _ _ _ hm
  · cases h
    exact .draw _ _ _ _
  · rename_i token now sessionToken session
    rcases hi : insertSession now (self.key sessionToken) session s.sessions with ⟨_ | _, sessions⟩
    · rw [hi] at h
      cases h
      exact .full _ _ _ _ _ _ hi
    · rw [hi] at h
      cases h
      exact .insert _ _ _ _ _ hi
  · cases h
    exact .cancel _ _ rfl
  · cases h
    exact .drop _ _
  · cases h

end Steps

/-! ## The critical sections -/

section Sections

variable {key : Sha256Digest} {now : Int} {replay replay' : Mutex DeviceTokenReplay}
  {e : OAuthFlowError}

theorem beginDeviceTokenUse_ok (h : beginDeviceTokenUse key now replay = (.ok (), replay')) :
    key ∉ replay.data.inFlight ∧ key ∉ replay.data.used.purge id now ∧
      replay' = { replay with data :=
        ⟨insert key replay.data.inFlight, replay.data.used.purge id now⟩ } := by
  unfold beginDeviceTokenUse at h
  split at h
  · cases h
  · rename_i data hlock
    obtain ⟨-, rfl⟩ := Mutex.lock_eq_some.mp hlock
    dsimp only at h
    split at h
    · cases h
    · rename_i hfree
      rw [Bool.or_eq_true, not_or, Option.not_isSome_iff_eq_none, decide_eq_true_eq] at hfree
      cases h
      exact ⟨hfree.2, Map.lookup_eq_none.mp hfree.1, rfl⟩

theorem beginDeviceTokenUse_error (h : beginDeviceTokenUse key now replay = (.error e, replay')) :
    e = .replayCacheUnavailable ∧ replay' = replay ∨
    e = .tokenReplayed ∧ replay.poisoned = false ∧
      (key ∈ replay.data.used.purge id now ∨ key ∈ replay.data.inFlight) ∧
      replay' = { replay with data := { replay.data with used := replay.data.used.purge id now } } := by
  unfold beginDeviceTokenUse at h
  split at h
  · cases h
    exact .inl ⟨rfl, rfl⟩
  · rename_i data hlock
    obtain ⟨hp, rfl⟩ := Mutex.lock_eq_some.mp hlock
    dsimp only at h
    split at h
    · rename_i hused
      rw [Bool.or_eq_true, decide_eq_true_eq, Option.isSome_iff_exists] at hused
      cases h
      exact .inr ⟨rfl, hp, hused.imp_left Map.mem_iff_lookup.mpr, rfl⟩
    · cases h

theorem markConsumed_ok (h : markConsumed key now replay = (.ok (), replay')) :
    replay' = { replay with data := { replay.data with
      used := (replay.data.used.purge id now).insert key (now + deviceTokenReplayTtl) } } := by
  unfold markConsumed at h
  split at h
  · cases h
  · rename_i data hlock
    obtain ⟨-, rfl⟩ := Mutex.lock_eq_some.mp hlock
    dsimp only at h
    split at h
    · cases h
    · cases h
      rfl

theorem markConsumed_error (h : markConsumed key now replay = (.error e, replay')) :
    e = .replayCacheUnavailable ∧ (replay' = replay ∨
      replay' = { replay with data := { replay.data with
        used := replay.data.used.purge id now } }) := by
  unfold markConsumed at h
  split at h
  · cases h
    exact ⟨rfl, .inl rfl⟩
  · rename_i data hlock
    obtain ⟨-, rfl⟩ := Mutex.lock_eq_some.mp hlock
    dsimp only at h
    split at h
    · cases h
      exact ⟨rfl, .inr rfl⟩
    · cases h

/-- A cache full of unexpired entries accepts no new token. -/
theorem markConsumed_full (hfull : maxUsedDeviceTokens ≤ (replay.data.used.purge id now).size)
    (hnew : replay.data.used.lookup key = none) :
    (markConsumed key now replay).1 = .error .replayCacheUnavailable := by
  unfold markConsumed
  split
  · rfl
  · rename_i data hlock
    obtain ⟨-, rfl⟩ := Mutex.lock_eq_some.mp hlock
    have hnone : (replay.data.used.purge id now).lookup key = none := by
      rw [Map.lookup_purge]
      unfold Map.live
      rw [hnew]
      rfl
    rw [if_pos]
    simp [hnone, hfull]

variable {newKey : Sha256Digest} {session : GithubAccountSession} {sessions sessions' : OAuthSessions}

theorem insertSession_ok (h : insertSession now newKey session sessions = (.ok (), sessions')) :
    sessions' = (sessions.purge GithubAccountSession.expiresAt now).insert newKey session := by
  unfold insertSession at h
  dsimp only at h
  split at h
  · cases h
  · cases h
    rfl

theorem insertSession_error (h : insertSession now newKey session sessions = (.error e, sessions')) :
    e = .sessionCapacity ∧ sessions' = sessions.purge GithubAccountSession.expiresAt now := by
  unfold insertSession at h
  dsimp only at h
  split at h
  · cases h
    exact ⟨rfl, rfl⟩
  · cases h

end Sections

/-! ## The events of a call -/

section Events

variable (self : Authenticator Key)

/-- The events of one step of a call. -/
def Authenticator.ownEvents (s s' : DeviceShared) : DevicePc → DeviceIn → List DeviceEvent
  | .beginning token now, .go => match (beginDeviceTokenUse (self.key token) now s.replay).1 with
    | .ok () =>
      if self.key token ∉ s.replay.data.inFlight ∧ s'.replay.data.used.lookup (self.key token) = none ∧
          self.key token ∈ s'.replay.data.inFlight then [.reserved token] else []
    | .error .tokenReplayed => [.refused token]
    | .error _ => []
  | .sendCheck token, .go => [.sent (.checkToken token)]
  | .checking _, .check reply => [.checkReply reply]
  | .granted _ scopes, .go =>
    if scopeGrantsReadUser scopes then [] else [.identified (.error .scopeNotGranted)]
  | .sendUser token _, .go => [.sent (.user token)]
  | .lookingUp _ scopes, .user reply => [.userReply reply,
    .identified (githubAccountFromToken self.identities scopes (resolveGithubUser reply))]
  | .sendRevoke token _, .go => [.sent (.revokeToken token)]
  | .revoking _ _, .revoke reply => [.revokeReply reply]
  | .consuming token _ now, .go => match (markConsumed (self.key token) now s.replay).1 with
    | .ok () =>
      if s'.replay.data.used.lookup (self.key token) = some (now + deviceTokenReplayTtl) then
        [.recorded token now] else []
    | .error _ => [.declined]
  | .inserting _ now sessionToken session, .go =>
    match (insertSession now (self.key sessionToken) session s.sessions).1 with
    | .ok () =>
      if s'.sessions.lookup (self.key sessionToken) = some session then [.minted session] else []
    | .error _ => []
  | _, _ => []

/-- The events of the call `c` in one step of the system. -/
def Authenticator.deviceEvents (c : Nat) (t : DeviceSt) (a : DeviceAct) (u : DeviceSt) :
    List DeviceEvent :=
  match a with
  | .call d input => if d = c then self.ownEvents t.shared u.shared (t.calls c) input else []
  | _ => []

/-- The events of the call `c` in a run. -/
def Authenticator.deviceHistory (c : Nat) (s : DeviceSt) (as : List DeviceAct) : List DeviceEvent :=
  self.deviceSys.trace (self.deviceEvents c) s as

/-- The events up to the outcome of the account lookup. -/
inductive Identified (token : String) :
    Except OAuthFlowError (String × GithubUserResponse) → List DeviceEvent → Prop where
  | noScope (reply scopes) : checkGithubOAuthToken self.github reply = .ok scopes →
      scopeGrantsReadUser scopes = false →
      Identified token (.error .scopeNotGranted) [.reserved token, .sent (.checkToken token),
        .checkReply reply, .identified (.error .scopeNotGranted)]
  | lookedUp (reply scopes reply') : checkGithubOAuthToken self.github reply = .ok scopes →
      scopeGrantsReadUser scopes = true →
      Identified token (githubAccountFromToken self.identities scopes (resolveGithubUser reply'))
        [.reserved token, .sent (.checkToken token), .checkReply reply, .sent (.user token),
          .userReply reply', .identified
            (githubAccountFromToken self.identities scopes (resolveGithubUser reply'))]

/-- The events up to a successful revocation. -/
inductive Revoked (token : String) (outcome : Except OAuthFlowError (String × GithubUserResponse)) :
    List DeviceEvent → Prop where
  | mk (tr reply) : Identified self token outcome tr → revokeGithubToken reply = .ok () →
      Revoked token outcome (tr ++ [.sent (.revokeToken token), .revokeReply reply])

/-- The session is one for this account. -/
structure SessionOf (identityId : String) (user : GithubUserResponse)
    (session : GithubAccountSession) : Prop where
  identityId : session.identityId = identityId
  userId : session.userId = toString user.id.toNat
  login : session.login = user.login

/-- All events of a call, and what it returns. -/
inductive Ended (token : String) :
    Except OAuthFlowError OAuthSessionGrant → List DeviceEvent → Prop where
  | invalid (e) : e ≠ .tokenReplayed → Ended token (.error e) []
  | refused : Ended token (.error .tokenReplayed) [.refused token]
  | rejected (reply e) : checkGithubOAuthToken self.github reply = .error e →
      Ended token (.error e) [.reserved token, .sent (.checkToken token), .checkReply reply]
  | notRevoked (outcome tr reply e) : Identified self token outcome tr →
      revokeGithubToken reply = .error e →
      Ended token (.error e) (tr ++ [.sent (.revokeToken token), .revokeReply reply])
  | declined (outcome tr) : Revoked self token outcome tr →
      Ended token (.error .replayCacheUnavailable) (tr ++ [.declined])
  | denied (e tr now) : Revoked self token (.error e) tr →
      Ended token (.error e) (tr ++ [.recorded token now])
  | full (account tr now) : Revoked self token (.ok account) tr →
      Ended token (.error .sessionCapacity) (tr ++ [.recorded token now])
  | minted (identityId user tr now session grant) : Revoked self token (.ok (identityId, user)) tr →
      SessionOf identityId user session →
      Ended token (.ok grant) (tr ++ [.recorded token now, .minted session])

/-- **The events up to each place of the program.** -/
def TraceOk (tr : List DeviceEvent) : DevicePc → Prop
  | .idle | .entered _ | .beginning _ _ => tr = []
  | .sendCheck token => tr = [.reserved token]
  | .checking token => tr = [.reserved token, .sent (.checkToken token)]
  | .granted token scopes => ∃ reply, checkGithubOAuthToken self.github reply = .ok scopes ∧
      tr = [.reserved token, .sent (.checkToken token), .checkReply reply]
  | .sendUser token scopes => scopeGrantsReadUser scopes = true ∧
      ∃ reply, checkGithubOAuthToken self.github reply = .ok scopes ∧
        tr = [.reserved token, .sent (.checkToken token), .checkReply reply]
  | .lookingUp token scopes => scopeGrantsReadUser scopes = true ∧
      ∃ reply, checkGithubOAuthToken self.github reply = .ok scopes ∧
        tr = [.reserved token, .sent (.checkToken token), .checkReply reply, .sent (.user token)]
  | .sendRevoke token outcome => Identified self token outcome tr
  | .revoking token outcome => ∃ tr₀, Identified self token outcome tr₀ ∧
      tr = tr₀ ++ [.sent (.revokeToken token)]
  | .revoked token outcome | .consuming token outcome _ => Revoked self token outcome tr
  | .minting token identityId user => ∃ tr₀ now, Revoked self token (.ok (identityId, user)) tr₀ ∧
      tr = tr₀ ++ [.recorded token now]
  | .inserting token _ _ session => ∃ identityId user tr₀ now,
      Revoked self token (.ok (identityId, user)) tr₀ ∧ SessionOf identityId user session ∧
        tr = tr₀ ++ [.recorded token now]
  | .dropping token (some result) | .done token (some result) => Ended self token result tr
  | .dropping token none | .done token none => ∀ other now, .recorded other now ∈ tr → other = token

variable {self} {token other : String} {tr : List DeviceEvent} {n : Int}
  {outcome : Except OAuthFlowError (String × GithubUserResponse)}

theorem Identified.not_recorded (h : Identified self token outcome tr) :
    DeviceEvent.recorded other n ∉ tr := by
  cases h <;> simp

theorem Revoked.not_recorded (h : Revoked self token outcome tr) :
    DeviceEvent.recorded other n ∉ tr := by
  obtain ⟨tr₀, reply, hi, -⟩ := h
  simp [hi.not_recorded]

theorem Ended.recorded_token {result : Except OAuthFlowError OAuthSessionGrant}
    (h : Ended self token result tr) (hr : DeviceEvent.recorded other n ∈ tr) : other = token := by
  cases h with
  | invalid e he => cases hr
  | refused => simp at hr
  | rejected reply e he => simp at hr
  | notRevoked outcome tr reply e hi he => simp [hi.not_recorded] at hr
  | declined outcome tr hv => simp [hv.not_recorded] at hr
  | denied e tr now hv =>
    simp only [List.mem_append, hv.not_recorded, List.mem_singleton, DeviceEvent.recorded.injEq,
      false_or] at hr
    exact hr.1
  | full account tr now hv =>
    simp only [List.mem_append, hv.not_recorded, List.mem_singleton, DeviceEvent.recorded.injEq,
      false_or] at hr
    exact hr.1
  | minted identityId user tr now session grant hv hs =>
    simp only [List.mem_append, hv.not_recorded, List.mem_cons, DeviceEvent.recorded.injEq,
      reduceCtorEq, List.not_mem_nil, or_false, false_or] at hr
    exact hr.1

/-- A call records its own token. -/
theorem TraceOk.recorded_token {pc : DevicePc} (h : TraceOk self tr pc)
    (hr : DeviceEvent.recorded other n ∈ tr) : pc.token? = some other := by
  cases pc with
  | idle | entered token | beginning token now | sendCheck token | checking token =>
    have htr : tr = _ := h
    rw [htr] at hr
    simp at hr
  | granted token scopes =>
    obtain ⟨reply, -, rfl⟩ := h
    simp at hr
  | sendUser token scopes =>
    obtain ⟨-, reply, -, rfl⟩ := h
    simp at hr
  | lookingUp token scopes =>
    obtain ⟨-, reply, -, rfl⟩ := h
    simp at hr
  | sendRevoke token outcome => exact absurd hr h.not_recorded
  | revoking token outcome =>
    obtain ⟨tr₀, hi, rfl⟩ := h
    simp [hi.not_recorded] at hr
  | revoked token outcome => exact absurd hr h.not_recorded
  | consuming token outcome now => exact absurd hr h.not_recorded
  | minting token identityId user =>
    obtain ⟨tr₀, now, hv, rfl⟩ := h
    simp only [List.mem_append, hv.not_recorded, List.mem_singleton, DeviceEvent.recorded.injEq,
      false_or] at hr
    rw [hr.1]
    rfl
  | inserting token now sessionToken session =>
    obtain ⟨identityId, user, tr₀, now', hv, -, rfl⟩ := h
    simp only [List.mem_append, hv.not_recorded, List.mem_singleton, DeviceEvent.recorded.injEq,
      false_or] at hr
    rw [hr.1]
    rfl
  | dropping token result =>
    cases result with
    | none => exact congrArg some (h other n hr).symm
    | some result => exact congrArg some (Ended.recorded_token h hr).symm
  | done token result =>
    cases result with
    | none => exact congrArg some (h other n hr).symm
    | some result => exact congrArg some (Ended.recorded_token h hr).symm

theorem revokeGithubToken_error {reply : Option StatusCode} {e : OAuthFlowError}
    (h : revokeGithubToken reply = .error e) : e = .tokenRevocationFailed := by
  cases reply with
  | none =>
    cases h
    rfl
  | some status =>
    have h : bailIf (!(status == .noContent || status == .notFound)) .tokenRevocationFailed =
        .error e := h
    unfold bailIf at h
    split at h
    · cases h
      rfl
    · cases h

theorem revokeGithubToken_ok {reply : Option StatusCode} (h : revokeGithubToken reply = .ok ()) :
    reply = some .noContent ∨ reply = some .notFound := by
  simp only [revokeGithubToken, Except.bind_eq_ok, okOr_eq_ok, bailIf_eq_ok, Bool.not_eq_false',
    Bool.or_eq_true, beq_iff_eq] at h
  obtain ⟨status, rfl, rfl | rfl⟩ := h
  · exact .inl rfl
  · exact .inr rfl

/-- What is awaited has recorded nothing, or is the lock of the sessions. -/
theorem TraceOk.cancel {pc : DevicePc} (h : TraceOk self tr pc) (ha : pc.awaits = some token) :
    TraceOk self tr (.dropping token none) := by
  intro other now hr
  have ht : pc.token? = some token := by
    cases pc with
    | idle | entered | beginning | granted | revoked | consuming | minting | dropping | done =>
      cases ha
    | sendCheck | checking | sendUser | lookingUp | sendRevoke | revoking | inserting => exact ha
  have hother := h.recorded_token hr
  rw [ht] at hother
  exact (Option.some.inj hother).symm

variable {s s' : DeviceShared} {pc pc' : DevicePc} {input : DeviceIn}

/-- A token that is recorded is in the cache from then on. -/
theorem ownEvents_record {replay : Mutex DeviceTokenReplay}
    (hm : markConsumed (self.key token) n s.replay = (.ok (), replay)) :
    self.ownEvents s { s with replay } (.consuming token outcome n) .go = [.recorded token n] := by
  unfold Authenticator.ownEvents
  dsimp only
  rw [hm]
  dsimp only
  rw [if_pos]
  rw [markConsumed_ok hm]
  show ((s.replay.data.used.purge id n).insert _ _).lookup _ = _
  rw [Map.lookup_insert, if_pos rfl]

/-- **One step of a call.** -/
theorem TraceOk.step (h : TraceOk self tr pc) (hs : DeviceStep self s pc input s' pc') :
    TraceOk self (tr ++ self.ownEvents s s' pc input) pc' := by
  cases hs with
  | enter token =>
    have htr : tr = [] := h
    rw [htr]
    rfl
  | refuse token now e replay hb =>
    have htr : tr = [] := h
    rw [htr, List.nil_append]
    unfold Authenticator.ownEvents
    dsimp only
    rw [hb]
    rcases beginDeviceTokenUse_error hb with ⟨rfl, -⟩ | ⟨rfl, -⟩
    · exact .invalid _ (by simp)
    · exact .refused
  | reserve token now replay hb =>
    have htr : tr = [] := h
    obtain ⟨hfree, hunused, hreplay⟩ := beginDeviceTokenUse_ok hb
    rw [htr, List.nil_append]
    show self.ownEvents _ _ _ _ = _
    unfold Authenticator.ownEvents
    dsimp only
    rw [hb]
    dsimp only
    rw [if_pos]
    rw [hreplay]
    exact ⟨hfree, Map.lookup_eq_none.mpr hunused, Finset.mem_insert_self _ _⟩
  | sendCheck token =>
    have htr : tr = _ := h
    rw [htr]
    rfl
  | rejected token reply e hc =>
    have htr : tr = _ := h
    rw [htr]
    exact .rejected reply e hc
  | accepted token reply scopes hc =>
    have htr : tr = _ := h
    rw [htr]
    exact ⟨reply, hc, rfl⟩
  | lookUp token scopes hscope =>
    obtain ⟨reply, hc, rfl⟩ := h
    refine ⟨hscope, reply, hc, ?_⟩
    simp [Authenticator.ownEvents, hscope]
  | noScope token scopes hscope =>
    obtain ⟨reply, hc, rfl⟩ := h
    unfold Authenticator.ownEvents
    dsimp only
    rw [if_neg (by simp [hscope])]
    exact .noScope reply scopes hc hscope
  | sendUser token scopes =>
    obtain ⟨hscope, reply, hc, rfl⟩ := h
    exact ⟨hscope, reply, hc, rfl⟩
  | identified token scopes reply' =>
    obtain ⟨hscope, reply, hc, rfl⟩ := h
    exact .lookedUp reply scopes reply' hc hscope
  | sendRevoke token outcome => exact ⟨tr, h, rfl⟩
  | notRevoked token outcome reply e hr =>
    obtain ⟨tr₀, hi, rfl⟩ := h
    rw [List.append_assoc]
    exact .notRevoked outcome tr₀ reply e hi hr
  | revoked token outcome reply hr =>
    obtain ⟨tr₀, hi, rfl⟩ := h
    rw [List.append_assoc]
    exact .mk tr₀ reply hi hr
  | read token outcome =>
    show Revoked self token outcome (tr ++ [])
    rw [List.append_nil]
    exact h
  | decline token outcome now e replay hm =>
    obtain ⟨rfl, -⟩ := markConsumed_error hm
    unfold Authenticator.ownEvents
    dsimp only
    rw [hm]
    exact .declined outcome tr h
  | recordDenied token e now replay hm =>
    rw [ownEvents_record hm]
    exact .denied e tr now h
  | record token identityId user now replay hm =>
    rw [ownEvents_record hm]
    exact ⟨tr, now, h, rfl⟩
  | draw token identityId user bytes =>
    obtain ⟨tr₀, now, hv, rfl⟩ := h
    refine ⟨identityId, user, tr₀, now, hv, ⟨rfl, rfl, rfl⟩, ?_⟩
    exact List.append_nil _
  | full token now sessionToken session e sessions hins =>
    obtain ⟨identityId, user, tr₀, now', hv, -, rfl⟩ := h
    obtain ⟨rfl, -⟩ := insertSession_error hins
    unfold Authenticator.ownEvents
    dsimp only
    rw [hins, List.append_nil]
    exact .full _ tr₀ now' hv
  | insert token now sessionToken session sessions hins =>
    obtain ⟨identityId, user, tr₀, now', hv, hsess, rfl⟩ := h
    unfold Authenticator.ownEvents
    dsimp only
    rw [hins]
    dsimp only
    rw [if_pos, List.append_assoc]
    · exact .minted identityId user tr₀ now' session _ hv hsess
    · rw [insertSession_ok hins, Map.lookup_insert, if_pos rfl]
  | drop token result =>
    have hnil : self.ownEvents s { s with replay := dropGuard (self.key token) s.replay }
        (.dropping token result) .go = [] := rfl
    rw [hnil, List.append_nil]
    cases result with
    | none => exact h
    | some result => exact h
  | cancel pc token ha =>
    have hnil : self.ownEvents s s pc .cancel = [] := by
      cases pc <;> rfl
    rw [hnil, List.append_nil]
    exact h.cancel ha

end Events

end MicrotunSigner
