import MicrotunSigner.Auth.DeviceTrace
import MicrotunSigner.Lib.SingleUse

/-!
# The replay cache of the exchanges

Every run of the exchanges is, for the replay cache, a run of clients that use up single-use keys
(`Lib.SingleUse`): the clients are the calls, the keys are the digests of their tokens, and the log
is what the calls recorded (`run_singleUse`).
-/

namespace MicrotunSigner

open Lib Lib.Text Lib.SingleUse

variable {Key : Type} (self : Authenticator Key)

/-- The part a call plays at each place. -/
def DevicePc.role : DevicePc → Role Sha256Digest
  | .idle | .entered _ | .done _ _ => .out
  | .beginning _ now => .arriving now
  | .sendCheck token | .checking token | .granted token _ | .sendUser token _ | .lookingUp token _
  | .sendRevoke token _ | .revoking token _ | .revoked token _ => .holding (self.key token)
  | .consuming token _ now => .recording (self.key token) now
  | .minting token _ _ | .inserting token _ _ _ | .dropping token _ => .spent (self.key token)

/-- What the calls have recorded. -/
def recordedLog (s : DeviceSt) (as : List DeviceAct) (c : Nat) (k : Sha256Digest) (n : Int) : Prop :=
  ∃ token, self.key token = k ∧ .recorded token n ∈ self.deviceHistory c s as

/-- The state of the single-use keys. -/
def abstractReplay (t : DeviceSt) (log : Nat → Sha256Digest → Int → Prop) : State Sha256Digest where
  now := t.shared.now
  inFlight := t.shared.replay.data.inFlight
  used := t.shared.replay.data.used
  poisoned := t.shared.replay.poisoned
  roles c := (t.calls c).role self
  log := log

variable {self} {s t u : DeviceSt} {a : DeviceAct} {as : List DeviceAct} {c : Nat}
  {log : Nat → Sha256Digest → Int → Prop}

theorem abstractReplay_call (shared : DeviceShared) (pc : DevicePc) :
    abstractReplay self ⟨shared, Function.update t.calls c pc⟩ log =
      ⟨shared.now, shared.replay.data.inFlight, shared.replay.data.used, shared.replay.poisoned,
        Function.update (abstractReplay self t log).roles c (pc.role self), log⟩ := by
  have hroles : (fun d => (Function.update t.calls c pc d).role self) =
      Function.update (abstractReplay self t log).roles c (pc.role self) := by
    funext d
    by_cases hd : d = c
    · subst hd
      rw [Function.update_self, Function.update_self]
    · rw [Function.update_of_ne hd, Function.update_of_ne hd]
      rfl
  rw [← hroles]
  rfl

/-- A step of a call that changes neither the cache nor the part it plays. -/
theorem abstractReplay_same {pc : DevicePc} (hrole : pc.role self = (t.calls c).role self)
    {shared : DeviceShared} (hnow : shared.now = t.shared.now)
    (hreplay : shared.replay = t.shared.replay) :
    abstractReplay self ⟨shared, Function.update t.calls c pc⟩ log = abstractReplay self t log := by
  have hsame : Function.update (abstractReplay self t log).roles c (pc.role self) =
      (abstractReplay self t log).roles := by
    rw [hrole]
    exact Function.update_eq_self c (abstractReplay self t log).roles
  rw [abstractReplay_call, hsame, hnow, hreplay]
  rfl

/-- Where the events of the cache come from: a token is refused where its use begins, and recorded
where it is marked as consumed. -/
theorem ownEvents_cases {s s' : DeviceShared} {pc : DevicePc} {input : DeviceIn}
    {event : DeviceEvent} (h : event ∈ self.ownEvents s s' pc input) :
    (∃ token n, event = .refused token ∧ pc = .beginning token n ∧
      (beginDeviceTokenUse (self.key token) n s.replay).1 = .error .tokenReplayed) ∨
    (∃ token outcome n, event = .recorded token n ∧ pc = .consuming token outcome n ∧
      (markConsumed (self.key token) n s.replay).1 = .ok ()) ∨
    (∀ token, event ≠ .refused token) ∧ ∀ token n, event ≠ .recorded token n := by
  unfold Authenticator.ownEvents at h
  split at h
  · split at h
    · split at h
      · exact .inr (.inr (by simp_all))
      · cases h
    · rename_i token n _ hb
      exact .inl ⟨token, n, List.mem_singleton.mp h, rfl, hb⟩
    · cases h
  · exact .inr (.inr (by simp_all))
  · exact .inr (.inr (by simp_all))
  · split at h
    · cases h
    · exact .inr (.inr (by simp_all))
  · exact .inr (.inr (by simp_all))
  · refine .inr (.inr ?_)
    rcases List.mem_cons.mp h with rfl | h
    · simp
    · rw [List.mem_singleton.mp h]
      simp
  · exact .inr (.inr (by simp_all))
  · exact .inr (.inr (by simp_all))
  · split at h
    · rename_i token outcome n _ hm
      split at h
      · exact .inr (.inl ⟨token, outcome, n, List.mem_singleton.mp h, rfl, hm⟩)
      · cases h
    · exact .inr (.inr (by simp_all))
  · split at h
    · split at h
      · exact .inr (.inr (by simp_all))
      · cases h
    · cases h
  · cases h

/-- A call only records where it marks its token as consumed. -/
theorem ownEvents_recorded {s s' : DeviceShared} {pc : DevicePc} {input : DeviceIn}
    {token : String} {n : Int} (h : .recorded token n ∈ self.ownEvents s s' pc input) :
    (∃ outcome, pc = .consuming token outcome n) ∧
      (markConsumed (self.key token) n s.replay).1 = .ok () := by
  rcases ownEvents_cases h with ⟨_, _, he, -⟩ | ⟨_, outcome, _, he, hpc, hm⟩ | ⟨-, hno⟩
  · cases he
  · cases he
    exact ⟨⟨outcome, hpc⟩, hm⟩
  · exact absurd rfl (hno token n)

/-- A token is only refused where its use begins. -/
theorem ownEvents_refused {s s' : DeviceShared} {pc : DevicePc} {input : DeviceIn} {token : String}
    (h : .refused token ∈ self.ownEvents s s' pc input) : ∃ n, pc = .beginning token n ∧
      (beginDeviceTokenUse (self.key token) n s.replay).1 = .error .tokenReplayed := by
  rcases ownEvents_cases h with ⟨_, n, he, hpc, hb⟩ | ⟨_, _, _, he, -⟩ | ⟨hno, -⟩
  · cases he
    exact ⟨n, hpc, hb⟩
  · cases he
  · exact absurd rfl (hno token)

/-- Where a call marks its token as consumed, the log grows by the one record. -/
theorem recordedLog_record {token : String} {n : Int}
    {outcome : Except OAuthFlowError (String × GithubUserResponse)} {pc : DevicePc}
    {replay : Mutex DeviceTokenReplay} (hpc : pc = .consuming token outcome n)
    (hm : markConsumed (self.key token) n t.shared.replay = (.ok (), replay)) :
    (fun d k m => log d k m ∨ d = c ∧ ∃ other, self.key other = k ∧
      .recorded other m ∈ self.ownEvents t.shared { t.shared with replay } pc .go) =
    fun d k m => log d k m ∨ d = c ∧ k = self.key token ∧ m = n := by
  funext d k m
  rw [hpc, ownEvents_record hm]
  refine propext (or_congr_right (and_congr_right fun _ => ?_))
  constructor
  · rintro ⟨other, rfl, hr⟩
    rw [List.mem_singleton, DeviceEvent.recorded.injEq] at hr
    exact ⟨by rw [hr.1], hr.2⟩
  · rintro ⟨rfl, rfl⟩
    exact ⟨token, rfl, List.mem_singleton_self _⟩

/-- **A step of a call is a step of a client, or nothing that the cache sees.** -/
theorem abstractReplay_step {shared : DeviceShared} {pc : DevicePc} {input : DeviceIn}
    (hs : DeviceStep self t.shared (t.calls c) input shared pc) :
    let log' := fun d k n => log d k n ∨ d = c ∧ ∃ token, self.key token = k ∧
      .recorded token n ∈ self.ownEvents t.shared shared (t.calls c) input
    abstractReplay self ⟨shared, Function.update t.calls c pc⟩ log' = abstractReplay self t log ∨
      Step deviceTokenReplayTtl (abstractReplay self t log)
        (abstractReplay self ⟨shared, Function.update t.calls c pc⟩ log') := by
  intro log'
  -- All steps but the recording ones leave the log alone.
  have hlog : (∀ token n, .recorded token n ∉
      self.ownEvents t.shared shared (t.calls c) input) → log' = log := by
    intro hno
    funext d k n
    refine propext (or_iff_left ?_)
    rintro ⟨-, token, -, h⟩
    exact hno token n h
  have hquiet : (∀ token outcome n, t.calls c ≠ .consuming token outcome n) → log' = log := by
    intro hno
    refine hlog fun token n h => ?_
    obtain ⟨⟨outcome, hpc⟩, -⟩ := ownEvents_recorded h
    exact hno token outcome n hpc
  have hrole : (abstractReplay self t log).roles c = (t.calls c).role self := rfl
  generalize hpc : t.calls c = pc₀ at hs hlog hquiet hrole
  cases hs with
  | enter token =>
    rw [hquiet (by simp), abstractReplay_call]
    exact .inr (.arrive c hrole)
  | refuse token now e replay hb =>
    rw [hquiet (by simp), abstractReplay_call]
    rcases beginDeviceTokenUse_error hb with ⟨-, rfl⟩ | ⟨-, -, -, rfl⟩
    · exact .inr (.turnAway c now hrole)
    · exact .inr (.refuse c now hrole)
  | reserve token now replay hb =>
    obtain ⟨hfree, hunused, rfl⟩ := beginDeviceTokenUse_ok hb
    rw [hquiet (by simp), abstractReplay_call]
    exact .inr (.reserve c now (self.key token) hrole hfree hunused)
  | sendCheck token | accepted token | lookUp token | noScope token | sendUser token
  | identified token | sendRevoke token | revoked token =>
    rw [hquiet (by simp)]
    exact .inl (abstractReplay_same (by rw [hpc]; rfl) rfl rfl)
  | rejected token reply e hc =>
    rw [hquiet (by simp), abstractReplay_call]
    exact .inr (.giveUp c (self.key token) (by rw [hrole]; rfl))
  | notRevoked token outcome reply e hr =>
    rw [hquiet (by simp), abstractReplay_call]
    exact .inr (.giveUp c (self.key token) (by rw [hrole]; rfl))
  | read token outcome =>
    rw [hquiet (by simp), abstractReplay_call]
    exact .inr (.read c (self.key token) hrole)
  | decline token outcome now e replay hm =>
    have hno : ∀ other n, .recorded other n ∉
        self.ownEvents t.shared { t.shared with replay } (.consuming token outcome now) .go := by
      intro other n h
      obtain ⟨⟨outcome', he⟩, hok⟩ := ownEvents_recorded h
      cases he
      rw [hm] at hok
      cases hok
    rw [hlog hno, abstractReplay_call]
    obtain ⟨-, rfl | rfl⟩ := markConsumed_error hm
    · exact .inr (.giveUp c (self.key token) (by rw [hrole]; rfl))
    · exact .inr (.decline c (self.key token) now hrole)
  | recordDenied token e now replay hm =>
    rw [show log' = _ from recordedLog_record hpc hm, abstractReplay_call]
    obtain rfl := markConsumed_ok hm
    exact .inr (.record c (self.key token) now hrole)
  | record token identityId user now replay hm =>
    rw [show log' = _ from recordedLog_record hpc hm, abstractReplay_call]
    obtain rfl := markConsumed_ok hm
    exact .inr (.record c (self.key token) now hrole)
  | draw token identityId user bytes =>
    rw [hquiet (by simp)]
    exact .inl (abstractReplay_same (by rw [hpc]; rfl) rfl rfl)
  | full token now sessionToken session e sessions hins =>
    rw [hquiet (by simp)]
    exact .inl (abstractReplay_same (by rw [hpc]; rfl) rfl rfl)
  | insert token now sessionToken session sessions hins =>
    rw [hquiet (by simp)]
    exact .inl (abstractReplay_same (by rw [hpc]; rfl) rfl rfl)
  | drop token result =>
    rw [hquiet (by simp), abstractReplay_call]
    unfold dropGuard
    cases hlock : t.shared.replay.lock with
    | none =>
      unfold Mutex.lock at hlock
      have hpoisoned : t.shared.replay.poisoned = true := by simpa using hlock
      exact .inr (.leave c (self.key token) hrole hpoisoned)
    | some data =>
      obtain ⟨-, rfl⟩ := Mutex.lock_eq_some.mp hlock
      exact .inr (.release c (self.key token) hrole)
  | cancel pc token ha =>
    have hno : ∀ token outcome n, pc₀ ≠ .consuming token outcome n := by
      rintro token' outcome n rfl
      cases ha
    have hkey : (pc₀.role self).key = some (self.key token) := by
      cases pc₀ with
      | idle | entered | beginning | granted | revoked | consuming | minting | dropping | done =>
        cases ha
      | sendCheck | checking | sendUser | lookingUp | sendRevoke | revoking | inserting =>
        cases ha
        rfl
    rw [hquiet hno, abstractReplay_call]
    exact .inr (.giveUp c (self.key token) (by rw [hrole]; exact hkey))

/-! ## Runs -/

/-- The four kinds of steps of the system. -/
theorem device_cases (h : self.deviceSys.step t a = some u) :
    (∃ c token, a = .start c token ∧ t.calls c = .idle ∧
      u = { t with calls := Function.update t.calls c (enterDevice token) }) ∨
    (∃ c input shared pc, a = .call c input ∧
      DeviceStep self t.shared (t.calls c) input shared pc ∧
      u = ⟨shared, Function.update t.calls c pc⟩) ∨
    (∃ d, a = .tick d ∧ u = { t with shared := { t.shared with now := t.shared.now + d } }) ∨
    a = .poison ∧ u = { t with shared := { t.shared with
      replay := { t.shared.replay with poisoned := true } } } := by
  cases a with
  | start c token =>
    simp only [Authenticator.deviceSys] at h
    split at h
    · rename_i hidle
      cases h
      exact .inl ⟨c, token, rfl, hidle, rfl⟩
    · cases h
  | call c input =>
    obtain ⟨⟨shared, pc⟩, hs, rfl⟩ := Option.map_eq_some_iff.mp h
    exact .inr (.inl ⟨c, input, shared, pc, rfl, deviceStep_of_eq hs, rfl⟩)
  | tick d =>
    cases h
    exact .inr (.inr (.inl ⟨d, rfl, rfl⟩))
  | poison =>
    cases h
    exact .inr (.inr (.inr ⟨rfl, rfl⟩))

theorem deviceHistory_snoc (ht : self.deviceSys.run s as = some t)
    (hu : self.deviceSys.step t a = some u) (c : Nat) :
    self.deviceHistory c s (as ++ [a]) = self.deviceHistory c s as ++ self.deviceEvents c t a u :=
  Sys.trace_snoc ht hu

/-- What the log is after one more step. -/
theorem recordedLog_snoc (ht : self.deviceSys.run s as = some t)
    (hu : self.deviceSys.step t a = some u) :
    recordedLog self s (as ++ [a]) = fun d k n => recordedLog self s as d k n ∨
      ∃ token, self.key token = k ∧ .recorded token n ∈ self.deviceEvents d t a u := by
  funext d k n
  unfold recordedLog
  rw [deviceHistory_snoc ht hu]
  refine propext ⟨?_, ?_⟩
  · rintro ⟨token, hk, h⟩
    exact (List.mem_append.mp h).imp (⟨token, hk, ·⟩) (⟨token, hk, ·⟩)
  · rintro (⟨token, hk, h⟩ | ⟨token, hk, h⟩)
    · exact ⟨token, hk, List.mem_append_left _ h⟩
    · exact ⟨token, hk, List.mem_append_right _ h⟩

/-- Only a step of a call shows events. -/
theorem deviceEvents_nil (hno : ∀ c input, a ≠ .call c input) (c : Nat) :
    self.deviceEvents c t a u = [] := by
  cases a with
  | call d input => exact absurd rfl (hno d input)
  | start | tick | poison => rfl

/-- **The replay cache in every run** is that of single-use keys. -/
theorem run_singleUse {now : Int} (hrun : self.deviceSys.run (.new now) as = some t) :
    Inv deviceTokenReplayTtl (abstractReplay self t (recordedLog self (.new now) as)) := by
  refine Sys.run_induction (P := fun as t => Inv deviceTokenReplayTtl
    (abstractReplay self t (recordedLog self (.new now) as))) ?_ ?_ as t hrun
  · refine State.Fresh.inv ⟨rfl, rfl, fun _ => rfl, ?_⟩
    rintro c k n ⟨token, -, h⟩
    cases h
  · intro as t a u ht ih hu
    have hlog := recordedLog_snoc ht hu
    have hsame : (∀ c input, a ≠ .call c input) →
        recordedLog self (.new now) (as ++ [a]) = recordedLog self (.new now) as := by
      intro hno
      rw [hlog]
      funext d k n
      refine propext (or_iff_left ?_)
      rintro ⟨token, -, h⟩
      rw [deviceEvents_nil hno] at h
      cases h
    rcases device_cases hu with
      ⟨c, token, rfl, hidle, rfl⟩ | ⟨c, input, shared, pc, rfl, hs, rfl⟩ | ⟨d, rfl, rfl⟩ | ⟨rfl, rfl⟩
    · rw [hsame (by simp)]
      have hrole : (enterDevice token).role self = (t.calls c).role self := by
        rw [hidle]
        unfold enterDevice
        split <;> rfl
      rw [abstractReplay_same hrole rfl rfl]
      exact ih
    · have hgrow : recordedLog self (.new now) (as ++ [.call c input]) = fun d k n =>
          recordedLog self (.new now) as d k n ∨ d = c ∧ ∃ token, self.key token = k ∧
            .recorded token n ∈ self.ownEvents t.shared shared (t.calls c) input := by
        rw [hlog]
        funext d k n
        refine propext (or_congr_right ?_)
        by_cases hd : d = c
        · subst hd
          simp [Authenticator.deviceEvents]
        · have hcd : c ≠ d := fun e => hd e.symm
          simp [Authenticator.deviceEvents, hcd, hd]
      rw [hgrow]
      rcases abstractReplay_step hs with he | hstep
      · rw [he]
        exact ih
      · exact hstep.inv ih
    · rw [hsame (by simp)]
      exact ih.tick d
    · rw [hsame (by simp)]
      exact Step.poison.inv ih

/-- **The events of every call, in every run** from a state in which it has not started. -/
theorem run_traceOk (h0 : s.calls c = .idle) (hrun : self.deviceSys.run s as = some t) :
    TraceOk self (self.deviceHistory c s as) (t.calls c) := by
  refine Sys.run_induction (P := fun as t => TraceOk self (self.deviceHistory c s as) (t.calls c))
    ?_ ?_ as t hrun
  · rw [h0]
    rfl
  · intro as t a u ht ih hu
    rw [deviceHistory_snoc ht hu]
    rcases device_cases hu with
      ⟨d, token, rfl, hidle, rfl⟩ | ⟨d, input, shared, pc, rfl, hs, rfl⟩ | ⟨d, rfl, rfl⟩ | ⟨rfl, rfl⟩
    · rw [deviceEvents_nil (by simp), List.append_nil]
      show TraceOk self _ (Function.update t.calls d (enterDevice token) c)
      by_cases hc : c = d
      · subst hc
        have htr : self.deviceHistory c s as = [] := by
          rw [hidle] at ih
          exact ih
        rw [Function.update_self, htr]
        unfold enterDevice
        split
        · exact .invalid _ (by simp)
        · rfl
      · rw [Function.update_of_ne hc]
        exact ih
    · show TraceOk self _ (Function.update t.calls d pc c)
      by_cases hc : c = d
      · subst hc
        have he : self.deviceEvents c t (.call c input)
            ⟨shared, Function.update t.calls c pc⟩ =
            self.ownEvents t.shared shared (t.calls c) input := if_pos rfl
        rw [Function.update_self, he]
        exact ih.step hs
      · have he : self.deviceEvents c t (.call d input)
            ⟨shared, Function.update t.calls d pc⟩ = [] := if_neg fun e => hc e.symm
        rw [Function.update_of_ne hc, he, List.append_nil]
        exact ih
    · rw [deviceEvents_nil (by simp), List.append_nil]
      exact ih
    · rw [deviceEvents_nil (by simp), List.append_nil]
      exact ih

end MicrotunSigner
