import MicrotunSigner.Api.AdminRuns

/-!
# The audit log of the admin API (`api.rs`)

What the log says of the unlocks is true, and how much of it is said (`unlock_log_exact`). A handler
logs when it answers. If its client disconnects, its task goes on and may unlock keys, and the log
does not have them.

* `AuditOk`: what a handler has logged is what its answer comes with.
* `finish_unlocks_iff`: these events name the keys that its task has unlocked.
-/

namespace MicrotunSigner

open Lib

variable {P S R : Type}

/-- The event says that its request has unlocked the key `keyId`. -/
def UnlockEvent.unlocks (keyId : String) (event : UnlockEvent) : Bool :=
  event.success && event.keyId == some keyId && (event.reason == "ok" || event.reason == "unlocked")

/-- What the handler `c` has logged. -/
def eventsOf (c : Nat) (log : List (Nat × UnlockEvent)) : List UnlockEvent :=
  (log.filter fun entry => entry.1 == c).map Prod.snd

section Events

variable {crates : KeyCrates P S R} {store : KeyStore} {keyrings : List KeyringConfig}
  {fromSlice : List UInt8 → Option UnlockRequest} {request : AdminRequest} {op : KeyOp}
  {cells : KeyCells P S R} {inst : Nat → Prop} {ret : KeyRet} {event : UnlockEvent} {keyId : String}

theorem mem_eventsOf {c : Nat} {log : List (Nat × UnlockEvent)} :
    event ∈ eventsOf c log ↔ (c, event) ∈ log := by
  simp [eventsOf]

/-! ## The events of a request -/

/-- A request that is refused has unlocked nothing, and says so. -/
theorem check_error_events {events : List UnlockEvent} {error : ApiError}
    (h : request.check fromSlice store = .error (events, error)) :
    ∀ event ∈ events, event.success = false ∧ event.requestId = request.requestId := by
  unfold AdminRequest.check at h
  split at h
  · rename_i keyId _
    unfold beginUnlockKey at h
    cases hjson : requireJsonUnlockRequest request.headers request.requestId with
    | error e =>
      rw [hjson] at h
      cases h
      exact fun _ he => nomatch he
    | ok _ =>
      cases hkey : if validKeyId keyId then store.get keyId else none with
      | none =>
        rw [hjson, hkey] at h
        cases h
        simp [unlockKeyEvent]
      | some key =>
        cases hparse : parseUnlockRequest fromSlice request.body request.requestId with
        | error e =>
          rw [hjson, hkey, hparse] at h
          cases h
          exact fun _ he => nomatch he
        | ok passphrase =>
          rw [hjson, hkey, hparse] at h
          cases h
  · rename_i keyring _
    unfold beginUnlockKeyring at h
    cases hjson : requireJsonUnlockRequest request.headers request.requestId with
    | error e =>
      rw [hjson] at h
      cases h
      exact fun _ he => nomatch he
    | ok _ =>
      cases hknown : !validKeyringName keyring || !store.hasKeyring keyring with
      | true =>
        rw [hjson, hknown] at h
        cases h
        simp [keyringAuditFailure]
      | false =>
        cases hparse : parseUnlockRequest fromSlice request.body request.requestId with
        | error e =>
          rw [hjson, hknown, hparse] at h
          cases h
          exact fun _ he => nomatch he
        | ok passphrase =>
          rw [hjson, hknown, hparse] at h
          cases h

/-- Every event names its request. -/
theorem finish_requestId (request : AdminRequest) (ret : Option KeyRet) :
    ∀ event ∈ (request.finish ret).1, event.requestId = request.requestId := by
  unfold AdminRequest.finish
  split
  · rcases ret.bind KeyRet.ofUnlock with _ | e | outcome
    · simp [finishUnlockKey, unlockKeyEvent]
    · cases e <;> simp [finishUnlockKey, unlockKeyEvent]
    · simp [finishUnlockKey, unlockKeyEvent]
  · rcases ret.bind KeyRet.ofUnlockKeyring with _ | e | outcomes
    · simp [finishUnlockKeyring, keyringTaskFailedEvent]
    · cases e <;> simp [finishUnlockKeyring, keyringAuditFailure]
    · simp [finishUnlockKeyring, keyringOutcomeEvent]

/-- The events of a request are all successes or all failures. -/
theorem finish_uniform (request : AdminRequest) (ret : Option KeyRet) :
    (∀ event ∈ (request.finish ret).1, event.success = true) ∨
      ∀ event ∈ (request.finish ret).1, event.success = false := by
  unfold AdminRequest.finish
  split
  · rcases ret.bind KeyRet.ofUnlock with _ | e | outcome
    · simp [finishUnlockKey, unlockKeyEvent]
    · cases e <;> simp [finishUnlockKey, unlockKeyEvent]
    · simp [finishUnlockKey, unlockKeyEvent]
  · rcases ret.bind KeyRet.ofUnlockKeyring with _ | e | outcomes
    · simp [finishUnlockKeyring, keyringTaskFailedEvent]
    · cases e <;> simp [finishUnlockKeyring, keyringAuditFailure]
    · left
      simp [finishUnlockKeyring, keyringOutcomeEvent]

/-- A task that has panicked is reported as a failure. -/
theorem finish_none_failure (request : AdminRequest) :
    ∀ event ∈ (request.finish none).1, event.success = false := by
  unfold AdminRequest.finish
  split
  · simp [finishUnlockKey, unlockKeyEvent]
  · simp [finishUnlockKeyring, keyringTaskFailedEvent]

theorem unlocks_outcomeEvent {requestId keyring : String} {outcome : KeyringMemberOutcome} :
    (keyringOutcomeEvent requestId keyring outcome).unlocks keyId = true ↔
      outcome = ⟨keyId, .unlocked⟩ := by
  obtain ⟨id, result⟩ := outcome
  cases result <;>
    simp [UnlockEvent.unlocks, keyringOutcomeEvent, KeyringMemberResult.asStr]

/-- The key of an accepted `unlock_key` is the one of its path. -/
theorem check_unlockKey (hw : store.WellFormed keyrings) (hroute : request.route = .unlockKey keyId)
    (h : request.check fromSlice store = .ok op) :
    ∃ passphrase, op = .unlock keyId passphrase := by
  unfold AdminRequest.check at h
  rw [hroute] at h
  obtain ⟨-, -, key, passphrase, hget, -, -, rfl⟩ := beginUnlockKey_ok h
  obtain ⟨i, hp, hk⟩ := get_eq_some hget
  obtain ⟨key', hk', rfl⟩ := (hw.position_iff keyId i).mp hp
  rw [hk] at hk'
  cases hk'
  exact ⟨passphrase, rfl⟩

theorem check_unlockKeyring {name : String} (hroute : request.route = .unlockKeyring name)
    (h : request.check fromSlice store = .ok op) :
    ∃ passphrase, op = .unlockKeyring name passphrase := by
  unfold AdminRequest.check at h
  rw [hroute] at h
  obtain ⟨-, -, -, passphrase, -, -, rfl⟩ := beginUnlockKeyring_ok h
  exact ⟨passphrase, rfl⟩

/-- The events say what the call has reported. -/
theorem finish_reports_iff (hw : store.WellFormed keyrings)
    (hcheck : request.check fromSlice store = .ok op) {M : Type} :
    (∃ event ∈ (request.finish (some ret)).1, event.unlocks keyId = true) ↔
      (KeyPc.done op ret : KeyPc M).reports keyId .unlocked := by
  cases hroute : request.route with
  | unlockKey id =>
    obtain ⟨passphrase, rfl⟩ := check_unlockKey hw hroute hcheck
    unfold AdminRequest.finish
    rw [hroute]
    cases ret with
    | unlock result =>
      rcases result with e | outcome
      · cases e <;> simp [finishUnlockKey, KeyRet.ofUnlock, unlockKeyEvent, UnlockEvent.unlocks,
          KeyPc.reports]
      · cases outcome <;> simp [finishUnlockKey, KeyRet.ofUnlock, unlockKeyEvent,
          UnlockEvent.unlocks, KeyPc.reports]
    | _ => simp [finishUnlockKey, KeyRet.ofUnlock, unlockKeyEvent, UnlockEvent.unlocks, KeyPc.reports]
  | unlockKeyring name =>
    obtain ⟨passphrase, rfl⟩ := check_unlockKeyring hroute hcheck
    unfold AdminRequest.finish
    rw [hroute]
    cases ret with
    | unlockKeyring result =>
      rcases result with e | outcomes
      · cases e <;> simp [finishUnlockKeyring, KeyRet.ofUnlockKeyring, keyringAuditFailure,
          UnlockEvent.unlocks, KeyPc.reports]
      · simp [finishUnlockKeyring, KeyRet.ofUnlockKeyring, KeyPc.reports, unlocks_outcomeEvent]
    | _ => simp [finishUnlockKeyring, KeyRet.ofUnlockKeyring, keyringTaskFailedEvent,
        UnlockEvent.unlocks, KeyPc.reports]

/-- A call that has returned reports as unlocked the keys it has installed. -/
theorem CallOk.reports_unlocked_iff (hw : store.WellFormed keyrings)
    (h : CallOk crates store cells inst (.done op ret)) {i : Nat}
    (hp : store.position keyId = some i) :
    (KeyPc.done op ret : KeyPc (UnlockedKeyMaterial P S R)).reports keyId .unlocked ↔ inst i := by
  obtain ⟨key, hkey, rfl⟩ := (hw.position_iff keyId i).mp hp
  have hret : RetOk crates store cells inst op ret := h
  unfold RetOk at hret
  split at hret
  · rename_i id passphrase outcome
    obtain ⟨j, hpj, -, hj⟩ := hret
    have hid : id = key.id ↔ i = j := by
      constructor
      · rintro rfl
        exact Option.some.inj (hp.symm.trans hpj)
      · rintro rfl
        obtain ⟨key', hkey', rfl⟩ := (hw.position_iff id i).mp hpj
        rw [hkey] at hkey'
        cases hkey'
        rfl
    rw [hj i, ← hid]
    cases outcome with
    | unlocked => exact ⟨fun hr => ⟨rfl, hr.1⟩, fun hi => ⟨hi.2, rfl⟩⟩
    | alreadyUnlocked => exact iff_of_false (fun hr => nomatch hr.2) fun hi => nomatch hi.1
  · rename_i name passphrase outcomes
    constructor
    · intro hr
      obtain ⟨r, rfl, hshape⟩ := hret.report.shape
      obtain ⟨j, hjm, he⟩ := List.mem_map.mp (show _ ∈ List.map _ _ from hr)
      rw [KeyringMemberOutcome.mk.injEq] at he
      obtain ⟨key', hkey'⟩ := hw.member hjm
      rw [idAt_eq hkey'] at he
      obtain rfl := hw.position_inj hkey' hkey he.1
      obtain ⟨hinactive, -, hactive⟩ := hshape j hjm
      cases ha : store.isActive j with
      | false =>
        have hskip := hinactive ha
        rw [he.2] at hskip
        cases hskip
      | true =>
        by_contra hno
        have halready := (hactive ha List.not_mem_nil).2.2 hno
        rw [he.2] at halready
        cases halready
    · intro hi
      obtain ⟨r, rfl, hshape⟩ := hret.report.shape
      obtain ⟨hm, ha⟩ := hret.report.inst_mem i hi
      refine List.mem_map.mpr ⟨i, hm, ?_⟩
      rw [idAt_eq hkey, ((hshape i hm).2.2 ha List.not_mem_nil).2.1 hi]
  · exact iff_of_false id (hret.1 i)
  · exact iff_of_false id (hret.1 i)
  · exact iff_of_false id (hret.1 i)
  · exact iff_of_false id (hret.1 i)
  · refine iff_of_false (fun hr => ?_) (hret i)
    rename_i hunlock hring _ _ _ _
    unfold KeyPc.reports at hr
    split at hr
    · rename_i heq
      cases heq
      exact hunlock _ _ _ rfl rfl
    · rename_i heq
      cases heq
      exact hring _ _ _ rfl rfl
    · exact hr

/-- What a call reports is a key of the store. -/
theorem CallOk.position_of_reports (hw : store.WellFormed keyrings)
    (h : CallOk crates store cells inst (.done op ret)) {result : KeyringMemberResult}
    (hr : (KeyPc.done op ret : KeyPc (UnlockedKeyMaterial P S R)).reports keyId result) :
    ∃ i, store.position keyId = some i := by
  have hc := h.covers_of_reports hw hr
  unfold KeyPc.covers at hc
  split at hc
  · rename_i id passphrase outcome heq
    cases heq
    subst hc
    obtain ⟨i, hp, -⟩ : RetOk crates store cells inst (.unlock id passphrase)
      (.unlock (.ok outcome)) := h
    exact ⟨i, hp⟩
  · obtain ⟨ring, hring, -, hk⟩ := hc
    have hm : store.position keyId ∈ (store.keyringMembers ring.id).map some := by
      rw [← (hw.declared ring hring).2.2]
      exact List.mem_map_of_mem hk
    obtain ⟨i, -, hp⟩ := List.mem_map.mp hm
    exact ⟨i, hp.symm⟩
  · exact hc.elim

/-- A call of the public API installs nothing. -/
theorem CallOk.not_inst_of_public {pc : KeyPc (UnlockedKeyMaterial P S R)}
    (h : CallOk crates store cells inst pc) (hpub : ∀ op, pc.op = some op → op.isPublic = true)
    (i : Nat) : ¬ inst i := by
  cases pc with
  | idle | isUnlocked | publicKeyPem | signDigest | requestCheck => exact h i
  | requestSign => exact h.1 i
  | done op ret =>
    have hret : RetOk crates store cells inst op ret := h
    have hop := hpub op rfl
    unfold RetOk at hret
    split at hret
    · cases hop
    · cases hop
    · exact hret.1 i
    · exact hret.1 i
    · exact hret.1 i
    · exact hret.1 i
    · exact hret i
  | unlockCheck | unlockDecrypt | unlockInstall | scan | scanDecrypt | locking | abandoning
    | installing => exact nomatch hpub _ rfl

/-- A call installs nothing before its KDF runs are over. -/
theorem CallOk.not_inst_of_inKdf {pc : KeyPc (UnlockedKeyMaterial P S R)}
    (h : CallOk crates store cells inst pc) (hkdf : pc.inKdf = true) (i : Nat) : ¬ inst i := by
  cases pc with
  | unlockDecrypt | scanDecrypt => exact h.1 i
  | _ => cases hkdf

/-- **The events name what the task has unlocked.** -/
theorem finish_unlocks_iff (hw : store.WellFormed keyrings)
    (hcheck : request.check fromSlice store = .ok op)
    (h : CallOk crates store cells inst (.done op ret)) {i : Nat}
    (hp : store.position keyId = some i) :
    (∃ event ∈ (request.finish (some ret)).1, event.unlocks keyId = true) ↔ inst i :=
  (finish_reports_iff hw hcheck).trans (h.reports_unlocked_iff hw hp)

/-- A failure is logged only when the task has unlocked nothing. -/
theorem not_inst_of_failure (hw : store.WellFormed keyrings)
    (hcheck : request.check fromSlice store = .ok op)
    (h : CallOk crates store cells inst (.done op ret)) (he : event ∈ (request.finish (some ret)).1)
    (hfail : event.success = false) (i : Nat) : ¬ inst i := by
  intro hi
  -- What is installed has an id, and an event that names it would be a success.
  obtain ⟨key, hkey, -⟩ := (Option.any_eq_true ..).mp (h.active hi)
  obtain ⟨event', he', hunlocks⟩ := (finish_unlocks_iff hw hcheck h
    ((hw.position_iff key.id i).mpr ⟨key, hkey, rfl⟩)).mpr hi
  rcases finish_uniform request (some ret) with hall | hall
  · rw [hall event he] at hfail
    cases hfail
  · simp [UnlockEvent.unlocks, hall event' he'] at hunlocks

/-- An answer names a key once. -/
theorem countP_finish_le (hw : store.WellFormed keyrings)
    (hcheck : request.check fromSlice store = .ok op)
    (h : CallOk crates store cells inst (.done op ret)) (keyId : String) :
    (request.finish (some ret)).1.countP (UnlockEvent.unlocks keyId) ≤ 1 := by
  -- One event, or none.
  have hshort {events : List UnlockEvent} (hle : events.length ≤ 1) :
      events.countP (UnlockEvent.unlocks keyId) ≤ 1 := List.countP_le_length.trans hle
  cases hroute : request.route with
  | unlockKey id =>
    unfold AdminRequest.finish
    rw [hroute]
    refine hshort ?_
    rcases (some ret).bind KeyRet.ofUnlock with _ | e | outcome
    · exact le_rfl
    · cases e <;> simp [finishUnlockKey]
    · exact le_rfl
  | unlockKeyring name =>
    obtain ⟨passphrase, rfl⟩ := check_unlockKeyring hroute hcheck
    unfold AdminRequest.finish
    rw [hroute]
    cases ret with
    | unlockKeyring result =>
      rcases result with e | outcomes
      · exact hshort (by cases e <;> simp [finishUnlockKeyring, KeyRet.ofUnlockKeyring])
      · obtain ⟨-, hreport⟩ : RingReport store cells inst name [] outcomes := h
        obtain ⟨r, rfl, -⟩ := hreport.shape
        have hnodup : ((store.keyringMembers name).map fun i =>
            (⟨store.idAt i, r i⟩ : KeyringMemberOutcome)).Nodup := by
          refine List.Nodup.of_map KeyringMemberOutcome.keyId ?_
          rw [List.map_map]
          exact memberIds_nodup hw name
        have hone := List.nodup_iff_count_le_one.mp hnodup ⟨keyId, .unlocked⟩
        rw [List.count_eq_countP] at hone
        show List.countP _ (List.map (keyringOutcomeEvent request.requestId name) _) ≤ 1
        rw [List.countP_map]
        refine le_trans (List.countP_mono_left fun outcome _ ho => ?_) hone
        rw [unlocks_outcomeEvent.mp ho]
        exact beq_self_eq_true _
    | _ => exact hshort le_rfl

end Events

/-! ## The log of a run -/

/-- What a handler has logged: nothing before its answer, and then the events of its request. -/
def AuditOk (fromSlice : List UInt8 → Option UnlockRequest) (store : KeyStore) (task : TaskPc)
    (events : List UnlockEvent) : AdminPc → Prop
  | .answered request _ =>
      (task = .none ∧ ∃ error, request.check fromSlice store = .error (events, error)) ∨
      ∃ op ret, task = .ended op ret ∧ request.check fromSlice store = .ok op ∧
        events = (request.finish ret).1
  | _ => events = []

section Runs

variable {crates : KeyCrates P S R} {store : KeyStore} {keyrings : List KeyringConfig}
  {fromSlice : List UInt8 → Option UnlockRequest} {t u : AdminSt P S R} {a : AdminAct}
  {as : List AdminAct} {c d : Nat} {task task' : TaskPc} {events : List UnlockEvent} {pc : AdminPc}

theorem eventsOf_append (log log' : List (Nat × UnlockEvent)) :
    eventsOf c (log ++ log') = eventsOf c log ++ eventsOf c log' := by
  simp [eventsOf]

theorem eventsOf_self (events : List UnlockEvent) : eventsOf c (events.map (c, ·)) = events := by
  simp [eventsOf, List.filter_map, Function.comp_def]

theorem eventsOf_other (hne : c ≠ d) (events : List UnlockEvent) :
    eventsOf c (events.map (d, ·)) = [] := by
  simp [eventsOf, hne.symm]

/-- A task that moves has no handler that has answered. -/
theorem AuditOk.task_moves (h : AuditOk fromSlice store task events pc) (hholds : task.holds = true) :
    AuditOk fromSlice store task' events pc := by
  cases pc with
  | answered request result =>
    rcases h with ⟨rfl, -⟩ | ⟨op, ret, rfl, -⟩
    · cases hholds
    · cases hholds
  | out | queued | awaiting | gone => exact h

/-- The events of a step are those of one handler. -/
theorem AuditOk.step (hok : AdminOk store fromSlice t)
    (h : AuditOk fromSlice store (t.tasks c) events (t.handlers c))
    (hu : (adminSys crates store fromSlice).step t a = some u) :
    AuditOk fromSlice store (u.tasks c)
      (events ++ eventsOf c (unlockEvents store fromSlice t a u)) (u.handlers c) := by
  -- A step that logs nothing.
  have hquiet (hlog : unlockEvents store fromSlice t a u = [])
      (h' : AuditOk fromSlice store (u.tasks c) events (u.handlers c)) :
      AuditOk fromSlice store (u.tasks c)
        (events ++ eventsOf c (unlockEvents store fromSlice t a u)) (u.handlers c) := by
    rw [hlog]
    simpa [eventsOf] using h'
  have htask {d : Nat} (hd : (t.tasks d).holds = true) (task' : TaskPc) :
      AuditOk fromSlice store (Function.update t.tasks d task' c) events (t.handlers c) := by
    rcases update_cases t.tasks d task' c with ⟨rfl, he⟩ | ⟨-, he⟩
    · rw [he]
      exact h.task_moves hd
    · rw [he]
      exact h
  cases adminStep hu with
  | arrive d request hout hidle =>
    by_cases hc : c = d
    · subst hc
      rw [hout] at h
      obtain rfl : events = [] := h
      have htask : t.tasks c = .none := by
        have hd := hok.handler c
        rwa [hout] at hd
      dsimp only
      rw [Function.update_self, AdminRequest.entry, unlockEvents, List.nil_append]
      cases hcheck : request.check fromSlice store with
      | ok op => rfl
      | error e =>
        dsimp only
        rw [eventsOf_self]
        exact .inl ⟨htask, e.2, hcheck⟩
    · dsimp only
      rw [Function.update_of_ne hc]
      simp only [unlockEvents]
      split
      · rw [eventsOf_other hc, List.append_nil]
        exact h
      · simpa [eventsOf] using h
  | acquire d request op hq hfree =>
    refine hquiet rfl ?_
    by_cases hc : c = d
    · subst hc
      rw [hq] at h
      dsimp only
      rw [Function.update_self, Function.update_self]
      exact h
    · dsimp only
      rw [Function.update_of_ne hc, Function.update_of_ne hc]
      exact h
  | start d op keys hsp _ => exact hquiet rfl (htask (by rw [hsp]; rfl) _)
  | work | publicCall | publicStep | poison => exact hquiet rfl h
  | finish d op op' ret hr _ => exact hquiet rfl (htask (by rw [hr]; rfl) _)
  | panic d op hr _ => exact hquiet rfl (htask (by rw [hr]; rfl) _)
  | reply d request op op' ret haw hend =>
    by_cases hc : c = d
    · subst hc
      have hc' := hok.handler c
      rw [haw, hend] at hc'
      obtain ⟨hop, hcheck⟩ := hc'
      cases hop
      rw [haw] at h
      obtain rfl : events = [] := h
      dsimp only
      rw [Function.update_self]
      simp only [unlockEvents, haw, hend, eventsOf_self, List.nil_append]
      exact .inr ⟨op, ret, rfl, hcheck, rfl⟩
    · dsimp only
      rw [Function.update_of_ne hc]
      simp only [unlockEvents, haw, hend, eventsOf_other hc, List.append_nil]
      exact h
  | disconnect d request op hq =>
    refine hquiet rfl ?_
    by_cases hc : c = d
    · subst hc
      dsimp only
      rw [Function.update_self]
      rcases hq with hq | hq
      · rw [hq] at h
        exact h
      · rw [hq] at h
        exact h
    · dsimp only
      rw [Function.update_of_ne hc]
      exact h

/-- In every run. -/
theorem run_auditOk (hrun : (adminSys crates store fromSlice).run .new as = some t) (c : Nat) :
    AuditOk fromSlice store (t.tasks c) (eventsOf c (unlockLog crates store fromSlice .new as))
      (t.handlers c) := by
  refine Sys.run_induction (P := fun as t => AuditOk fromSlice store (t.tasks c)
    (eventsOf c (unlockLog crates store fromSlice .new as)) (t.handlers c)) ?_ ?_ as t hrun
  · exact (rfl : eventsOf c [] = [])
  intro as t a u ht h hu
  rw [unlockLog, Sys.trace_snoc ht hu, eventsOf_append]
  exact h.step (run_adminOk ht) hu

/-- Events which say what was unlocked. -/
structure Truthful (store : KeyStore) (requestId : String) (inst : Nat → Prop)
    (events : List UnlockEvent) : Prop where
  unlocks : ∀ keyId i, store.position keyId = some i →
    ((∃ event ∈ events, event.unlocks keyId = true) ↔ inst i)
  known : ∀ keyId, ∀ event ∈ events, event.unlocks keyId = true →
    ∃ i, store.position keyId = some i
  once : ∀ keyId, events.countP (UnlockEvent.unlocks keyId) ≤ 1
  requestId : ∀ event ∈ events, event.requestId = requestId
  failure : ∀ event ∈ events, event.success = false → ∀ i, ¬ inst i

/-- Failures, when nothing was unlocked. -/
theorem Truthful.of_failed {requestId : String} {inst : Nat → Prop}
    (hfail : ∀ event ∈ events, event.success = false ∧ event.requestId = requestId)
    (hnone : ∀ i, ¬ inst i) : Truthful store requestId inst events := by
  have hno {keyId : String} : ∀ event ∈ events, ¬ event.unlocks keyId = true := by
    intro event he hu
    simp [UnlockEvent.unlocks, (hfail event he).1] at hu
  exact {
    unlocks := fun _ i _ => iff_of_false (fun ⟨event, he, hu⟩ => hno event he hu) (hnone i)
    known := fun _ event he hu => absurd hu (hno event he)
    once := fun _ => (List.countP_eq_zero.mpr hno).le.trans (Nat.zero_le 1)
    requestId := fun event he => (hfail event he).2
    failure := fun _ _ _ => hnone }

/-- A handler that has answered has logged what its task has unlocked. -/
theorem answered_truthful (hw : store.WellFormed keyrings)
    (hrun : (adminSys crates store fromSlice).run .new as = some t) {request : AdminRequest}
    {result : Except ApiError AdminResponse} (hc : t.handlers c = .answered request result) :
    Truthful store request.requestId
      (Installed crates store .fresh c (keyActions crates store fromSlice as))
      (eventsOf c (unlockLog crates store fromSlice .new as)) := by
  have haudit := run_auditOk hrun c
  have htask := (run_adminOk hrun).task c
  have hcall := run_callOk hw fresh_rested (run_keys hrun) c
  rw [hc] at haudit
  rcases haudit with ⟨hnone, error, hcheck⟩ | ⟨op, ret, hended, hcheck, hev⟩
  · rw [hnone] at htask
    exact .of_failed (check_error_events hcheck) (hcall.not_inst_of_public htask)
  · rw [hended] at htask
    rw [hev]
    cases ret with
    | none =>
      exact .of_failed (fun event he => ⟨finish_none_failure request event he,
        finish_requestId request none event he⟩) (hcall.not_inst_of_inKdf htask.2.2)
    | some ret =>
      rw [htask.1] at hcall
      exact {
        unlocks := fun keyId i hp => finish_unlocks_iff hw hcheck hcall hp
        known := fun keyId event he hu =>
          hcall.position_of_reports hw ((finish_reports_iff hw hcheck).mp ⟨event, he, hu⟩)
        once := countP_finish_le hw hcheck hcall
        requestId := finish_requestId request _
        failure := fun event he => not_inst_of_failure hw hcheck hcall he }

/-- What is in the log is of a handler that has answered. -/
theorem answered_of_mem_log (hrun : (adminSys crates store fromSlice).run .new as = some t)
    {event : UnlockEvent} (he : (c, event) ∈ unlockLog crates store fromSlice .new as) :
    ∃ request result, t.handlers c = .answered request result := by
  have haudit := run_auditOk hrun c
  rw [← mem_eventsOf] at he
  cases hc : t.handlers c with
  | answered request result => exact ⟨request, result, rfl⟩
  | out | queued | awaiting | gone =>
    rw [hc] at haudit
    rw [(haudit : eventsOf c _ = [])] at he
    cases he

/-- **The audit log is true, and this much of it is there.** In every run: the log says that a
request has unlocked a key iff its task has and its handler has answered, so what a task unlocks
after its client has gone is missing. No key is logged as unlocked twice. A failure is logged only
for a request that has unlocked nothing, and every event is of a request that has its answer. -/
theorem unlock_log_exact {keys : List KeyMaterial}
    (hstore : KeyStore.fromKeys keys keyrings = .ok store)
    (hrun : (adminSys crates store fromSlice).run .new as = some t) :
    (∀ c keyId i, store.position keyId = some i →
      ((∃ event, (c, event) ∈ unlockLog crates store fromSlice .new as ∧
          event.unlocks keyId = true) ↔
        Installed crates store .fresh c (keyActions crates store fromSlice as) i ∧
          ∃ request result, t.handlers c = .answered request result)) ∧
    (∀ keyId, (unlockLog crates store fromSlice .new as).countP
      (fun entry => entry.2.unlocks keyId) ≤ 1) ∧
    ∀ c event, (c, event) ∈ unlockLog crates store fromSlice .new as →
      (∃ request result, t.handlers c = .answered request result ∧
        event.requestId = request.requestId) ∧
      (event.success = false →
        ∀ i, ¬ Installed crates store .fresh c (keyActions crates store fromSlice as) i) := by
  have hw := KeyStore.wellFormed_of_ok hstore
  -- An entry and the handler that it is of.
  have hentry {c : Nat} {event : UnlockEvent}
      (he : (c, event) ∈ unlockLog crates store fromSlice .new as) :
      ∃ request result, t.handlers c = .answered request result ∧
        Truthful store request.requestId
          (Installed crates store .fresh c (keyActions crates store fromSlice as))
          (eventsOf c (unlockLog crates store fromSlice .new as)) := by
    obtain ⟨request, result, hc⟩ := answered_of_mem_log hrun he
    exact ⟨request, result, hc, answered_truthful hw hrun hc⟩
  have hinst {c i : Nat} {keyId : String} {event : UnlockEvent}
      (hp : store.position keyId = some i)
      (he : (c, event) ∈ unlockLog crates store fromSlice .new as)
      (hu : event.unlocks keyId = true) :
      Installed crates store .fresh c (keyActions crates store fromSlice as) i := by
    obtain ⟨request, result, -, htrue⟩ := hentry he
    exact (htrue.unlocks keyId i hp).mp ⟨event, mem_eventsOf.mpr he, hu⟩
  refine ⟨fun c keyId i hp => ?_, fun keyId => ?_, fun c event he => ?_⟩
  · constructor
    · rintro ⟨event, he, hu⟩
      obtain ⟨request, result, hc, -⟩ := hentry he
      exact ⟨hinst hp he hu, request, result, hc⟩
    · rintro ⟨hi, request, result, hc⟩
      obtain ⟨event, he, hu⟩ := ((answered_truthful hw hrun hc).unlocks keyId i hp).mpr hi
      exact ⟨event, mem_eventsOf.mp he, hu⟩
  · by_cases hex : ∃ entry ∈ unlockLog crates store fromSlice .new as,
        entry.2.unlocks keyId = true
    · obtain ⟨⟨c, event⟩, he, hu⟩ := hex
      obtain ⟨request, result, hc, htrue⟩ := hentry he
      obtain ⟨i, hp⟩ := htrue.known keyId event (mem_eventsOf.mpr he) hu
      refine le_trans ?_ (htrue.once keyId)
      rw [eventsOf, List.countP_map, List.countP_filter]
      refine List.countP_mono_left fun entry he' hu' => ?_
      -- Another handler with this key would have installed it too.
      have hsame := installed_unique (run_keys hrun) (hinst hp he' hu') (hinst hp he hu)
      simp [hu', hsame]
    · have hzero := List.countP_eq_zero.mpr fun entry he hu => hex ⟨entry, he, hu⟩
      exact hzero.le.trans (Nat.zero_le 1)
  · obtain ⟨request, result, hc, htrue⟩ := hentry he
    have he' := mem_eventsOf.mpr he
    exact ⟨⟨request, result, hc, htrue.requestId event he'⟩, htrue.failure event he'⟩

/-- One key is unlocked by a request that gets its answer, the rest of its keyring by one whose
client disconnects. -/
def exampleAuditRun : List AdminAct :=
  [.arrive 0 ⟨"01J", .unlockKey "microtun-firmware-next", jsonHeaders, unlockBody "correct horse"⟩,
    .acquire 0, .start 0, .work 0, .work 0, .work 0, .finish 0, .reply 0,
    .arrive 1 ⟨"01K", .unlockKeyring "firmware-prod", jsonHeaders, unlockBody "correct horse"⟩,
    .acquire 1, .start 1, .disconnect 1] ++ List.replicate 9 (.work 1) ++ [.finish 1]

theorem second_unlock_not_logged : ∃ t,
    (adminSys exampleCrates exampleKeyStore (readUnlockBody "correct horse")).run .new
      exampleAuditRun = some t ∧
    unlockLog exampleCrates exampleKeyStore (readUnlockBody "correct horse") .new exampleAuditRun =
      [(0, unlockKeyEvent "01J" "microtun-firmware-next" true "ok")] ∧
    (t.keys.cells 0).unlocked.isSome = true ∧
    Installed exampleCrates exampleKeyStore .fresh 0
      (keyActions exampleCrates exampleKeyStore (readUnlockBody "correct horse") exampleAuditRun) 1 ∧
    ¬ ∃ event, (1, event) ∈ unlockLog exampleCrates exampleKeyStore
      (readUnlockBody "correct horse") .new exampleAuditRun ∧
      event.unlocks "microtun-firmware-prod" = true := by
  obtain ⟨t, hrun, hlog, hsome, hgone⟩ : ∃ t,
      (adminSys exampleCrates exampleKeyStore (readUnlockBody "correct horse")).run .new
        exampleAuditRun = some t ∧
      unlockLog exampleCrates exampleKeyStore (readUnlockBody "correct horse") .new
        exampleAuditRun = [(0, unlockKeyEvent "01J" "microtun-firmware-next" true "ok")] ∧
      (t.keys.cells 0).unlocked.isSome = true ∧ t.handlers 1 = .gone := ⟨_, rfl, rfl, rfl, rfl⟩
  obtain ⟨hiff, -, -⟩ := unlock_log_exact exampleKeyStore_ok hrun
  refine ⟨t, hrun, hlog, hsome, ?_, fun hex => ?_⟩
  · have hnext := hiff 0 "microtun-firmware-next" 1 rfl
    rw [hlog] at hnext
    exact (hnext.mp ⟨_, List.mem_singleton.mpr rfl, by decide⟩).1
  · obtain ⟨-, request, result, hc⟩ := (hiff 1 "microtun-firmware-prod" 0 rfl).mp hex
    rw [hgone] at hc
    cases hc

end Runs

end MicrotunSigner
