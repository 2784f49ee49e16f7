import MicrotunSigner.Api.UnlockKeyring
import MicrotunSigner.Key.Atomic

/-!
# The admin API (`api.rs`)

`unlock_key` and `unlock_keyring` with their audit events, and any number of such requests at once
next to the calls of the public API (`adminSys`).

A handler checks its request (`AdminRequest.check`), waits for the one permit of `unlock_permits`
and hands the permit to a task on the blocking pool, which makes the call on the key store. When the
task has ended, the handler answers (`AdminRequest.finish`).

* A client can disconnect while its handler waits. The handler is then dropped, but not the task:
  the permit is given back when the task ends.
* A task can panic in the KDF, that is, in the code of a crate. Its permit is then given back too.
* The permits are never closed, so that `acquire_owned` does not fail.
-/

namespace MicrotunSigner

open Lib Lib.Text

/-! ## Audit events -/

/-- An audit event of an unlock. -/
structure UnlockEvent where
  requestId : String
  operation : String
  success : Bool
  reason : String
  keyId : Option String := none
  keyring : Option String := none
  failedKeyIds : Option (List String) := none
  deriving DecidableEq, Repr

/-- The event of `unlock_key`. -/
def unlockKeyEvent (requestId keyId : String) (success : Bool) (reason : String) : UnlockEvent where
  requestId
  operation := "unlock-key"
  success
  reason
  keyId := some keyId

def keyringAuditFailure (requestId keyring reason : String) (failedKeys : List String) :
    UnlockEvent where
  requestId
  operation := "unlock-keyring"
  success := false
  reason
  keyring := some keyring
  failedKeyIds := some failedKeys

/-- The event for one outcome of `unlock_keyring`. -/
def keyringOutcomeEvent (requestId keyring : String) (outcome : KeyringMemberOutcome) :
    UnlockEvent where
  requestId
  operation := "unlock-keyring"
  success := true
  reason := outcome.result.asStr
  keyId := some outcome.keyId
  keyring := some keyring

/-- The event of `keyring_unlock_task_failed`. -/
def keyringTaskFailedEvent (requestId keyring : String) : UnlockEvent where
  requestId
  operation := "unlock-keyring"
  success := false
  reason := "unlock-task-failed"
  keyring := some keyring

/-! ## The handlers -/

inductive AdminRoute where
  | unlockKey (keyId : String)
  | unlockKeyring (keyring : String)
  deriving DecidableEq

/-- A request to the admin socket. -/
structure AdminRequest where
  requestId : String
  route : AdminRoute
  headers : HeaderMap
  body : List UInt8

/-- The body of a successful answer. -/
inductive AdminResponse where
  | noContent
  | keyring (response : KeyringUnlockResponse)

/-- What a handler that ends has logged, and its answer. -/
abbrev AdminEnd := List UnlockEvent × Except ApiError AdminResponse

def unlockTaskFailed (requestId : String) : ApiError :=
  .new .internalServerError "key-unlock-failure" "Signing key unlock failed"
    "The signing key could not be unlocked due to an internal error." requestId

/-- The answer to each error of `KeyMaterial::unlock`. -/
def unlockError (error : UnlockError) (requestId : String) : ApiError :=
  match error with
  | .inactive => .new .conflict "key-state-conflict" "Signing key is not active"
      "Only active signing keys can be unlocked." requestId
  | .invalidPassphrase => .new .forbidden "invalid-key-passphrase" "Signing key unlock failed"
      "The supplied passphrase could not unlock the encrypted signing key." requestId
  | .lockPoisoned => .new .internalServerError "key-lock-failure" "Signing key lock failed"
      "The signing key could not be unlocked due to an internal state error." requestId

/-- `unlock_key` up to its permit. An error is what it has logged and its answer. -/
def beginUnlockKey (fromSlice : List UInt8 → Option UnlockRequest) (store : KeyStore)
    (requestId keyId : String) (headers : HeaderMap) (body : List UInt8) :
    Except (List UnlockEvent × ApiError) KeyOp := do
  (requireJsonUnlockRequest headers requestId).mapError fun e => ([], e)
  let key ← okOr (if validKeyId keyId then store.get keyId else none)
    ([unlockKeyEvent requestId keyId false "unknown-key"],
      .new .notFound "unknown-key" "Unknown signing key"
        "The requested immutable signing key identifier does not exist." requestId)
  let passphrase ← (parseUnlockRequest fromSlice body requestId).mapError fun e => ([], e)
  return .unlock key.id passphrase

/-- `unlock_key` after its task, which has unlocked the key `keyId` (`none`: it panicked). -/
def finishUnlockKey (requestId keyId : String) :
    Option (Except UnlockError UnlockOutcome) → AdminEnd
  | none => ([unlockKeyEvent requestId keyId false "unlock-task-failed"],
      .error (unlockTaskFailed requestId))
  | some (.ok outcome) =>
    ([unlockKeyEvent requestId keyId true
      (if outcome == .alreadyUnlocked then "already-unlocked" else "ok")], .ok .noContent)
  | some (.error error) =>
    (match error with
      | .inactive => [unlockKeyEvent requestId keyId false "key-not-active"]
      | .invalidPassphrase => [unlockKeyEvent requestId keyId false "invalid-passphrase"]
      -- This error is not logged.
      | .lockPoisoned => [],
      .error (unlockError error requestId))

/-- `unlock_keyring` up to its permit. -/
def beginUnlockKeyring (fromSlice : List UInt8 → Option UnlockRequest) (store : KeyStore)
    (requestId keyring : String) (headers : HeaderMap) (body : List UInt8) :
    Except (List UnlockEvent × ApiError) KeyOp := do
  (requireJsonUnlockRequest headers requestId).mapError fun e => ([], e)
  bailIf (!validKeyringName keyring || !store.hasKeyring keyring)
    ([keyringAuditFailure requestId keyring "unknown-keyring" []], unknownKeyringError requestId)
  let passphrase ← (parseUnlockRequest fromSlice body requestId).mapError fun e => ([], e)
  return .unlockKeyring keyring passphrase

/-- `unlock_keyring` after its task. -/
def finishUnlockKeyring (requestId keyring : String) :
    Option (Except KeyringUnlockError (List KeyringMemberOutcome)) → AdminEnd
  | none => ([keyringTaskFailedEvent requestId keyring], .error (keyringUnlockTaskFailed requestId))
  | some (.ok outcomes) => (outcomes.map (keyringOutcomeEvent requestId keyring),
      .ok (.keyring ⟨keyring, outcomes.map .ofOutcome⟩))
  | some (.error error) =>
    (match error with
      | .unknownKeyring => [keyringAuditFailure requestId keyring "unknown-keyring" []]
      | .noActiveKeys => [keyringAuditFailure requestId keyring "no-active-keys" []]
      | .invalidPassphrase => [keyringAuditFailure requestId keyring "invalid-passphrase" []]
      | .passphraseMismatch _ failed =>
        [keyringAuditFailure requestId keyring "keyring-passphrase-mismatch" failed]
      | .lockPoisoned => [],
      .error (keyringUnlockError error requestId))

/-- What `KeyMaterial::unlock` returned. -/
def KeyRet.ofUnlock : KeyRet → Option (Except UnlockError UnlockOutcome)
  | .unlock result => some result
  | _ => none

/-- What `KeyStore::unlock_keyring` returned. -/
def KeyRet.ofUnlockKeyring :
    KeyRet → Option (Except KeyringUnlockError (List KeyringMemberOutcome))
  | .unlockKeyring result => some result
  | _ => none

namespace AdminRequest

/-- A handler up to its permit: the call that its task is to make. -/
def check (fromSlice : List UInt8 → Option UnlockRequest) (store : KeyStore)
    (request : AdminRequest) : Except (List UnlockEvent × ApiError) KeyOp :=
  match request.route with
  | .unlockKey keyId =>
    beginUnlockKey fromSlice store request.requestId keyId request.headers request.body
  | .unlockKeyring keyring =>
    beginUnlockKeyring fromSlice store request.requestId keyring request.headers request.body

/-- A handler after its task, which has returned `ret` (`none`: it panicked). -/
def finish (request : AdminRequest) (ret : Option KeyRet) : AdminEnd :=
  match request.route with
  | .unlockKey keyId => finishUnlockKey request.requestId keyId (ret.bind KeyRet.ofUnlock)
  | .unlockKeyring keyring =>
    finishUnlockKeyring request.requestId keyring (ret.bind KeyRet.ofUnlockKeyring)

end AdminRequest

/-! ## Any number of requests -/

/-- Where a handler is: not called; before the permit; waiting for its task; at its end; dropped, since
its client has disconnected. -/
inductive AdminPc where
  | out
  | queued (request : AdminRequest) (op : KeyOp)
  | awaiting (request : AdminRequest) (op : KeyOp)
  | answered (request : AdminRequest) (result : Except ApiError AdminResponse)
  | gone

/-- Where a blocking task is: none; handed to the pool; running; at its end, with what it returned
(`none`: it panicked). -/
inductive TaskPc where
  | none
  | spawned (op : KeyOp)
  | running (op : KeyOp)
  | ended (op : KeyOp) (ret : Option KeyRet)

/-- The task has the permit. -/
def TaskPc.holds : TaskPc → Bool
  | .spawned _ => true
  | .running _ => true
  | _ => false

/-- The key store, the free permits, the handlers and their tasks. The task of a handler makes the
call of the same number. -/
structure AdminSt (P S R : Type) where
  keys : KeySt P S R
  permits : Nat
  handlers : Nat → AdminPc
  tasks : Nat → TaskPc

/-- `publicCall` and `publicStep` are the calls of the public API on the key store. -/
inductive AdminAct where
  | arrive (c : Nat) (request : AdminRequest)
  | acquire (c : Nat)
  | start (c : Nat)
  | work (c : Nat)
  | finish (c : Nat)
  | panic (c : Nat)
  | reply (c : Nat)
  | disconnect (c : Nat)
  | publicCall (c : Nat) (op : KeyOp)
  | publicStep (c : Nat)
  | poison (i : Nat)

/-- `AdminState::new`, over the store as it is loaded. -/
def AdminSt.new {P S R : Type} : AdminSt P S R := ⟨.fresh, 1, fun _ => .out, fun _ => .none⟩

section System

variable {P S R : Type} (crates : KeyCrates P S R) (store : KeyStore)

/-- A step of the key store. -/
def AdminSt.keyStep (s : AdminSt P S R) (a : KeyAct) : Option (AdminSt P S R) :=
  ((store.sys crates).step s.keys a).map fun keys => { s with keys }

/-- All interleavings of admin requests, their tasks and the calls of the public API. -/
def adminSys (fromSlice : List UInt8 → Option UnlockRequest) : Sys (AdminSt P S R) AdminAct where
  init s := s = .new
  step s
    | .arrive c request => match s.handlers c, s.keys.calls c with
      | .out, .idle => some { s with
          handlers := Function.update s.handlers c (match request.check fromSlice store with
            | .error (_, error) => .answered request (.error error)
            | .ok op => .queued request op) }
      | _, _ => none
    | .acquire c => match s.handlers c with
      | .queued request op =>
        if s.permits = 0 then none
        else some { s with
          permits := s.permits - 1
          handlers := Function.update s.handlers c (.awaiting request op)
          tasks := Function.update s.tasks c (.spawned op) }
      | _ => none
    | .start c => match s.tasks c with
      | .spawned op => (s.keyStep crates store (.start c op)).map fun s =>
          { s with tasks := Function.update s.tasks c (.running op) }
      | _ => none
    | .work c => match s.tasks c with
      | .running _ => s.keyStep crates store (.run c)
      | _ => none
    | .finish c => match s.tasks c, s.keys.calls c with
      | .running op, .done _ ret => some { s with
          permits := s.permits + 1
          tasks := Function.update s.tasks c (.ended op (some ret)) }
      | _, _ => none
    | .panic c => match s.tasks c with
      | .running op =>
        if (s.keys.calls c).inKdf then some { s with
          permits := s.permits + 1
          tasks := Function.update s.tasks c (.ended op none) }
        else none
      | _ => none
    | .reply c => match s.handlers c, s.tasks c with
      | .awaiting request _, .ended _ ret => some { s with
          handlers := Function.update s.handlers c (.answered request (request.finish ret).2) }
      | _, _ => none
    | .disconnect c => match s.handlers c with
      | .queued _ _ => some { s with handlers := Function.update s.handlers c .gone }
      | .awaiting _ _ => some { s with handlers := Function.update s.handlers c .gone }
      | _ => none
    | .publicCall c op => match s.handlers c with
      | .out => if op.isPublic then s.keyStep crates store (.start c op) else none
      | _ => none
    | .publicStep c => match s.tasks c with
      | .none => s.keyStep crates store (.run c)
      | _ => none
    | .poison i => s.keyStep crates store (.poison i)

/-- What a step logs, with the number of the handler. -/
def unlockEvents (fromSlice : List UInt8 → Option UnlockRequest) (t : AdminSt P S R) :
    AdminAct → AdminSt P S R → List (Nat × UnlockEvent)
  | .arrive c request, _ => match request.check fromSlice store with
    | .error (events, _) => events.map (c, ·)
    | .ok _ => []
  | .reply c, _ => match t.handlers c, t.tasks c with
    | .awaiting request _, .ended _ ret => (request.finish ret).1.map (c, ·)
    | _, _ => []
  | _, _ => []

/-- The audit log of a run. -/
def unlockLog (fromSlice : List UInt8 → Option UnlockRequest) (s : AdminSt P S R)
    (as : List AdminAct) : List (Nat × UnlockEvent) :=
  (adminSys crates store fromSlice).trace (unlockEvents store fromSlice) s as

end System

/-! ## The two parts of a handler -/

section Handlers

variable {fromSlice : List UInt8 → Option UnlockRequest} {store : KeyStore} {op : KeyOp}
  {requestId keyId keyring : String} {headers : HeaderMap} {body : List UInt8}

/-- What a passphrase was read from. -/
theorem parseUnlockRequest_ok {passphrase : String}
    (h : parseUnlockRequest fromSlice body requestId = .ok passphrase) :
    fromSlice body = some ⟨passphrase⟩ ∧ passphrase ≠ "" := by
  simp only [parseUnlockRequest, Except.bind_eq_ok, okOr_eq_ok, bailIf_eq_ok, exists_const,
    isEmpty_eq_false] at h
  obtain ⟨⟨_⟩, hbody, hne, he⟩ := h
  cases he
  exact ⟨hbody, hne⟩

theorem beginUnlockKey_ok (h : beginUnlockKey fromSlice store requestId keyId headers body = .ok op) :
    isJsonContentType headers = true ∧ validKeyId keyId = true ∧ ∃ key passphrase,
      store.get keyId = some key ∧ fromSlice body = some ⟨passphrase⟩ ∧ passphrase ≠ "" ∧
      op = .unlock key.id passphrase := by
  simp only [beginUnlockKey, requireJsonUnlockRequest, Except.bind_eq_ok, mapError_eq_ok,
    bailIf_eq_ok, okOr_eq_ok, exists_const, Bool.not_eq_false'] at h
  obtain ⟨hjson, key, hkey, passphrase, hparse, he⟩ := h
  obtain ⟨hbody, hne⟩ := parseUnlockRequest_ok hparse
  cases he
  split at hkey
  · rename_i hid
    exact ⟨hjson, hid, key, passphrase, hkey, hbody, hne, rfl⟩
  · cases hkey

theorem beginUnlockKeyring_ok
    (h : beginUnlockKeyring fromSlice store requestId keyring headers body = .ok op) :
    isJsonContentType headers = true ∧ validKeyringName keyring = true ∧
      store.hasKeyring keyring = true ∧ ∃ passphrase, fromSlice body = some ⟨passphrase⟩ ∧
      passphrase ≠ "" ∧ op = .unlockKeyring keyring passphrase := by
  simp only [beginUnlockKeyring, requireJsonUnlockRequest, Except.bind_eq_ok, mapError_eq_ok,
    bailIf_eq_ok, exists_const, Bool.not_eq_false', Bool.or_eq_false_iff] at h
  obtain ⟨hjson, ⟨hname, hhas⟩, passphrase, hparse, he⟩ := h
  obtain ⟨hbody, hne⟩ := parseUnlockRequest_ok hparse
  cases he
  exact ⟨hjson, hname, hhas, passphrase, hbody, hne, rfl⟩

/-- The first part of `unlock_keyring` refuses what the handler `unlockKeyring` refuses. -/
theorem unlockKeyring_refused {events : List UnlockEvent} {error : ApiError}
    (h : beginUnlockKeyring fromSlice store requestId keyring headers body = .error (events, error))
    (task : String → Option (Except KeyringUnlockError (List KeyringMemberOutcome))) :
    unlockKeyring fromSlice store requestId keyring headers body task = .error error := by
  unfold beginUnlockKeyring at h
  unfold unlockKeyring
  cases hjson : requireJsonUnlockRequest headers requestId with
  | error e =>
    rw [hjson] at h
    cases h
    rfl
  | ok _ =>
    cases hknown : !validKeyringName keyring || !store.hasKeyring keyring with
    | true =>
      rw [hjson, hknown] at h
      cases h
      rfl
    | false =>
      cases hparse : parseUnlockRequest fromSlice body requestId with
      | error e =>
        rw [hjson, hknown, hparse] at h
        cases h
        rfl
      | ok passphrase =>
        rw [hjson, hknown, hparse] at h
        cases h

/-- The second part answers as the handler does. -/
theorem unlockKeyring_answered {passphrase : String}
    (h : beginUnlockKeyring fromSlice store requestId keyring headers body =
      .ok (.unlockKeyring keyring passphrase))
    (task : String → Option (Except KeyringUnlockError (List KeyringMemberOutcome))) :
    (unlockKeyring fromSlice store requestId keyring headers body task).map .keyring =
      (finishUnlockKeyring requestId keyring (task passphrase)).2 := by
  simp only [beginUnlockKeyring, Except.bind_eq_ok, mapError_eq_ok, bailIf_eq_ok,
    exists_const] at h
  obtain ⟨_, hjson, hknown, _, hparse, he⟩ := h
  cases he
  unfold unlockKeyring
  rw [hjson, hknown, hparse]
  change Except.map _ (okOr (task passphrase) _ >>= _) = _
  rcases task passphrase with _ | _ | outcomes <;> rfl

end Handlers

end MicrotunSigner
