import MicrotunSigner.Api.AdminAudit
import MicrotunSigner.Api.AdminOrigin

/-!
# What an answer of the admin API tells

A client that is answered knows something of the key store, and it stays true (`answer_true`): the
key that it named is unlocked, or of each member of the keyring that it named what the answer says
(`Told`).
-/

namespace MicrotunSigner

open Lib

variable {P S R : Type}

/-! ## The calls on the key store -/

section Calls

variable {crates : KeyCrates P S R} {store : KeyStore} {keyrings : List KeyringConfig} {c : Nat}
  {cells cells' : KeyCells P S R} {pc pc' : KeyPc (UnlockedKeyMaterial P S R)}
  {keyId passphrase : String} {outcome : UnlockOutcome}

theorem unlocked_of_checkLocked {M : Type} {cell : KeyCell M}
    (h : cell.checkLocked = .ok (some outcome)) : cell.unlocked.isSome = true := by
  unfold KeyCell.checkLocked at h
  split at h
  · cases h
  · split at h
    · assumption
    · cases h

theorem unlocked_of_install {M : Type} {cell : KeyCell M} {material : M}
    (h : (cell.install material).1 = .ok outcome) :
    (cell.install material).2.unlocked.isSome = true := by
  rcases install_cases material cell with he | he | ⟨-, he⟩
  · rw [he] at h
    cases h
  · unfold KeyCell.install at he ⊢
    split at he
    · cases he
    · split at he
      · rename_i hp hu
        rw [if_neg hp, if_pos hu]
        exact hu
      · cases he
  · rw [he]
    rfl

/-- Where `unlock` succeeds, its key is unlocked. -/
theorem unlocked_of_step
    (h : store.stepCall crates c cells pc =
      some (cells', .done (.unlock keyId passphrase) (.unlock (.ok outcome)))) :
    ∃ i, store.position keyId = some i ∧ (cells' i).unlocked.isSome = true := by
  cases pc with
  | unlockCheck id p =>
    obtain ⟨i, hi, he⟩ := Option.bind_eq_some_iff.mp h
    split at he
    · cases he
    · rename_i hcheck
      cases he
      exact ⟨i, (readable_eq_some.mp hi).1, unlocked_of_checkLocked hcheck⟩
    · cases he
  | unlockInstall id p material =>
    obtain ⟨i, hi, he⟩ := Option.bind_eq_some_iff.mp h
    have hresult : ((cells i).install material).1 = .ok outcome →
        ((cells i).install material).2.unlocked.isSome = true := unlocked_of_install
    obtain ⟨result, cell, hinstall⟩ : ∃ result cell, (cells i).install material = (result, cell) :=
      ⟨_, _, rfl⟩
    rw [hinstall] at he hresult
    cases he
    refine ⟨i, (readable_eq_some.mp hi).1, ?_⟩
    rw [Function.update_self]
    exact hresult rfl
  -- No other place of a call leads to the end of an `unlock` that succeeds.
  | scan name p rest vars =>
    generalize hpc : KeyPc.done (KeyOp.unlock keyId passphrase) (.unlock (.ok outcome)) = pc' at h
    cases keyStep_of_eq h with
    | endScan =>
      unfold KeyStore.endScan at hpc
      split at hpc <;> cases hpc
    | _ => cases hpc
  | _ =>
    generalize hpc : KeyPc.done (KeyOp.unlock keyId passphrase) (.unlock (.ok outcome)) = pc' at h
    cases keyStep_of_eq h <;> cases hpc

/-- **`unlock` returns when its key is unlocked**, by this call or before. -/
theorem unlocked_of_done {s t : KeySt P S R} {as : List KeyAct} (h0 : s.Rested)
    (hrun : (store.sys crates).run s as = some t)
    (hdone : t.calls c = .done (.unlock keyId passphrase) (.unlock (.ok outcome))) :
    ∃ i, store.position keyId = some i ∧ (t.cells i).unlocked.isSome = true := by
  revert hdone
  refine run_call h0 hrun (D := Installs c) (Q := fun _ cells pc =>
    pc = .done (.unlock keyId passphrase) (.unlock (.ok outcome)) →
      ∃ i, store.position keyId = some i ∧ (cells i).unlocked.isSome = true)
    (fun _ _ _ _ h => h.1) nofun ?start ?own ?other
  case start =>
    rintro did cells op pc hpc - rfl
    cases keyEntry_of_eq hpc
  case own =>
    rintro as t cells pc did - hs - - rfl
    exact unlocked_of_step hs
  case other =>
    rintro did cells cells' pc hkeep h hpc
    obtain ⟨i, hp, hi⟩ := h hpc
    exact ⟨i, hp, hkeep.isSome i hi⟩

/-- What a keyring call says of a member. -/
inductive Told (crates : KeyCrates P S R) (store : KeyStore) (cells : KeyCells P S R)
    (passphrase : String) (i : Nat) : KeyringMemberResult → Prop
  | unlocked {material : UnlockedKeyMaterial P S R} (active : store.isActive i = true)
      (unlocked : (cells i).unlocked = some material)
      (opens : store.materialAt crates passphrase i = some material) : Told crates store cells
        passphrase i .unlocked
  | already (active : store.isActive i = true) (unlocked : (cells i).unlocked.isSome = true) :
      Told crates store cells passphrase i .alreadyUnlocked
  | skipped (inactive : store.isActive i = false) :
      Told crates store cells passphrase i .skippedInactive

theorem Told.mono {i : Nat} {result : KeyringMemberResult}
    (h : Told crates store cells passphrase i result) (hk : Keeps cells cells') :
    Told crates store cells' passphrase i result := by
  cases h with
  | unlocked active unlocked opens => exact .unlocked active (hk i _ unlocked) opens
  | already active unlocked => exact .already active (hk.isSome i unlocked)
  | skipped inactive => exact .skipped inactive

/-- **`unlock_keyring` tells of every member** what is so. -/
theorem told_of_done {t : KeySt P S R} {as : List KeyAct} {name : String}
    {outcomes : List KeyringMemberOutcome} (hw : store.WellFormed keyrings)
    (hrun : (store.sys crates).run .fresh as = some t)
    (hdone : t.calls c = .done (.unlockKeyring name passphrase) (.unlockKeyring (.ok outcomes))) :
    ∃ r : Nat → KeyringMemberResult,
      outcomes = (store.keyringMembers name).map (fun i => ⟨store.idAt i, r i⟩) ∧
      ∀ i ∈ store.keyringMembers name, Told crates store t.cells passphrase i (r i) := by
  have hret := run_callOk hw fresh_rested hrun c
  rw [hdone] at hret
  obtain ⟨r, houtcomes, hr⟩ := RingReport.report hret |>.shape
  refine ⟨r, houtcomes, fun i hi => ?_⟩
  obtain ⟨hinactive, -, hactive⟩ := hr i hi
  cases ha : store.isActive i with
  | false =>
    rw [hinactive ha]
    exact .skipped ha
  | true =>
    obtain ⟨hsome, hin, hnot⟩ := hactive ha List.not_mem_nil
    by_cases hinst : Installed crates store .fresh c as i
    · rw [hin hinst]
      obtain ⟨material, hm⟩ := Option.isSome_iff_exists.mp hsome
      obtain ⟨d, op, hd, hop, p, hasks, -, hmat⟩ := run_opens hw hrun hm
      obtain rfl := installed_unique hrun hd hinst
      rw [hdone] at hop
      cases hop
      obtain ⟨-, rfl⟩ := hasks
      exact .unlocked ha hm hmat
    · rw [hnot hinst]
      exact .already ha hsome

end Calls

/-! ## The answers of the handlers -/

/-- The request of a handler that has not been dropped. -/
def AdminPc.request : AdminPc → Option AdminRequest
  | .queued request _ | .awaiting request _ | .answered request _ => some request
  | .out | .gone => none

section Answers

variable {crates : KeyCrates P S R} {store : KeyStore} {keyrings : List KeyringConfig}
  {fromSlice : List UInt8 → Option UnlockRequest} {t u : AdminSt P S R} {a : AdminAct}
  {as : List AdminAct} {c : Nat} {request : AdminRequest}

/-- What the checks of an unlock request answer is no success. -/
theorem check_error_status {events : List UnlockEvent} {error : ApiError}
    (h : request.check fromSlice store = .error (events, error)) :
    error.status.isSuccess = false := by
  have hjson : ∀ {e}, requireJsonUnlockRequest request.headers request.requestId = .error e →
      e.status.isSuccess = false := by
    intro e he
    rw [(bailIf_eq_error.mp he).2]
    rfl
  have hparse : ∀ {e}, parseUnlockRequest fromSlice request.body request.requestId = .error e →
      e.status.isSuccess = false := by
    intro e he
    simp only [parseUnlockRequest, Except.bind_eq_error, okOr_eq_error, bailIf_eq_error] at he
    rcases he with ⟨-, rfl⟩ | ⟨r, -, ⟨-, rfl⟩ | ⟨_, -, he⟩⟩
    · rfl
    · rfl
    · cases he
  unfold AdminRequest.check at h
  split at h
  · simp only [beginUnlockKey, Except.bind_eq_error, mapError_eq_error, okOr_eq_error] at h
    rcases h with ⟨e, he, heq⟩ | ⟨_, -, ⟨-, heq⟩ | ⟨key, -, ⟨e, he, heq⟩ | ⟨_, -, heq⟩⟩⟩
    · cases heq
      exact hjson he
    · cases heq
      rfl
    · cases heq
      exact hparse he
    · cases heq
  · simp only [beginUnlockKeyring, Except.bind_eq_error, mapError_eq_error, bailIf_eq_error] at h
    rcases h with ⟨e, he, heq⟩ | ⟨_, -, ⟨-, heq⟩ | ⟨_, -, ⟨e, he, heq⟩ | ⟨_, -, heq⟩⟩⟩
    · cases heq
      exact hjson he
    · cases heq
      rfl
    · cases heq
      exact hparse he
    · cases heq

theorem finish_error_status {ret : Option KeyRet} {error : ApiError}
    (h : (request.finish ret).2 = .error error) : error.status.isSuccess = false := by
  unfold AdminRequest.finish at h
  split at h
  · rename_i keyId _
    cases hret : ret.bind KeyRet.ofUnlock with
    | none =>
      rw [hret] at h
      cases h
      rfl
    | some result =>
      rw [hret] at h
      rcases result with e | outcome
      · cases h
        cases e <;> rfl
      · cases h
  · rename_i keyring _
    cases hret : ret.bind KeyRet.ofUnlockKeyring with
    | none =>
      rw [hret] at h
      cases h
      rfl
    | some result =>
      rw [hret] at h
      rcases result with e | outcomes
      · cases h
        cases e <;> rfl
      · cases h

/-- What a handler answers: the check of its request, or the end of its task. -/
def AnswerOk (fromSlice : List UInt8 → Option UnlockRequest) (store : KeyStore) (task : TaskPc) :
    AdminPc → Prop
  | .answered request result =>
      (∃ events error, request.check fromSlice store = .error (events, error) ∧
        result = .error error) ∨
      ∃ op ret, task = .ended op ret ∧ request.check fromSlice store = .ok op ∧
        result = (request.finish ret).2
  | _ => True

/-- A task that moves is not at its end. -/
theorem AnswerOk.task_moves {task task' : TaskPc} {pc : AdminPc}
    (h : AnswerOk fromSlice store task pc) (hholds : task.holds = true) :
    AnswerOk fromSlice store task' pc := by
  cases pc with
  | answered request result =>
    rcases h with h | ⟨op, ret, rfl, -⟩
    · exact .inl h
    · cases hholds
  | out | queued | awaiting | gone => trivial

theorem answerOk_entry {task : TaskPc} (request : AdminRequest) :
    AnswerOk fromSlice store task (request.entry fromSlice store) := by
  unfold AdminRequest.entry
  cases hcheck : request.check fromSlice store with
  | error e => exact .inl ⟨e.1, e.2, hcheck, rfl⟩
  | ok op => trivial

theorem AnswerOk.step (hok : AdminOk store fromSlice t)
    (h : ∀ c, AnswerOk fromSlice store (t.tasks c) (t.handlers c))
    (hu : (adminSys crates store fromSlice).step t a = some u) (c : Nat) :
    AnswerOk fromSlice store (u.tasks c) (u.handlers c) := by
  have htask {d : Nat} (hd : (t.tasks d).holds = true) (task' : TaskPc) :
      AnswerOk fromSlice store (Function.update t.tasks d task' c) (t.handlers c) := by
    rcases update_cases t.tasks d task' c with ⟨rfl, he⟩ | ⟨-, he⟩
    · rw [he]
      exact (h c).task_moves hd
    · rw [he]
      exact h c
  have hhandler {d : Nat} {pc : AdminPc} (hpc : AnswerOk fromSlice store (t.tasks d) pc) :
      AnswerOk fromSlice store (t.tasks c) (Function.update t.handlers d pc c) := by
    rcases update_cases t.handlers d pc c with ⟨rfl, he⟩ | ⟨-, he⟩
    · rw [he]
      exact hpc
    · rw [he]
      exact h c
  cases adminStep hu with
  | arrive d request hout hidle => exact hhandler (answerOk_entry request)
  | acquire d request op hq hfree =>
    dsimp only
    rcases update_cases t.handlers d (.awaiting request op) c with ⟨rfl, he⟩ | ⟨hne, he⟩
    · rw [he]
      trivial
    · rw [he, Function.update_of_ne hne]
      exact h c
  | start d op keys hsp _ => exact htask (by rw [hsp]; rfl) _
  | work | publicCall | publicStep | poison => exact h c
  | finish d op op' ret hr _ => exact htask (by rw [hr]; rfl) _
  | panic d op hr _ => exact htask (by rw [hr]; rfl) _
  | reply d request op op' ret haw hend =>
    have hd := hok.handler d
    rw [haw, hend] at hd
    obtain ⟨hop, hcheck⟩ := hd
    cases hop
    exact hhandler (.inr ⟨op, ret, hend, hcheck, rfl⟩)
  | disconnect d request op hq => exact hhandler trivial

theorem run_answerOk (hrun : (adminSys crates store fromSlice).run .new as = some t) (c : Nat) :
    AnswerOk fromSlice store (t.tasks c) (t.handlers c) := by
  refine Sys.run_induction (P := fun _ t => ∀ c, AnswerOk fromSlice store (t.tasks c) (t.handlers c))
    ?_ ?_ as t hrun c
  · exact fun _ => trivial
  · exact fun as t a u ht ih hu c => AnswerOk.step (run_adminOk ht) ih hu c

/-- What a success tells the client of the key store. -/
def AnswerTrue (crates : KeyCrates P S R) (store : KeyStore)
    (fromSlice : List UInt8 → Option UnlockRequest) (cells : KeyCells P S R)
    (request : AdminRequest) : AdminResponse → Prop
  | .noContent => ∃ keyId i, request.route = .unlockKey keyId ∧ store.position keyId = some i ∧
      store.isActive i = true ∧ (cells i).unlocked.isSome = true
  | .keyring response => ∃ name passphrase, ∃ r : Nat → KeyringMemberResult,
      request.route = .unlockKeyring name ∧ fromSlice request.body = some ⟨passphrase⟩ ∧
      response = ⟨name, (store.keyringMembers name).map fun i => ⟨store.idAt i, (r i).asStr⟩⟩ ∧
      ∀ i ∈ store.keyringMembers name, Told crates store cells passphrase i (r i)

theorem AnswerTrue.mono {cells cells' : KeyCells P S R} {response : AdminResponse}
    (h : AnswerTrue crates store fromSlice cells request response) (hk : Keeps cells cells') :
    AnswerTrue crates store fromSlice cells' request response := by
  cases response with
  | noContent =>
    obtain ⟨keyId, i, hroute, hp, hactive, hi⟩ := h
    exact ⟨keyId, i, hroute, hp, hactive, hk.isSome i hi⟩
  | keyring response =>
    obtain ⟨name, passphrase, r, hroute, hbody, he, htold⟩ := h
    exact ⟨name, passphrase, r, hroute, hbody, he, fun i hi => (htold i hi).mono hk⟩

/-- **A success is true**, in every run. -/
theorem answer_true {response : AdminResponse} (hw : store.WellFormed keyrings)
    (hrun : (adminSys crates store fromSlice).run .new as = some t)
    (hc : t.handlers c = .answered request (.ok response)) :
    AnswerTrue crates store fromSlice t.keys.cells request response := by
  have hanswer := run_answerOk hrun c
  rw [hc] at hanswer
  obtain ⟨_, _, -, he⟩ | ⟨op, ret, htask, hcheck, he⟩ := hanswer
  · cases he
  have hdone := (run_adminOk hrun).task c
  rw [htask] at hdone
  have hend : ret.isSome = true := by
    cases ret with
    | some ret => rfl
    | none =>
      unfold AdminRequest.finish at he
      split at he <;> cases he
  obtain ⟨ret, rfl⟩ := Option.isSome_iff_exists.mp hend
  obtain ⟨hdone, -⟩ := hdone
  cases hroute : request.route with
  | unlockKey keyId =>
    obtain ⟨passphrase, rfl⟩ := check_unlockKey hw hroute hcheck
    rw [AdminRequest.finish, hroute] at he
    cases ret with
    | unlock result =>
      cases result with
      | error e => cases he
      | ok outcome =>
        cases he
        have hret := run_callOk hw fresh_rested (run_keys hrun) c
        rw [hdone] at hret
        obtain ⟨i, hp, hactive, -⟩ := hret
        obtain ⟨j, hp', hj⟩ := unlocked_of_done fresh_rested (run_keys hrun) hdone
        rw [hp] at hp'
        cases hp'
        exact ⟨keyId, i, hroute, hp, hactive, hj⟩
    | _ => cases he
  | unlockKeyring name =>
    unfold AdminRequest.check at hcheck
    rw [hroute] at hcheck
    obtain ⟨-, -, -, passphrase, hbody, -, rfl⟩ := beginUnlockKeyring_ok hcheck
    rw [AdminRequest.finish, hroute] at he
    cases ret with
    | unlockKeyring result =>
      cases result with
      | error e => cases he
      | ok outcomes =>
        cases he
        obtain ⟨r, rfl, htold⟩ := told_of_done hw (run_keys hrun) hdone
        refine ⟨name, passphrase, r, hroute, hbody, ?_, htold⟩
        rw [List.map_map]
        rfl
    | _ => cases he

/-- An error that a handler answers is no success. -/
theorem answer_error_status {error : ApiError}
    (hrun : (adminSys crates store fromSlice).run .new as = some t)
    (hc : t.handlers c = .answered request (.error error)) : error.status.isSuccess = false := by
  have hanswer := run_answerOk hrun c
  rw [hc] at hanswer
  obtain ⟨_, _, hcheck, he⟩ | ⟨op, ret, -, -, he⟩ := hanswer
  · cases he
    exact check_error_status hcheck
  · exact finish_error_status he.symm

theorem request_entry (request : AdminRequest) :
    (request.entry fromSlice store).request = some request := by
  unfold AdminRequest.entry
  cases request.check fromSlice store <;> rfl

/-- A handler keeps its request, unless its client disconnects. -/
theorem request_step (hu : (adminSys crates store fromSlice).step t a = some u)
    (h : (t.handlers c).request = some request ∨ t.handlers c = .gone) :
    (u.handlers c).request = some request ∨ u.handlers c = .gone := by
  have hhandler {d : Nat} {pc : AdminPc} (hpc : c = d →
      pc.request = some request ∨ pc = .gone) :
      (Function.update t.handlers d pc c).request = some request ∨
        Function.update t.handlers d pc c = .gone := by
    rcases update_cases t.handlers d pc c with ⟨hd, he⟩ | ⟨-, he⟩
    · rw [he]
      exact hpc hd
    · rw [he]
      exact h
  cases adminStep hu with
  | arrive d request' hout hidle =>
    refine hhandler fun hd => ?_
    subst hd
    rw [hout] at h
    rcases h with h | h <;> cases h
  | acquire d request' op hq hfree =>
    refine hhandler fun hd => ?_
    subst hd
    rw [hq] at h
    rcases h with h | h
    · exact .inl h
    · cases h
  | start | work | publicCall | publicStep | poison | finish | panic => exact h
  | reply d request' op op' ret haw hend =>
    refine hhandler fun hd => ?_
    subst hd
    rw [haw] at h
    rcases h with h | h
    · exact .inl h
    · cases h
  | disconnect d request' op hq => exact hhandler fun _ => .inr rfl

/-- No step of the admin API takes material away. -/
theorem adminStep_keeps (hu : (adminSys crates store fromSlice).step t a = some u) :
    Keeps t.keys.cells u.keys.cells := by
  cases adminStep hu with
  | arrive | acquire | finish | panic | reply | disconnect => exact keeps_refl
  | start c op keys _ hk => exact step_keeps hk
  | work c op keys _ hk => exact step_keeps hk
  | publicCall c op keys _ _ hk => exact step_keeps hk
  | publicStep c keys _ hk => exact step_keeps hk
  | poison i keys hk => exact step_keeps hk

end Answers

end MicrotunSigner
