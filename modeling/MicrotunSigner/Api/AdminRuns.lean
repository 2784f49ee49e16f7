import MicrotunSigner.Api.Admin
import MicrotunSigner.Lib.Permits

/-!
# Runs of the admin API (`api.rs`)

The steps of `adminSys` (`AdminStep`), its key store as a component (`adminKeys`), and the invariant
of its tasks and handlers (`AdminOk`): the permit is free or belongs to one task, and a task agrees
with its call on the key store.

* `one_unlock_at_a_time`: whatever clients do, one unlock at most is on its way, and the permit is
  free iff none is.
-/

namespace MicrotunSigner

open Lib

variable {P S R : Type}

section Runs

variable {crates : KeyCrates P S R} {store : KeyStore} {keyrings : List KeyringConfig}
  {fromSlice : List UInt8 → Option UnlockRequest} {s t u : AdminSt P S R} {a : AdminAct}
  {as : List AdminAct} {c : Nat}

/-- What an arriving request leads to. -/
def AdminRequest.entry (fromSlice : List UInt8 → Option UnlockRequest) (store : KeyStore)
    (request : AdminRequest) : AdminPc :=
  match request.check fromSlice store with
  | .error (_, error) => .answered request (.error error)
  | .ok op => .queued request op

/-- The steps of the system. -/
inductive AdminStep (crates : KeyCrates P S R) (store : KeyStore)
    (fromSlice : List UInt8 → Option UnlockRequest) (t : AdminSt P S R) :
    AdminAct → AdminSt P S R → Prop where
  | arrive (c request) : t.handlers c = .out → t.keys.calls c = .idle →
      AdminStep crates store fromSlice t (.arrive c request) { t with
        handlers := Function.update t.handlers c (request.entry fromSlice store) }
  | acquire (c request op) : t.handlers c = .queued request op → t.permits ≠ 0 →
      AdminStep crates store fromSlice t (.acquire c) { t with
        permits := t.permits - 1
        handlers := Function.update t.handlers c (.awaiting request op)
        tasks := Function.update t.tasks c (.spawned op) }
  | start (c op keys) : t.tasks c = .spawned op →
      (store.sys crates).step t.keys (.start c op) = some keys →
      AdminStep crates store fromSlice t (.start c) { t with
        keys, tasks := Function.update t.tasks c (.running op) }
  | work (c op keys) : t.tasks c = .running op →
      (store.sys crates).step t.keys (.run c) = some keys →
      AdminStep crates store fromSlice t (.work c) { t with keys }
  | finish (c op op' ret) : t.tasks c = .running op → t.keys.calls c = .done op' ret →
      AdminStep crates store fromSlice t (.finish c) { t with
        permits := t.permits + 1
        tasks := Function.update t.tasks c (.ended op (some ret)) }
  | panic (c op) : t.tasks c = .running op → (t.keys.calls c).inKdf = true →
      AdminStep crates store fromSlice t (.panic c) { t with
        permits := t.permits + 1
        tasks := Function.update t.tasks c (.ended op none) }
  | reply (c request op op' ret) : t.handlers c = .awaiting request op →
      t.tasks c = .ended op' ret →
      AdminStep crates store fromSlice t (.reply c) { t with
        handlers := Function.update t.handlers c (.answered request (request.finish ret).2) }
  | disconnect (c request op) :
      t.handlers c = .queued request op ∨ t.handlers c = .awaiting request op →
      AdminStep crates store fromSlice t (.disconnect c) { t with
        handlers := Function.update t.handlers c .gone }
  | publicCall (c op keys) : t.handlers c = .out → op.isPublic = true →
      (store.sys crates).step t.keys (.start c op) = some keys →
      AdminStep crates store fromSlice t (.publicCall c op) { t with keys }
  | publicStep (c keys) : t.tasks c = .none →
      (store.sys crates).step t.keys (.run c) = some keys →
      AdminStep crates store fromSlice t (.publicStep c) { t with keys }
  | poison (i keys) : (store.sys crates).step t.keys (.poison i) = some keys →
      AdminStep crates store fromSlice t (.poison i) { t with keys }

theorem keyStep_eq_some {k : KeyAct} :
    t.keyStep crates store k = some u ↔
      ∃ keys, (store.sys crates).step t.keys k = some keys ∧ u = { t with keys } := by
  unfold AdminSt.keyStep
  rw [Option.map_eq_some_iff]
  exact exists_congr fun keys => and_congr_right fun _ => eq_comm

/-- **Every step is one of these.** -/
theorem adminStep (h : (adminSys crates store fromSlice).step t a = some u) :
    AdminStep crates store fromSlice t a u := by
  cases a with
  | arrive c request =>
    simp only [adminSys] at h
    split at h
    · rename_i hout hidle
      cases h
      exact .arrive c request hout hidle
    · cases h
  | acquire c =>
    simp only [adminSys] at h
    split at h
    · rename_i request op hq
      split at h
      · cases h
      · rename_i hfree
        cases h
        exact .acquire c request op hq hfree
    · cases h
  | start c =>
    simp only [adminSys] at h
    split at h
    · rename_i op hsp
      obtain ⟨v, hv, rfl⟩ := Option.map_eq_some_iff.mp h
      obtain ⟨keys, hk, rfl⟩ := keyStep_eq_some.mp hv
      exact .start c op keys hsp hk
    · cases h
  | work c =>
    simp only [adminSys] at h
    split at h
    · rename_i op hr
      obtain ⟨keys, hk, rfl⟩ := keyStep_eq_some.mp h
      exact .work c op keys hr hk
    · cases h
  | finish c =>
    simp only [adminSys] at h
    split at h
    · rename_i op op' ret hr hd
      cases h
      exact .finish c op op' ret hr hd
    · cases h
  | panic c =>
    simp only [adminSys] at h
    split at h
    · rename_i op hr
      split at h
      · rename_i hkdf
        cases h
        exact .panic c op hr hkdf
      · cases h
    · cases h
  | reply c =>
    simp only [adminSys] at h
    split at h
    · rename_i request op op' ret ha he
      cases h
      exact .reply c request op op' ret ha he
    · cases h
  | disconnect c =>
    simp only [adminSys] at h
    split at h
    · rename_i request op hq
      cases h
      exact .disconnect c request op (.inl hq)
    · rename_i request op ha
      cases h
      exact .disconnect c request op (.inr ha)
    · cases h
  | publicCall c op =>
    simp only [adminSys] at h
    split at h
    · rename_i hout
      split at h
      · rename_i hpub
        obtain ⟨keys, hk, rfl⟩ := keyStep_eq_some.mp h
        exact .publicCall c op keys hout hpub hk
      · cases h
    · cases h
  | publicStep c =>
    simp only [adminSys] at h
    split at h
    · rename_i hn
      obtain ⟨keys, hk, rfl⟩ := keyStep_eq_some.mp h
      exact .publicStep c keys hn hk
    · cases h
  | poison i =>
    obtain ⟨keys, hk, rfl⟩ := keyStep_eq_some.mp h
    exact .poison i keys hk

/-! ## The key store as a component -/

/-- What a step is on the key store. -/
def AdminSt.keyMoves (t : AdminSt P S R) : AdminAct → List KeyAct
  | .start c => match t.tasks c with
    | .spawned op => [.start c op]
    | _ => []
  | .work c => [.run c]
  | .publicCall c op => [.start c op]
  | .publicStep c => [.run c]
  | .poison i => [.poison i]
  | _ => []

variable (crates store fromSlice)

/-- The key store in a run of the admin API. -/
def adminKeys : (adminSys crates store fromSlice).Refines (store.sys crates) fun _ => True where
  abs t := t.keys
  moves t a _ := t.keyMoves a
  step t a u _ _ h := by
    have hone {k : KeyAct} {keys : KeySt P S R}
        (hk : (store.sys crates).step t.keys k = some keys) :
        (store.sys crates).run t.keys [k] = some keys := by
      rw [Sys.run, hk]
      rfl
    cases adminStep h with
    | arrive | acquire | finish | panic | reply | disconnect => rfl
    | start c op keys hsp hk =>
      simp only [AdminSt.keyMoves, hsp]
      exact hone hk
    | work c op keys _ hk => exact hone hk
    | publicCall c op keys _ _ hk => exact hone hk
    | publicStep c keys _ hk => exact hone hk
    | poison i keys hk => exact hone hk

variable {crates store fromSlice}

/-- What a run does on the key store. -/
def keyActions (crates : KeyCrates P S R) (store : KeyStore)
    (fromSlice : List UInt8 → Option UnlockRequest) (as : List AdminAct) : List KeyAct :=
  (adminKeys crates store fromSlice).actions .new as

theorem through_true {σ α : Type} {T : Sys σ α} {s : σ} {as : List α} :
    T.Through (fun _ => True) s as := fun _ _ _ _ _ => trivial

/-- A run of the admin API is a run of the key store. -/
theorem run_keys (hrun : (adminSys crates store fromSlice).run .new as = some t) :
    (store.sys crates).run .fresh (keyActions crates store fromSlice as) = some t.keys :=
  Sys.Refines.run (R := adminKeys crates store fromSlice) through_true hrun

/-- Every call on the key store keeps its guards in order. -/
theorem run_held (hrun : (adminSys crates store fromSlice).run .new as = some t) (c : Nat) :
    HeldOk c t.keys.cells (t.keys.calls c) :=
  heldOk_inductive.run fresh_rested (run_keys hrun) c

/-- The calls before and after a step of the key store. -/
theorem calls_of_start {k k' : KeySt P S R} {op : KeyOp}
    (h : (store.sys crates).step k (.start c op) = some k') :
    k.calls c = .idle ∧ ∃ pc, store.enter op = some pc ∧ k' = k.after c k.cells pc := by
  rcases sys_step_cases h with ⟨_, _, pc, ha, hidle, hpc, rfl⟩ | ⟨_, _, _, ha, -, -⟩ | ⟨_, ha, -, -⟩
  · cases ha
    exact ⟨hidle, pc, hpc, rfl⟩
  · cases ha
  · cases ha

theorem calls_of_run {k k' : KeySt P S R} (h : (store.sys crates).step k (.run c) = some k') :
    ∃ cells pc, store.stepCall crates c k.cells (k.calls c) = some (cells, pc) ∧
      k' = k.after c cells pc := by
  rcases sys_step_cases h with ⟨_, _, _, ha, -, -, -⟩ | ⟨_, cells, pc, ha, hs, rfl⟩ | ⟨_, ha, -, -⟩
  · cases ha
  · cases ha
    exact ⟨cells, pc, hs, rfl⟩
  · cases ha

theorem calls_of_poison {k k' : KeySt P S R} {i : Nat}
    (h : (store.sys crates).step k (.poison i) = some k') : (k.cells i).writer = none ∧
      k' = { k with cells := Function.update k.cells i { k.cells i with poisoned := true } } := by
  rcases sys_step_cases h with ⟨_, _, _, ha, -, -, -⟩ | ⟨_, _, _, ha, -, -⟩ | ⟨_, ha, hw, rfl⟩
  · cases ha
  · cases ha
  · cases ha
    exact ⟨hw, rfl⟩

/-! ## Tasks and handlers -/

/-- The call of the task. -/
def TaskPc.op : TaskPc → Option KeyOp
  | .none => Option.none
  | .spawned op => some op
  | .running op => some op
  | .ended op _ => some op

/-- A task and its call on the key store. Without a task, the call is one of the public API. -/
def TaskOk (fromSlice : List UInt8 → Option UnlockRequest) (store : KeyStore)
    (pc : KeyPc (UnlockedKeyMaterial P S R)) : TaskPc → Prop
  | .none => ∀ op, pc.op = some op → op.isPublic = true
  | .spawned op => pc = .idle ∧ ∃ request : AdminRequest, request.check fromSlice store = .ok op
  | .running op => pc.op = some op ∧ op.isPublic = false
  | .ended op (some ret) => pc = .done op ret ∧ op.isPublic = false
  | .ended op none => pc.op = some op ∧ op.isPublic = false ∧ pc.inKdf = true

/-- A handler and its task. -/
def HandlerOk (fromSlice : List UInt8 → Option UnlockRequest) (store : KeyStore) (task : TaskPc)
    (pc : KeyPc (UnlockedKeyMaterial P S R)) : AdminPc → Prop
  | .out => task = .none
  | .queued request op => task = .none ∧ pc = .idle ∧ request.check fromSlice store = .ok op
  | .awaiting request op => task.op = some op ∧ request.check fromSlice store = .ok op
  | _ => True

/-- The permit, the tasks and the handlers. -/
structure AdminOk (store : KeyStore) (fromSlice : List UInt8 → Option UnlockRequest)
    (t : AdminSt P S R) : Prop where
  permits : Permits 1 t.permits fun c => (t.tasks c).holds = true
  task : ∀ c, TaskOk fromSlice store (t.keys.calls c) (t.tasks c)
  handler : ∀ c, HandlerOk fromSlice store (t.tasks c) (t.keys.calls c) (t.handlers c)

/-- A handler asks for an unlock. -/
theorem check_isPublic {request : AdminRequest} {op : KeyOp}
    (h : request.check fromSlice store = .ok op) : op.isPublic = false := by
  unfold AdminRequest.check at h
  split at h
  · obtain ⟨-, -, _, _, -, -, -, rfl⟩ := beginUnlockKey_ok h
    rfl
  · obtain ⟨-, -, -, _, -, -, rfl⟩ := beginUnlockKeyring_ok h
    rfl

theorem handlerOk_entry {request : AdminRequest} {pc : KeyPc (UnlockedKeyMaterial P S R)}
    (hidle : pc = .idle) :
    HandlerOk fromSlice store .none pc (request.entry fromSlice store) := by
  unfold AdminRequest.entry
  cases hcheck : request.check fromSlice store with
  | error e => trivial
  | ok op => exact ⟨rfl, hidle, hcheck⟩

/-- A step of the handler `c`, its task and its call: it owes what holds of these, and the permits. -/
theorem AdminOk.only (h : AdminOk store fromSlice t) (c : Nat)
    (hother : ∀ d, d ≠ c → u.keys.calls d = t.keys.calls d ∧ u.tasks d = t.tasks d ∧
      u.handlers d = t.handlers d)
    (hpermits : Permits 1 u.permits fun d => (u.tasks d).holds = true)
    (htask : TaskOk fromSlice store (u.keys.calls c) (u.tasks c))
    (hhandler : HandlerOk fromSlice store (u.tasks c) (u.keys.calls c) (u.handlers c)) :
    AdminOk store fromSlice u where
  permits := hpermits
  task d := by
    by_cases hd : d = c
    · rw [hd]
      exact htask
    · obtain ⟨hcall, htask, -⟩ := hother d hd
      rw [hcall, htask]
      exact h.task d
  handler d := by
    by_cases hd : d = c
    · rw [hd]
      exact hhandler
    · obtain ⟨hcall, htask, hhandler⟩ := hother d hd
      rw [hcall, htask, hhandler]
      exact h.handler d

/-- A call that has no task is one of the public API, also after a step. -/
theorem taskOk_none {pc pc' : KeyPc (UnlockedKeyMaterial P S R)}
    (h : TaskOk fromSlice store pc .none) (hop : pc'.op = pc.op) :
    TaskOk fromSlice store pc' .none := fun op he => h op (hop.symm.trans he)

/-- The task of a handler moves on. -/
theorem HandlerOk.goes {task task' : TaskPc} {pc pc' : KeyPc (UnlockedKeyMaterial P S R)}
    {h : AdminPc} (hok : HandlerOk fromSlice store task pc h) (hne : task ≠ .none)
    (hop : task'.op = task.op) : HandlerOk fromSlice store task' pc' h := by
  cases h with
  | out => exact absurd hok hne
  | queued request op => exact absurd hok.1 hne
  | awaiting request op => exact ⟨hop.trans hok.1, hok.2⟩
  | answered | gone => trivial

/-- The call of the public API moves on. -/
theorem HandlerOk.called {pc pc' : KeyPc (UnlockedKeyMaterial P S R)} {task : TaskPc} {h : AdminPc}
    (hok : HandlerOk fromSlice store task pc h) (hpc : pc ≠ .idle) :
    HandlerOk fromSlice store task pc' h := by
  cases h with
  | queued request op => exact absurd hok.2.1 hpc
  | _ => exact hok

/-- A call that takes a step has begun. -/
theorem ne_idle_of_step {cells cells' : KeyCells P S R}
    {pc pc' : KeyPc (UnlockedKeyMaterial P S R)}
    (h : store.stepCall crates c cells pc = some (cells', pc')) : pc ≠ .idle := by
  rintro rfl
  cases h

/-- **What every step keeps.** -/
theorem AdminOk.step (h : AdminOk store fromSlice t)
    (hu : (adminSys crates store fromSlice).step t a = some u) : AdminOk store fromSlice u := by
  cases adminStep hu with
  | arrive c request hout hidle =>
    have hnone := h.handler c
    rw [hout] at hnone
    refine h.only c (fun d hd => ⟨rfl, rfl, Function.update_of_ne hd _ _⟩) h.permits (h.task c) ?_
    dsimp only
    rw [hnone, Function.update_self]
    exact handlerOk_entry hidle
  | acquire c request op hq hfree =>
    have hc := h.handler c
    rw [hq] at hc
    obtain ⟨hnone, hidle, hcheck⟩ := hc
    refine h.only c (fun d hd => ⟨rfl, Function.update_of_ne hd _ _, Function.update_of_ne hd _ _⟩)
      (h.permits.take (p := fun task : TaskPc => task.holds = true) hfree ?_ rfl) ?_ ?_
    · rw [hnone]
      exact Bool.false_ne_true
    · dsimp only
      rw [Function.update_self]
      exact ⟨hidle, request, hcheck⟩
    · dsimp only
      rw [Function.update_self, Function.update_self]
      exact ⟨rfl, hcheck⟩
  | start c op keys hsp hk =>
    obtain ⟨-, pc, hpc, rfl⟩ := calls_of_start hk
    have htask := h.task c
    have hhandler := h.handler c
    rw [hsp] at htask hhandler
    obtain ⟨-, request, hcheck⟩ := htask
    refine h.only c (fun d hd => ⟨Function.update_of_ne hd _ _, Function.update_of_ne hd _ _, rfl⟩)
      (h.permits.move (p := fun task : TaskPc => task.holds = true) (by rw [hsp]; exact Iff.rfl)) ?_ ?_
    · dsimp only
      rw [after_calls, Function.update_self, Function.update_self]
      exact ⟨op_of_enter hpc, check_isPublic hcheck⟩
    · dsimp only
      rw [Function.update_self]
      exact hhandler.goes TaskPc.noConfusion rfl
  | work c op keys hr hk =>
    obtain ⟨cells, pc, hs, rfl⟩ := calls_of_run hk
    have htask := h.task c
    have hhandler := h.handler c
    rw [hr] at htask hhandler
    refine h.only c (fun d hd => ⟨Function.update_of_ne hd _ _, rfl, rfl⟩) h.permits ?_ ?_
    · dsimp only
      rw [after_calls, Function.update_self, hr]
      exact ⟨(op_of_step hs).trans htask.1, htask.2⟩
    · dsimp only
      rw [hr]
      exact hhandler.goes TaskPc.noConfusion rfl
  | finish c op op' ret hr hd =>
    have htask := h.task c
    have hhandler := h.handler c
    rw [hr] at htask hhandler
    refine h.only c (fun d hd => ⟨rfl, Function.update_of_ne hd _ _, rfl⟩)
      (h.permits.giveBack (p := fun task : TaskPc => task.holds = true) (by rw [hr]; rfl)
        Bool.false_ne_true) ?_ ?_
    · dsimp only
      rw [Function.update_self]
      obtain ⟨hop, hpub⟩ := htask
      rw [hd] at hop ⊢
      cases hop
      exact ⟨rfl, hpub⟩
    · dsimp only
      rw [Function.update_self]
      exact hhandler.goes TaskPc.noConfusion rfl
  | panic c op hr hkdf =>
    have htask := h.task c
    have hhandler := h.handler c
    rw [hr] at htask hhandler
    refine h.only c (fun d hd => ⟨rfl, Function.update_of_ne hd _ _, rfl⟩)
      (h.permits.giveBack (p := fun task : TaskPc => task.holds = true) (by rw [hr]; rfl)
        Bool.false_ne_true) ?_ ?_
    · dsimp only
      rw [Function.update_self]
      exact ⟨htask.1, htask.2, hkdf⟩
    · dsimp only
      rw [Function.update_self]
      exact hhandler.goes TaskPc.noConfusion rfl
  | reply c request op op' ret ha he =>
    refine h.only c (fun d hd => ⟨rfl, rfl, Function.update_of_ne hd _ _⟩) h.permits (h.task c) ?_
    dsimp only
    rw [Function.update_self]
    trivial
  | disconnect c request op hw =>
    refine h.only c (fun d hd => ⟨rfl, rfl, Function.update_of_ne hd _ _⟩) h.permits (h.task c) ?_
    dsimp only
    rw [Function.update_self]
    trivial
  | publicCall c op keys hout hpub hk =>
    obtain ⟨hidle, pc, hpc, rfl⟩ := calls_of_start hk
    have hnone := h.handler c
    rw [hout] at hnone
    refine h.only c (fun d hd => ⟨Function.update_of_ne hd _ _, rfl, rfl⟩) h.permits ?_ ?_
    · dsimp only
      rw [after_calls, Function.update_self, hnone]
      intro op' he
      rw [op_of_enter hpc] at he
      cases he
      exact hpub
    · dsimp only
      rw [hout]
      exact hnone
  | publicStep c keys hn hk =>
    obtain ⟨cells, pc, hs, rfl⟩ := calls_of_run hk
    have htask := h.task c
    have hhandler := h.handler c
    rw [hn] at htask hhandler
    refine h.only c (fun d hd => ⟨Function.update_of_ne hd _ _, rfl, rfl⟩) h.permits ?_ ?_
    · dsimp only
      rw [after_calls, Function.update_self, hn]
      exact taskOk_none htask (op_of_step hs)
    · dsimp only
      rw [hn]
      exact hhandler.called (ne_idle_of_step hs)
  | poison i keys hk =>
    obtain ⟨-, rfl⟩ := calls_of_poison hk
    exact ⟨h.permits, h.task, h.handler⟩

/-- In every run. -/
theorem run_adminOk (hrun : (adminSys crates store fromSlice).run .new as = some t) :
    AdminOk store fromSlice t := by
  refine Sys.run_keeps (P := AdminOk store fromSlice) (fun _ _ _ h hu => h.step hu) ?_ hrun
  refine ⟨Permits.all_free fun _ => Bool.false_ne_true, fun c op hop => ?_, fun _ => rfl⟩
  cases hop

/-! ## One unlock at a time -/

/-- The call `c` is an unlock that has begun, and has neither returned nor panicked. -/
def AdminSt.Unlocking (t : AdminSt P S R) (c : Nat) : Prop :=
  ∃ op, (t.keys.calls c).op = some op ∧ op.isPublic = false ∧
    (∀ ret, t.keys.calls c ≠ .done op ret) ∧ ∀ op', t.tasks c ≠ .ended op' none

/-- An unlock on its way is the work of a task with the permit. -/
theorem AdminOk.holds_of_unlocking (h : AdminOk store fromSlice t) (hc : t.Unlocking c) :
    (t.tasks c).holds = true := by
  obtain ⟨op, hop, hpub, hdone, hpanic⟩ := hc
  have htask := h.task c
  cases ht : t.tasks c with
  | none =>
    rw [ht] at htask
    rw [htask op hop] at hpub
    cases hpub
  | spawned | running => rfl
  | ended op' ret =>
    rw [ht] at htask
    cases ret with
    | none => exact absurd ht (hpanic op')
    | some ret =>
      rw [htask.1] at hop
      cases hop
      exact absurd htask.1 (hdone ret)

/-- **One unlock at a time.** However the requests, the tasks and the public API interleave, and
whichever clients disconnect: one unlock at most is on its way, its task holds the only permit, and
the permit is free iff no task has it. -/
theorem one_unlock_at_a_time (hrun : (adminSys crates store fromSlice).run .new as = some t) :
    (∀ c d, t.Unlocking c → t.Unlocking d → c = d) ∧
    (∀ c, t.Unlocking c → (t.tasks c).holds = true ∧ t.permits = 0) ∧
    (t.permits = 1 ↔ ∀ c, (t.tasks c).holds = false) := by
  have h := run_adminOk hrun
  refine ⟨fun c d hc hd => h.permits.eq_of_held (h.holds_of_unlocking hc) (h.holds_of_unlocking hd),
    fun c hc => ⟨h.holds_of_unlocking hc, ?_⟩, ?_⟩
  · have hle := h.permits.card_le {c} fun d hd => by
      rw [Finset.mem_singleton.mp hd]
      exact h.holds_of_unlocking hc
    rw [Finset.card_singleton] at hle
    omega
  · refine h.permits.free_eq_iff.trans (forall_congr' fun c => ?_)
    rw [Bool.not_eq_true]

/-- A keyring is being unlocked, its client has gone, and another unlock waits. -/
def exampleQueueRun : List AdminAct :=
  [.arrive 0 ⟨"01J", .unlockKeyring "firmware-prod", jsonHeaders, unlockBody "correct horse"⟩,
    .arrive 1 ⟨"01K", .unlockKey "microtun-firmware-next", jsonHeaders, unlockBody "correct horse"⟩,
    .acquire 0, .start 0, .disconnect 0, .work 0, .work 0]

theorem second_unlock_waits : ∃ t,
    (adminSys exampleCrates exampleKeyStore (readUnlockBody "correct horse")).run .new
      exampleQueueRun = some t ∧
    t.Unlocking 0 ∧ (t.tasks 0).holds = true ∧ ¬ t.Unlocking 1 ∧
    (adminSys exampleCrates exampleKeyStore (readUnlockBody "correct horse")).step t
      (.acquire 1) = none := by
  obtain ⟨t, hrun, hcall, htask, hqueued⟩ : ∃ t,
      (adminSys exampleCrates exampleKeyStore (readUnlockBody "correct horse")).run .new
        exampleQueueRun = some t ∧
      (∃ i rest vars, t.keys.calls 0 = .scanDecrypt "firmware-prod" "correct horse" i rest vars) ∧
      (∃ op, t.tasks 0 = .running op) ∧ ∃ request op, t.handlers 1 = .queued request op :=
    ⟨_, rfl, ⟨_, _, _, rfl⟩, ⟨_, rfl⟩, _, _, rfl⟩
  obtain ⟨i, rest, vars, hcall⟩ := hcall
  obtain ⟨op, htask⟩ := htask
  obtain ⟨request, op', hqueued⟩ := hqueued
  obtain ⟨honly, hpermits, -⟩ := one_unlock_at_a_time hrun
  have h0 : t.Unlocking 0 := by
    refine ⟨_, by rw [hcall]; rfl, rfl, fun ret he => ?_, fun op'' he => ?_⟩
    · rw [hcall] at he
      cases he
    · rw [htask] at he
      cases he
  refine ⟨t, hrun, h0, (hpermits 0 h0).1, fun h1 => absurd (honly 0 1 h0 h1) (by decide), ?_⟩
  simp only [adminSys, hqueued, (hpermits 0 h0).2, if_pos]

end Runs

end MicrotunSigner
