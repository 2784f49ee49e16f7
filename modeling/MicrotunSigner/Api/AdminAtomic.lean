import MicrotunSigner.Api.AdminRuns
import MicrotunSigner.Key.AtomicSteps

/-!
# Unlocks are atomic (`api.rs`)

`unlock` and `unlock_keyring` look at the keys, run the KDF for seconds without a lock, and install
the material at last. With the permit of `unlock_permits` nobody else gives a key its material
meanwhile, so that it makes no difference to anybody if an unlock happens at once: a run of the
admin API and the public API is a run of the atomic store, of its calls in the order in which they
take effect (`unlocks_atomic`). A call takes effect in one of its own steps.
-/

namespace MicrotunSigner

open Lib

variable {P S R : Type}

section Atomic

variable {crates : KeyCrates P S R} {store : KeyStore} {keyrings : List KeyringConfig}
  {fromSlice : List UInt8 → Option UnlockRequest} {s t u : AdminSt P S R} {a : AdminAct}
  {as : List AdminAct} {c : Nat}

/-! ## What the atomic store keeps -/

theorem storeCall_keeps {op : KeyOp} {m m' : Materials P S R} {ret : KeyRet}
    (h : store.call crates op m = some (ret, m')) {i : Nat} (hi : (m i).isSome = true) :
    (m' i).isSome = true := by
  have hread {keyId : String} {f : Nat → KeyRet}
      (h : (do
        let i ← store.position keyId
        some (f i, m)) = some (ret, m')) : (m' i).isSome = true := by
    obtain ⟨j, -, he⟩ := Option.bind_eq_some_iff.mp h
    cases he
    exact hi
  cases op with
  | unlock keyId passphrase =>
    obtain ⟨j, -, h⟩ := Option.bind_eq_some_iff.mp h
    obtain ⟨key, -, h⟩ := Option.bind_eq_some_iff.mp h
    split at h
    · cases h
      exact hi
    split at h
    · cases h
      exact hi
    split at h
    · cases h
      exact hi
    · cases h
      by_cases hj : i = j
      · subst hj
        rw [Function.update_self]
        rfl
      · rw [Function.update_of_ne hj]
        exact hi
  | unlockKeyring name passphrase =>
    simp only [KeyStore.call] at h
    split at h
    · cases h
      exact hi
    split at h
    · cases h
      exact hi
    split at h
    · cases h
      exact hi
    · cases h
      rw [Option.isSome_or, hi, Bool.or_true]
  | isUnlocked => exact hread h
  | publicKeyPem => exact hread h
  | signDigest => exact hread h
  | signingRequest => exact hread h

theorem atomic_keeps {x y : AtomicSt P S R} {calls : List (Nat × KeyOp)}
    (h : (store.atomicSys crates).run x calls = some y) {i : Nat}
    (hi : (x.materials i).isSome = true) : (y.materials i).isSome = true := by
  refine Sys.run_keeps (P := fun x => (x.materials i).isSome = true) ?_ hi h
  rintro x ⟨c, op⟩ y hx hy
  simp only [KeyStore.atomicSys] at hy
  split at hy
  · obtain ⟨⟨ret, m⟩, hcall, rfl⟩ := Option.map_eq_some_iff.mp hy
    exact storeCall_keeps hcall hx
  · cases hy

/-! ## The calls that take effect -/

/-- The call on the key store that an action moves. -/
def AdminAct.call : AdminAct → Option Nat
  | .start c => some c
  | .work c => some c
  | .publicCall c _ => some c
  | .publicStep c => some c
  | _ => none

/-- The call that takes effect in a step. -/
def effects (t : AdminSt P S R) (a : AdminAct) (u : AdminSt P S R) : List (Nat × KeyOp) :=
  match a.call with
  | none => []
  | some c => (t.keys.calls c).moves c (u.keys.calls c)

/-- The task has not ended. -/
def TaskPc.alive : TaskPc → Bool
  | .ended _ _ => false
  | _ => true

/-- The places of all calls on a store without poisoned locks. -/
structure PlacesOk (crates : KeyCrates P S R) (store : KeyStore)
    (fromSlice : List UInt8 → Option UnlockRequest) (t : AdminSt P S R) : Prop where
  clean : ∀ i, (t.keys.cells i).poisoned = false
  ok : AdminOk store fromSlice t
  held : ∀ c, HeldOk c t.keys.cells (t.keys.calls c)
  place : ∀ c, (t.tasks c).alive = true →
    PlaceOk crates store t.keys.materials t.keys.cells (t.keys.calls c)

/-- The place of a public call is right if its keys keep their material. -/
theorem PlaceOk.public {m m' : Materials P S R} {cells cells' : KeyCells P S R}
    {pc : KeyPc (UnlockedKeyMaterial P S R)} (h : PlaceOk crates store m cells pc)
    (hpub : ∀ op, pc.op = some op → op.isPublic = true)
    (hm : ∀ i, (m i).isSome = true → (m' i).isSome = true) :
    PlaceOk crates store m' cells' pc := by
  cases pc with
  | requestSign keyId rng digest =>
    obtain ⟨i, hp, hi⟩ := h
    exact ⟨i, hp, hm i hi⟩
  | idle | isUnlocked | publicKeyPem | signDigest | requestCheck | done => trivial
  | _ => cases hpub _ rfl

/-- A public call commits nothing. -/
theorem committed_of_public {pc : KeyPc (UnlockedKeyMaterial P S R)}
    (hpub : ∀ op, pc.op = some op → op.isPublic = true) : pc.committed = [] := by
  cases pc with
  | installing => cases hpub _ rfl
  | _ => rfl

/-- A step of the call `c` leaves the places of the other calls right. -/
theorem PlacesOk.others (h : PlacesOk crates store fromSlice t) {cells : KeyCells P S R}
    {pc : KeyPc (UnlockedKeyMaterial P S R)} (hat : Atomically crates store t.keys c cells pc)
    (hcells : (∀ op, pc.op = some op → op.isPublic = true) → cells = t.keys.cells)
    (hop : t.tasks c = .none → ∀ op, pc.op = some op → op.isPublic = true)
    (halive : (t.tasks c).alive = true) {d : Nat} (hd : d ≠ c) (hdalive : (t.tasks d).alive = true) :
    PlaceOk crates store (t.keys.after c cells pc).materials cells (t.keys.calls d) := by
  have hplace := h.place d hdalive
  by_cases hheld : (t.tasks d).holds = true
  · -- The permit is taken, so `c` is a public call: it changes no lock and no material.
    have hnone : t.tasks c = .none := by
      cases hc : t.tasks c with
      | none => rfl
      | spawned | running => exact absurd (h.ok.permits.eq_of_held hheld (by rw [hc]; rfl)) hd
      | ended =>
        rw [hc] at halive
        cases halive
    have htask := h.ok.task c
    rw [hnone] at htask
    have hpub := hop hnone
    rw [hcells hpub, materials_after]
    · exact hplace
    · rw [committed_of_public hpub, committed_of_public htask]
  · have hnone : t.tasks d = .none := by
      cases htd : t.tasks d with
      | none => rfl
      | spawned | running => exact absurd (by rw [htd]; rfl) hheld
      | ended =>
        rw [htd] at hdalive
        cases hdalive
    have htask := h.ok.task d
    rw [hnone] at htask
    exact hplace.public htask fun i hi => atomic_keeps hat.run hi

/-- A step that moves no call. -/
theorem PlacesOk.still (h : PlacesOk crates store fromSlice t) (hok : AdminOk store fromSlice u)
    (hkeys : u.keys = t.keys) (htask : ∀ c, (u.tasks c).alive = true → (t.tasks c).alive = true) :
    PlacesOk crates store fromSlice u where
  clean := by
    rw [hkeys]
    exact h.clean
  ok := hok
  held := by
    rw [hkeys]
    exact h.held
  place c hc := by
    rw [hkeys]
    exact h.place c (htask c hc)

/-- A step of the call `c`. -/
theorem PlacesOk.moved (h : PlacesOk crates store fromSlice t) (hok : AdminOk store fromSlice u)
    (hclean : ∀ i, (u.keys.cells i).poisoned = false)
    (hheld : ∀ c, HeldOk c u.keys.cells (u.keys.calls c)) {cells : KeyCells P S R}
    {pc : KeyPc (UnlockedKeyMaterial P S R)} (hkeys : u.keys = t.keys.after c cells pc)
    (hat : Atomically crates store t.keys c cells pc) (halive : (t.tasks c).alive = true)
    (htasks : ∀ d, d ≠ c → u.tasks d = t.tasks d)
    (hcells : (∀ op, pc.op = some op → op.isPublic = true) → cells = t.keys.cells)
    (hop : t.tasks c = .none → ∀ op, pc.op = some op → op.isPublic = true) :
    PlacesOk crates store fromSlice u where
  clean := hclean
  ok := hok
  held := hheld
  place d hd := by
    rw [hkeys, after_cells, after_calls]
    by_cases he : d = c
    · subst he
      rw [Function.update_self]
      exact hat.place
    · rw [Function.update_of_ne he]
      rw [htasks d he] at hd
      exact h.others hat hcells hop halive he hd

/-- The permit of a task is taken from a waiting handler, whose call has not begun. -/
theorem alive_of_update {task : TaskPc} (h : task.alive = true → (t.tasks c).alive = true) (d : Nat)
    (hd : (Function.update t.tasks c task d).alive = true) : (t.tasks d).alive = true := by
  rcases update_cases t.tasks c task d with ⟨rfl, he⟩ | ⟨-, he⟩
  · rw [he] at hd
    exact h hd
  · rw [he] at hd
    exact hd

/-- **One step** is one of the atomic store, or none. -/
theorem PlacesOk.step (hw : store.WellFormed keyrings) (h : PlacesOk crates store fromSlice t)
    (hclean : ∀ i, (u.keys.cells i).poisoned = false)
    (hheld : ∀ c, HeldOk c u.keys.cells (u.keys.calls c))
    (hu : (adminSys crates store fromSlice).step t a = some u) :
    (store.atomicSys crates).run t.keys.atomic (effects t a u) = some u.keys.atomic ∧
      PlacesOk crates store fromSlice u := by
  have hok := h.ok.step hu
  -- A step of a call that is at a right place.
  have hcall {c : Nat} {cells : KeyCells P S R} {pc : KeyPc (UnlockedKeyMaterial P S R)}
      (hs : store.stepCall crates c t.keys.cells (t.keys.calls c) = some (cells, pc))
      (halive : (t.tasks c).alive = true) (hkeys : u.keys = t.keys.after c cells pc)
      (hact : a.call = some c) (htasks : u.tasks = t.tasks) :
      (store.atomicSys crates).run t.keys.atomic (effects t a u) = some u.keys.atomic ∧
        PlacesOk crates store fromSlice u := by
    have hat := PlaceOk.step hw (h.held c) h.clean (h.place c halive) hs
    have hop := op_of_step hs
    refine ⟨?_, h.moved hok hclean hheld hkeys hat halive (fun d _ => by rw [htasks])
      (fun hpub => ?_) fun hnone op he => ?_⟩
    · unfold effects
      rw [hact, hkeys, after_calls]
      dsimp only
      rw [Function.update_self]
      exact hat.run
    · cases he : pc.op with
      | none =>
        rw [he] at hop
        exact absurd hop.symm (by
          cases hc : t.keys.calls c with
          | idle =>
            rw [hc] at hs
            cases hs
          | _ => exact Option.some_ne_none _)
      | some op => exact cells_of_public (hop.symm.trans he) (hpub op he) hs
    · have htask := h.ok.task c
      rw [hnone] at htask
      exact htask op (hop.symm.trans he)
  cases adminStep hu with
  | arrive c request => exact ⟨rfl, h.still hok rfl fun _ => id⟩
  | acquire c request op hq =>
    have hc := h.ok.handler c
    rw [hq] at hc
    exact ⟨rfl, h.still hok rfl (alive_of_update fun _ => by rw [hc.1]; rfl)⟩
  | start c op keys hsp hk =>
    obtain ⟨hidle, pc, hpc, rfl⟩ := calls_of_start hk
    have hat : Atomically crates store t.keys c t.keys.cells pc := placeOk_start hidle hpc
    have halive : (t.tasks c).alive = true := by rw [hsp]; rfl
    refine ⟨?_, h.moved hok hclean hheld rfl hat halive (fun d hd => Function.update_of_ne hd _ _)
      (fun _ => rfl) fun hnone => ?_⟩
    · show (store.atomicSys crates).run t.keys.atomic
        ((t.keys.calls c).moves c (Function.update t.keys.calls c pc c)) = _
      rw [Function.update_self]
      exact hat.run
    · rw [hsp] at hnone
      cases hnone
  | work c op keys hr hk =>
    obtain ⟨cells, pc, hs, rfl⟩ := calls_of_run hk
    exact hcall hs (by rw [hr]; rfl) rfl rfl rfl
  | finish c op op' ret hr => exact ⟨rfl, h.still hok rfl (alive_of_update fun he => nomatch he)⟩
  | panic c op hr => exact ⟨rfl, h.still hok rfl (alive_of_update fun he => nomatch he)⟩
  | reply c request op op' ret => exact ⟨rfl, h.still hok rfl fun _ => id⟩
  | disconnect c request op => exact ⟨rfl, h.still hok rfl fun _ => id⟩
  | publicCall c op keys hout hpub hk =>
    obtain ⟨hidle, pc, hpc, rfl⟩ := calls_of_start hk
    have hat : Atomically crates store t.keys c t.keys.cells pc := placeOk_start hidle hpc
    have hnone := h.ok.handler c
    rw [hout] at hnone
    refine ⟨?_, h.moved hok hclean hheld rfl hat (by rw [hnone]; rfl) (fun _ _ => rfl)
      (fun _ => rfl) fun _ op' he => ?_⟩
    · show (store.atomicSys crates).run t.keys.atomic
        ((t.keys.calls c).moves c (Function.update t.keys.calls c pc c)) = _
      rw [Function.update_self]
      exact hat.run
    · rw [op_of_enter hpc] at he
      cases he
      exact hpub
  | publicStep c keys hn hk =>
    obtain ⟨cells, pc, hs, rfl⟩ := calls_of_run hk
    exact hcall hs (by rw [hn]; rfl) rfl rfl rfl
  | poison i keys hk =>
    obtain ⟨-, rfl⟩ := calls_of_poison hk
    have hi := hclean i
    dsimp only at hi
    rw [Function.update_self] at hi
    cases hi

/-! ## Runs -/

/-- No step of a call poisons a lock or heals one. -/
theorem poisoned_of_step {cells cells' : KeyCells P S R}
    {pc pc' : KeyPc (UnlockedKeyMaterial P S R)}
    (h : store.stepCall crates c cells pc = some (cells', pc')) (i : Nat) :
    (cells' i).poisoned = (cells i).poisoned := by
  have hupdate {j : Nat} {cell : KeyCell (UnlockedKeyMaterial P S R)}
      (hcell : cell.poisoned = (cells j).poisoned) :
      (Function.update cells j cell i).poisoned = (cells i).poisoned := by
    by_cases hi : i = j
    · rw [hi, Function.update_self, hcell]
    · rw [Function.update_of_ne hi]
  cases keyStep_of_eq h with
  | install | lock | abandon | keep | put => exact hupdate rfl
  | _ => rfl

theorem clean_step (hu : (adminSys crates store fromSlice).step t a = some u)
    (hclean : ∀ i, (t.keys.cells i).poisoned = false) (ha : ∀ i, a ≠ .poison i) (i : Nat) :
    (u.keys.cells i).poisoned = false := by
  cases adminStep hu with
  | arrive | acquire | finish | panic | reply | disconnect => exact hclean i
  | start c op keys _ hk =>
    obtain ⟨-, pc, -, rfl⟩ := calls_of_start hk
    exact hclean i
  | publicCall c op keys _ _ hk =>
    obtain ⟨-, pc, -, rfl⟩ := calls_of_start hk
    exact hclean i
  | work c op keys _ hk =>
    obtain ⟨cells, pc, hs, rfl⟩ := calls_of_run hk
    exact (poisoned_of_step hs i).trans (hclean i)
  | publicStep c keys _ hk =>
    obtain ⟨cells, pc, hs, rfl⟩ := calls_of_run hk
    exact (poisoned_of_step hs i).trans (hclean i)
  | poison j => exact absurd rfl (ha j)

/-- The places are right after a run that poisons no lock. -/
theorem run_placesOk (hw : store.WellFormed keyrings)
    (hrun : (adminSys crates store fromSlice).run .new as = some t)
    (hno : ∀ i, .poison i ∉ as) : PlacesOk crates store fromSlice t := by
  revert hno
  refine Sys.run_induction (P := fun as t => (∀ i, .poison i ∉ as) →
    PlacesOk crates store fromSlice t) (fun _ => ?_) ?_ as t hrun
  · have hnew : (adminSys crates store fromSlice).run .new [] = some .new := rfl
    exact ⟨fun _ => rfl, run_adminOk hnew, run_held hnew, fun _ _ => trivial⟩
  · intro as t a u ht ih hu hno
    have h := ih fun i hi => hno i (List.mem_append_left _ hi)
    have hclean := clean_step hu h.clean fun i ha => hno i (by rw [ha]; simp)
    exact (h.step hw hclean (run_held (Sys.run_snoc.mpr ⟨t, ht, hu⟩)) hu).2

/-- The admin API as the atomic store. -/
def adminAtomic (crates : KeyCrates P S R) (fromSlice : List UInt8 → Option UnlockRequest)
    (hw : store.WellFormed keyrings) :
    (adminSys crates store fromSlice).Refines (store.atomicSys crates)
      (PlacesOk crates store fromSlice) where
  abs t := t.keys.atomic
  moves := effects
  step _ _ _ h h' hu := (h.step hw h'.clean h'.held hu).1

/-- The calls of a run, in the order in which they take effect. -/
def effectiveCalls (crates : KeyCrates P S R) (store : KeyStore)
    (fromSlice : List UInt8 → Option UnlockRequest) (as : List AdminAct) : List (Nat × KeyOp) :=
  (adminSys crates store fromSlice).trace effects .new as

/-- A run of the API that poisons no lock is one of the atomic store. -/
theorem run_atomic (hw : store.WellFormed keyrings)
    (hrun : (adminSys crates store fromSlice).run .new as = some t)
    (hno : ∀ i, .poison i ∉ as) :
    (store.atomicSys crates).run ⟨fun _ => none, fun _ => none⟩
      (effectiveCalls crates store fromSlice as) = some t.keys.atomic := by
  refine Sys.Refines.run (R := adminAtomic crates fromSlice hw) (fun pre post v he hv => ?_) hrun
  subst he
  exact run_placesOk hw hv fun i hi => hno i (List.mem_append_left _ hi)

/-- **Unlocks are atomic.** In every interleaving of admin requests, their tasks and the calls of the
public API that poisons no lock, with any disconnects and panics: make the calls at once, in the
order in which they took effect. Every call that has returned gets the same answer, and every key
that can be looked at has the same material. -/
theorem unlocks_atomic {keys : List KeyMaterial}
    (hstore : KeyStore.fromKeys keys keyrings = .ok store)
    (hrun : (adminSys crates store fromSlice).run .new as = some t)
    (hno : ∀ i, .poison i ∉ as) :
    ∃ x, (store.atomicSys crates).run ⟨fun _ => none, fun _ => none⟩
        (effectiveCalls crates store fromSlice as) = some x ∧
      (∀ c op ret, t.keys.calls c = .done op ret → x.returned c = some (op, ret)) ∧
      ∀ i, (t.keys.cells i).writer = none → x.materials i = (t.keys.cells i).unlocked := by
  refine ⟨_, run_atomic (KeyStore.wellFormed_of_ok hstore) hrun hno, fun c op ret hc => ?_,
    fun i hi => materials_of_free hi⟩
  unfold KeySt.atomic
  dsimp only
  rw [hc]
  rfl

/-- While the keyring is unlocked, a public call finds one of its keys unlocked already: it has its
material, but the lock of the next key is still held. -/
def exampleUnlockRun : List AdminAct :=
  [.arrive 0 ⟨"01J", .unlockKeyring "firmware-prod", jsonHeaders, unlockBody "correct horse"⟩,
    .acquire 0, .start 0, .work 0, .work 0, .work 0, .work 0, .work 0, .work 0, .disconnect 0,
    .work 0, .work 0, .work 0, .work 0, .publicCall 1 (.isUnlocked "microtun-firmware-next"),
    .publicStep 1, .work 0, .work 0, .finish 0]

theorem keyring_seen_unlocked : ∃ t x,
    (adminSys exampleCrates exampleKeyStore (readUnlockBody "correct horse")).run .new
      exampleUnlockRun = some t ∧
    t.keys.calls 1 = .done (.isUnlocked "microtun-firmware-next") (.isUnlocked true) ∧
    (exampleKeyStore.atomicSys exampleCrates).run ⟨fun _ => none, fun _ => none⟩
      [(0, .unlockKeyring "firmware-prod" "correct horse"),
        (1, .isUnlocked "microtun-firmware-next")] = some x ∧
    x.returned 1 = some (.isUnlocked "microtun-firmware-next", .isUnlocked true) := by
  obtain ⟨t, hrun, hread, hcalls⟩ : ∃ t,
      (adminSys exampleCrates exampleKeyStore (readUnlockBody "correct horse")).run .new
        exampleUnlockRun = some t ∧
      t.keys.calls 1 = .done (.isUnlocked "microtun-firmware-next") (.isUnlocked true) ∧
      effectiveCalls exampleCrates exampleKeyStore (readUnlockBody "correct horse")
        exampleUnlockRun = [(0, .unlockKeyring "firmware-prod" "correct horse"),
          (1, .isUnlocked "microtun-firmware-next")] := ⟨_, rfl, rfl, rfl⟩
  obtain ⟨x, hx, hret, -⟩ := unlocks_atomic exampleKeyStore_ok hrun (by simp [exampleUnlockRun])
  rw [hcalls] at hx
  exact ⟨t, x, hrun, hread, hx, hret 1 _ _ hread⟩

end Atomic

end MicrotunSigner
