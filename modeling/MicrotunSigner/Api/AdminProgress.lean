import MicrotunSigner.Api.AdminRuns
import MicrotunSigner.Lib.Rank

/-!
# The permit comes back (`api.rs`)

The task with the permit never waits for anybody: the only locks that a reader may meet locked are
those of keyring calls, and there is no other one (`permit_holder_runs`). Each of its steps lowers
`AdminSt.rank`, and nobody else's step raises it. So it gives the permit back after a number of own
steps that the request decides alone, and the queue of unlocks moves on.
-/

namespace MicrotunSigner

open Lib

variable {P S R : Type}

/-- How many steps the call has left at most. -/
def KeyPc.rank {M : Type} : KeyPc M → Nat
  | .unlockCheck _ _ => 3
  | .unlockDecrypt _ _ => 2
  | .unlockInstall _ _ _ => 1
  | .scan _ _ rest vars => 4 * rest.length + 2 * vars.decrypted.length + 3
  | .scanDecrypt _ _ _ rest vars => 4 * rest.length + 2 * vars.decrypted.length + 6
  | .locking _ _ todo guards _ => 2 * todo.length + guards.length + 2
  | .abandoning _ _ guards => guards.length + 1
  | .installing _ _ guards _ => guards.length + 1
  | _ => 0

/-- How many steps a call of the admin API takes at most. -/
def KeyStore.rank (store : KeyStore) : KeyOp → Nat
  | .unlock _ _ => 3
  | .unlockKeyring name _ => 4 * (store.keyringMembers name).length + 3
  | _ => 0

/-- How many steps the task has left at most: its start, its call and its end. -/
def AdminSt.rank (store : KeyStore) (t : AdminSt P S R) (c : Nat) : Nat :=
  match t.tasks c with
  | .spawned op => store.rank op + 2
  | .running _ => (t.keys.calls c).rank + 1
  | _ => 0

/-- The steps of the task `c`. -/
def AdminAct.ofTask (c : Nat) : AdminAct → Bool
  | .start d => d == c
  | .work d => d == c
  | .finish d => d == c
  | .panic d => d == c
  | _ => false

section Progress

variable {crates : KeyCrates P S R} {store : KeyStore} {keyrings : List KeyringConfig}
  {fromSlice : List UInt8 → Option UnlockRequest} {s t u : AdminSt P S R} {a : AdminAct}
  {as : List AdminAct} {c : Nat} {cells cells' : KeyCells P S R}
  {pc pc' : KeyPc (UnlockedKeyMaterial P S R)}

/-! ## The rank sinks -/

theorem rank_enter {M : Type} {op : KeyOp} {pc : KeyPc M} (h : store.enter op = some pc) :
    pc.rank ≤ store.rank op := by
  cases keyEntry_of_eq h with
  | ring name passphrase => simp [KeyPc.rank, KeyStore.rank]
  | _ => simp [KeyPc.rank, KeyStore.rank]

theorem rank_step {op : KeyOp} (hop : pc.op = some op) (hadmin : op.isPublic = false)
    (h : store.stepCall crates c cells pc = some (cells', pc')) : pc'.rank < pc.rank := by
  cases keyStep_of_eq h with
  | endScan name passphrase vars =>
    unfold KeyStore.endScan
    split <;> simp [KeyPc.rank]
  | isUnlocked | publicKeyPem | signDigest | requestLocked | requestCheck | requestSign =>
    cases hop
    cases hadmin
  | _ =>
    simp only [KeyPc.rank, List.length_cons, List.length_append, List.length_nil]
    omega

/-! ## The task is not blocked -/

/-- A call of the admin API that no other call can block goes on. -/
theorem stepCall_isSome (hw : store.WellFormed keyrings) {inst : Nat → Prop} {op : KeyOp}
    (hop : pc.op = some op) (hadmin : op.isPublic = false) (hdone : ∀ op ret, pc ≠ .done op ret)
    (hcall : CallOk crates store cells inst pc) (hheld : HeldOk c cells pc)
    (hfree : ∀ i d, (cells i).writer = some d → d = c) :
    ∃ r, store.stepCall crates c cells pc = some r := by
  -- A lock whose guard the call does not hold is free.
  have hnone {i : Nat} (hi : i ∉ pc.held) : (cells i).writer = none := by
    cases hwr : (cells i).writer with
    | none => rfl
    | some d =>
      have hd := hfree i d hwr
      subst hd
      exact absurd ((hheld.iff i).mpr hwr) hi
  have hkey {keyId : String} (h : ActiveKey store keyId) :
      ∃ i key, store.position keyId = some i ∧ store.keys[i]? = some key := by
    obtain ⟨i, hp, -⟩ := h
    obtain ⟨key, hk, -⟩ := (hw.position_iff keyId i).mp hp
    exact ⟨i, key, hp, hk⟩
  cases pc with
  | unlockCheck keyId passphrase =>
    obtain ⟨i, key, hp, -⟩ := hkey hcall.2
    have hread := readable_eq_some.mpr ⟨hp, hnone (List.not_mem_nil (a := i))⟩
    exact ⟨_, by simp only [KeyStore.stepCall, hread]; rfl⟩
  | unlockDecrypt keyId passphrase =>
    obtain ⟨i, key, hp, hk⟩ := hkey hcall.2
    have hget : store.get keyId = some key := by rw [KeyStore.get, hp]; exact hk
    exact ⟨_, by simp only [KeyStore.stepCall, hget]; rfl⟩
  | unlockInstall keyId passphrase material =>
    obtain ⟨i, key, hp, -⟩ := hkey hcall.2
    have hread := readable_eq_some.mpr ⟨hp, hnone (List.not_mem_nil (a := i))⟩
    exact ⟨_, by simp only [KeyStore.stepCall, hread]; rfl⟩
  | scan name passphrase rest vars =>
    cases rest with
    | nil => exact ⟨_, rfl⟩
    | cons i rest =>
      have hi := hnone (List.not_mem_nil (a := i))
      simp only [KeyStore.stepCall, hi]
      split
      · exact ⟨_, rfl⟩
      rw [if_neg (by simp)]
      split
      · exact ⟨_, rfl⟩
      · exact ⟨_, rfl⟩
  | scanDecrypt name passphrase i rest vars =>
    obtain ⟨key, hk, -⟩ := (Option.any_eq_true ..).mp hcall.2.1
    exact ⟨_, by simp only [KeyStore.stepCall, hk]; rfl⟩
  | locking name passphrase todo guards outcomes =>
    cases todo with
    | nil => exact ⟨_, rfl⟩
    | cons g todo =>
      have hnodup := hcall.2.report.nodup
      rw [List.map_append, List.map_cons, List.nodup_append] at hnodup
      have hg := hnone (i := g.1) fun hm => hnodup.2.2 _ hm _ List.mem_cons_self rfl
      simp only [KeyStore.stepCall, hg]
      rw [if_neg (by simp)]
      split
      · exact ⟨_, rfl⟩
      · exact ⟨_, rfl⟩
  | abandoning name passphrase guards => cases guards <;> exact ⟨_, rfl⟩
  | installing name passphrase guards outcomes =>
    cases guards with
    | nil => exact ⟨_, rfl⟩
    | cons g guards =>
      simp only [KeyStore.stepCall]
      split
      · exact ⟨_, rfl⟩
      · exact ⟨_, rfl⟩
  | done op ret => exact absurd rfl (hdone op ret)
  | idle => cases hop
  | isUnlocked | publicKeyPem | signDigest | requestCheck | requestSign =>
    cases hop
    cases hadmin

/-- Only the task with the permit holds guards. -/
theorem AdminOk.holds_of_held (h : AdminOk store fromSlice t) {i : Nat}
    (hi : i ∈ (t.keys.calls c).held) : (t.tasks c).holds = true := by
  have htask := h.task c
  have hring : ∃ name passphrase, (t.keys.calls c).op = some (.unlockKeyring name passphrase) ∧
      (t.keys.calls c).inKdf = false ∧ ∀ op ret, t.keys.calls c ≠ .done op ret := by
    cases hpc : t.keys.calls c with
    | locking | abandoning | installing => exact ⟨_, _, rfl, rfl, fun _ _ he => nomatch he⟩
    | _ =>
      rw [hpc] at hi
      cases hi
  obtain ⟨name, passphrase, hop, hkdf, hdone⟩ := hring
  cases ht : t.tasks c with
  | none =>
    rw [ht] at htask
    cases htask _ hop
  | spawned | running => rfl
  | ended op ret =>
    rw [ht] at htask
    cases ret with
    | some ret => exact absurd htask.1 (hdone op ret)
    | none =>
      obtain ⟨-, -, hpanic⟩ := htask
      rw [hkdf] at hpanic
      cases hpanic

/-- The key of an accepted request is known to the store. -/
theorem enter_isSome (hw : store.WellFormed keyrings) {M : Type} {request : AdminRequest}
    {op : KeyOp} (h : request.check fromSlice store = .ok op) :
    ∃ pc : KeyPc M, store.enter op = some pc := by
  unfold AdminRequest.check at h
  split at h
  · obtain ⟨-, -, key, passphrase, hget, -, -, rfl⟩ := beginUnlockKey_ok h
    obtain ⟨i, hp, hk⟩ := get_eq_some hget
    have hget' : store.get key.id = some key := by
      rw [KeyStore.get, (hw.position_iff key.id i).mpr ⟨key, hk, rfl⟩]
      exact hk
    simp only [KeyStore.enter, hget', Option.bind_eq_bind, Option.bind_some]
    split
    · exact ⟨_, rfl⟩
    · exact ⟨_, rfl⟩
  · obtain ⟨-, -, -, passphrase, -, -, rfl⟩ := beginUnlockKeyring_ok h
    simp only [KeyStore.enter]
    split
    · exact ⟨_, rfl⟩
    split
    · exact ⟨_, rfl⟩
    · exact ⟨_, rfl⟩

/-- **The task with the permit is never blocked.** -/
theorem permit_holder_runs (hw : store.WellFormed keyrings)
    (hrun : (adminSys crates store fromSlice).run .new as = some t)
    (hc : (t.tasks c).holds = true) :
    ∃ a u, a.ofTask c = true ∧ (adminSys crates store fromSlice).step t a = some u := by
  have h := run_adminOk hrun
  have htask := h.task c
  cases ht : t.tasks c with
  | none | ended =>
    rw [ht] at hc
    cases hc
  | spawned op =>
    rw [ht] at htask
    obtain ⟨hidle, request, hcheck⟩ := htask
    obtain ⟨pc, hpc⟩ := enter_isSome (M := UnlockedKeyMaterial P S R) hw hcheck
    have hstep : (store.sys crates).step t.keys (.start c op) =
        some (t.keys.after c t.keys.cells pc) := by
      simp only [KeyStore.sys, hidle, hpc]
      rfl
    refine ⟨.start c, { t with
      keys := t.keys.after c t.keys.cells pc
      tasks := Function.update t.tasks c (.running op) }, beq_self_eq_true c, ?_⟩
    simp only [adminSys, ht, AdminSt.keyStep, hstep]
    rfl
  | running op =>
    rw [ht] at htask
    obtain ⟨hop, hadmin⟩ := htask
    by_cases hdone : ∃ op' ret, t.keys.calls c = .done op' ret
    · obtain ⟨op', ret, hd⟩ := hdone
      refine ⟨.finish c, { t with
        permits := t.permits + 1
        tasks := Function.update t.tasks c (.ended op (some ret)) }, beq_self_eq_true c, ?_⟩
      simp only [adminSys, ht, hd]
    · have hcall := run_callOk hw fresh_rested (run_keys hrun) c
      obtain ⟨⟨cells, pc⟩, hs⟩ := stepCall_isSome hw hop hadmin
        (fun op' ret he => hdone ⟨op', ret, he⟩) hcall (run_held hrun c) fun i d hwr =>
          h.permits.eq_of_held (h.holds_of_held (((run_held hrun d).iff i).mpr hwr)) hc
      have hstep : (store.sys crates).step t.keys (.run c) = some (t.keys.after c cells pc) := by
        simp only [KeyStore.sys, hs]
        rfl
      refine ⟨.work c, { t with keys := t.keys.after c cells pc }, beq_self_eq_true c, ?_⟩
      simp only [adminSys, ht, AdminSt.keyStep, hstep]
      rfl

/-- The rank is of the task and its call. -/
theorem rank_congr (htask : u.tasks c = t.tasks c) (hcall : u.keys.calls c = t.keys.calls c) :
    u.rank store c = t.rank store c := by
  unfold AdminSt.rank
  rw [htask, hcall]

/-- A task is there for good, also after its end. -/
theorem task_stays (hc : t.tasks c ≠ .none)
    (hu : (adminSys crates store fromSlice).step t a = some u) : u.tasks c ≠ .none := by
  cases adminStep hu with
  | acquire d | start d | finish d | panic d =>
    dsimp only
    rcases update_cases t.tasks d _ c with ⟨rfl, he⟩ | ⟨-, he⟩
    · rw [he]
      exact fun hn => nomatch hn
    · rw [he]
      exact hc
  | _ => exact hc

/-- An own step of the task lowers its rank, and a step of anybody else leaves it. -/
theorem rank_adminStep (h : AdminOk store fromSlice t) (hc : t.tasks c ≠ .none)
    (hu : (adminSys crates store fromSlice).step t a = some u) :
    (a.ofTask c = true → u.rank store c < t.rank store c) ∧
    (a.ofTask c = false → u.rank store c = t.rank store c) := by
  -- A step of the task `d`, if it lowers the rank of `d` and moves nobody else.
  have hown {d : Nat} (hlower : u.rank store d < t.rank store d)
      (hother : d ≠ c → u.tasks c = t.tasks c ∧ u.keys.calls c = t.keys.calls c) :
      ((d == c) = true → u.rank store c < t.rank store c) ∧
      ((d == c) = false → u.rank store c = t.rank store c) := by
    constructor
    · intro hd
      rw [← eq_of_beq hd]
      exact hlower
    · intro hd
      obtain ⟨htask, hcall⟩ := hother (ne_of_beq_false hd)
      exact rank_congr htask hcall
  have hne {d : Nat} (hd : t.tasks d = .none) : c ≠ d := by
    rintro rfl
    exact hc hd
  cases adminStep hu with
  | arrive | reply | disconnect => exact ⟨fun ha => (nomatch ha), fun _ => rfl⟩
  | acquire d request op hq =>
    have hd := h.handler d
    rw [hq] at hd
    refine ⟨fun ha => (nomatch ha), fun _ => rank_congr ?_ rfl⟩
    exact Function.update_of_ne (hne hd.1) _ _
  | start d op keys hsp hk =>
    obtain ⟨-, pc, hpc, rfl⟩ := calls_of_start hk
    refine hown ?_ fun hd => ⟨Function.update_of_ne hd.symm _ _, Function.update_of_ne hd.symm _ _⟩
    have hle := rank_enter hpc
    simp only [AdminSt.rank, hsp, after_calls, Function.update_self]
    omega
  | work d op keys hr hk =>
    obtain ⟨cells, pc, hs, rfl⟩ := calls_of_run hk
    refine hown ?_ fun hd => ⟨rfl, Function.update_of_ne hd.symm _ _⟩
    have htask := h.task d
    rw [hr] at htask
    have hlt := rank_step htask.1 htask.2 hs
    simp only [AdminSt.rank, hr, after_calls, Function.update_self]
    omega
  | finish d op op' ret hr =>
    refine hown ?_ fun hd => ⟨Function.update_of_ne hd.symm _ _, rfl⟩
    simp only [AdminSt.rank, hr, Function.update_self]
    omega
  | panic d op hr =>
    refine hown ?_ fun hd => ⟨Function.update_of_ne hd.symm _ _, rfl⟩
    simp only [AdminSt.rank, hr, Function.update_self]
    omega
  | publicCall d op keys hout _ hk =>
    obtain ⟨-, pc, -, rfl⟩ := calls_of_start hk
    have hd := h.handler d
    rw [hout] at hd
    refine ⟨fun ha => (nomatch ha), fun _ => rank_congr rfl ?_⟩
    exact Function.update_of_ne (hne hd) _ _
  | publicStep d keys hn hk =>
    obtain ⟨cells, pc, -, rfl⟩ := calls_of_run hk
    refine ⟨fun ha => (nomatch ha), fun _ => rank_congr rfl ?_⟩
    exact Function.update_of_ne (hne hn) _ _
  | poison i keys hk =>
    obtain ⟨-, rfl⟩ := calls_of_poison hk
    exact ⟨fun ha => (nomatch ha), fun _ => rfl⟩

/-- **The permit comes back.** Whenever a task has the permit, it can take a step, whatever the other
requests and the public API are about; and in no continuation in which it still has the permit has
it taken more steps than its rank, which is that of its request at the most. Its client may long be
gone. -/
theorem permit_comes_back {keys : List KeyMaterial}
    (hstore : KeyStore.fromKeys keys keyrings = .ok store)
    (hrun : (adminSys crates store fromSlice).run .new as = some t)
    (hc : (t.tasks c).holds = true) :
    (∃ a u, a.ofTask c = true ∧ (adminSys crates store fromSlice).step t a = some u) ∧
    (∀ bs u, (adminSys crates store fromSlice).run t bs = some u → (u.tasks c).holds = true →
      bs.countP (AdminAct.ofTask c) < t.rank store c) ∧
    ∀ op, t.tasks c = .spawned op → t.rank store c = store.rank op + 2 := by
  refine ⟨permit_holder_runs (KeyStore.wellFormed_of_ok hstore) hrun hc, fun bs u hbs hu => ?_,
    fun op hop => by rw [AdminSt.rank, hop]⟩
  have hle := Sys.count_le_rank (I := fun t => AdminOk store fromSlice t ∧ t.tasks c ≠ .none)
    (fun t => t.rank store c) (AdminAct.ofTask c)
    (fun t a u h hu => ⟨h.1.step hu, task_stays h.2 hu⟩)
    (fun t a u h hu => (rank_adminStep h.1 h.2 hu).1)
    (fun t a u h hu ha => ((rank_adminStep h.1 h.2 hu).2 ha).le)
    ⟨run_adminOk hrun, fun hn => by simp [hn, TaskPc.holds] at hc⟩ hbs
  have hpos : 0 < u.rank store c := by
    unfold AdminSt.rank
    cases htask : u.tasks c with
    | none | ended =>
      rw [htask] at hu
      cases hu
    | spawned | running => exact Nat.succ_pos _
  omega

/-- The client of the keyring unlock has gone, and its task still has the permit: it goes on, and
keeps the permit for at most ten more steps of its own. -/
theorem unlock_outlives_client : ∃ t,
    (adminSys exampleCrates exampleKeyStore (readUnlockBody "correct horse")).run .new
      exampleQueueRun = some t ∧
    (∃ a u, a.ofTask 0 = true ∧
      (adminSys exampleCrates exampleKeyStore (readUnlockBody "correct horse")).step t a = some u) ∧
    ∀ bs u, (adminSys exampleCrates exampleKeyStore (readUnlockBody "correct horse")).run t bs =
      some u → (u.tasks 0).holds = true → bs.countP (AdminAct.ofTask 0) < 11 := by
  obtain ⟨t, hrun, hholds, hrank⟩ : ∃ t,
      (adminSys exampleCrates exampleKeyStore (readUnlockBody "correct horse")).run .new
        exampleQueueRun = some t ∧
      (t.tasks 0).holds = true ∧ t.rank exampleKeyStore 0 = 11 := ⟨_, rfl, rfl, rfl⟩
  obtain ⟨hgoes, hsteps, -⟩ := permit_comes_back exampleKeyStore_ok hrun hholds
  rw [hrank] at hsteps
  exact ⟨t, hrun, hgoes, hsteps⟩

end Progress

end MicrotunSigner
