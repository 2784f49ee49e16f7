import MicrotunSigner.Key.UnlockRuns

/-!
# The keys a keyring call does not open (`key.rs`)

`Found`: the call has found an active member locked. It then runs the KDF of that member, which the
passphrase opens or not (`opens`). `FailOk` is the invariant of the member loop: `opened` and
`failed` are the ids of the members found so far, by what the passphrase did. At the end of the loop
this decides how the call fails (`keyring_failure`).
-/

namespace MicrotunSigner

open Lib

variable {P S R : Type}

/-- The passphrase opens the key at a position. -/
def KeyStore.opens (crates : KeyCrates P S R) (store : KeyStore) (passphrase : String) (i : Nat) :
    Bool :=
  match store.keys[i]? with
  | none => false
  | some key => (key.decrypt crates passphrase).isOk

open Classical in
/-- The ids of the keys at the positions with the property `p`, in their order. -/
noncomputable def KeyStore.idsWhere (store : KeyStore) (p : Nat → Prop) (ps : List Nat) :
    List String :=
  (ps.filter fun i => p i).map store.idAt

/-- A step of the call `c` that finds the active member `i` locked. -/
def Finds (store : KeyStore) (c i : Nat) (t : KeySt P S R) (a : KeyAct) (_u : KeySt P S R) : Prop :=
  a = .run c ∧ (∃ name passphrase rest vars, t.calls c = .scan name passphrase (i :: rest) vars) ∧
    store.isActive i = true ∧ (t.cells i).isUnlocked = false

/-- The call `c` has found the active member `i` locked. -/
def Found (crates : KeyCrates P S R) (store : KeyStore) (s : KeySt P S R) (c : Nat)
    (as : List KeyAct) (i : Nat) : Prop :=
  (store.sys crates).Did s (Finds store c i) as

/-- The variables of the loop after the members `seen`. -/
structure FoundOk (crates : KeyCrates P S R) (store : KeyStore) (found : Nat → Prop)
    (passphrase : String) (seen : List Nat) (vars : KeyringScan (UnlockedKeyMaterial P S R)) :
    Prop where
  opened : vars.opened =
    store.idsWhere (fun i => found i ∧ store.opens crates passphrase i = true) seen
  failed : vars.failed =
    store.idsWhere (fun i => found i ∧ store.opens crates passphrase i = false) seen

/-- A keyring call has returned: with the ids of the members found locked if it failed on one of
them, and else it failed on none. -/
def RingRet (crates : KeyCrates P S R) (store : KeyStore) (found : Nat → Prop)
    (name passphrase : String) : Except KeyringUnlockError (List KeyringMemberOutcome) → Prop
  | .error .invalidPassphrase =>
    store.idsWhere (fun i => found i ∧ store.opens crates passphrase i = true)
      (store.keyringMembers name) = [] ∧
    store.idsWhere (fun i => found i ∧ store.opens crates passphrase i = false)
      (store.keyringMembers name) ≠ []
  | .error (.passphraseMismatch opened failed) => opened ≠ [] ∧ failed ≠ [] ∧
    opened = store.idsWhere (fun i => found i ∧ store.opens crates passphrase i = true)
      (store.keyringMembers name) ∧
    failed = store.idsWhere (fun i => found i ∧ store.opens crates passphrase i = false)
      (store.keyringMembers name)
  | _ => ∀ i, found i → store.opens crates passphrase i = true

/-- What holds of a keyring call at each of its places; `found` are the members it has found
locked. -/
def FailOk (crates : KeyCrates P S R) (store : KeyStore) (found : Nat → Prop) :
    KeyPc (UnlockedKeyMaterial P S R) → Prop
  | .idle => ∀ i, ¬ found i
  | .scan name passphrase rest vars => ∃ seen, store.keyringMembers name = seen ++ rest ∧
      (∀ i, found i → i ∈ seen) ∧ FoundOk crates store found passphrase seen vars
  | .scanDecrypt name passphrase i rest vars => ∃ seen,
      store.keyringMembers name = seen ++ i :: rest ∧ found i ∧
      (∀ j, found j → j ∈ seen ∨ j = i) ∧ FoundOk crates store found passphrase seen vars
  | .locking _ passphrase _ _ _ => ∀ i, found i → store.opens crates passphrase i = true
  | .abandoning _ passphrase _ => ∀ i, found i → store.opens crates passphrase i = true
  | .installing _ passphrase _ _ => ∀ i, found i → store.opens crates passphrase i = true
  | .done (.unlockKeyring name passphrase) (.unlockKeyring result) =>
      RingRet crates store found name passphrase result
  | _ => True

section Failures

variable {crates : KeyCrates P S R} {store : KeyStore} {keyrings : List KeyringConfig}
  {s t u : KeySt P S R} {a : KeyAct} {as : List KeyAct} {c i : Nat} {cells cells' : KeyCells P S R}
  {pc pc' : KeyPc (UnlockedKeyMaterial P S R)} {found found' p q : Nat → Prop}
  {name passphrase : String} {ps seen rest : List Nat}
  {vars : KeyringScan (UnlockedKeyMaterial P S R)}

/-! ## Ids by a property -/

theorem idsWhere_congr (h : ∀ i ∈ ps, p i ↔ q i) : store.idsWhere p ps = store.idsWhere q ps := by
  unfold KeyStore.idsWhere
  congr 1
  refine List.filter_congr fun i hi => ?_
  rw [decide_eq_decide]
  exact h i hi

theorem idsWhere_snoc_pos (h : p i) :
    store.idsWhere p (ps ++ [i]) = store.idsWhere p ps ++ [store.idAt i] := by
  simp [KeyStore.idsWhere, h]

theorem idsWhere_snoc_neg (h : ¬ p i) : store.idsWhere p (ps ++ [i]) = store.idsWhere p ps := by
  simp [KeyStore.idsWhere, h]

theorem idsWhere_eq_nil : store.idsWhere p ps = [] ↔ ∀ i ∈ ps, ¬ p i := by
  simp [KeyStore.idsWhere]

theorem idsWhere_ne_nil : store.idsWhere p ps ≠ [] ↔ ∃ i ∈ ps, p i := by
  simp [KeyStore.idsWhere]

theorem FoundOk.pass (h : FoundOk crates store found passphrase seen vars) (hi : ¬ found i)
    (outcomes : List KeyringMemberOutcome) :
    FoundOk crates store found passphrase (seen ++ [i]) { vars with outcomes } where
  opened := by rw [idsWhere_snoc_neg fun hf => hi hf.1, h.opened]
  failed := by rw [idsWhere_snoc_neg fun hf => hi hf.1, h.failed]

/-- A member that is found later makes no difference to those before it. -/
theorem FoundOk.find (h : FoundOk crates store found passphrase seen vars)
    (hf : ∀ j ∈ seen, found' j ↔ found j) : FoundOk crates store found' passphrase seen vars where
  opened := by rw [h.opened, idsWhere_congr fun j hj => and_congr_left fun _ => (hf j hj).symm]
  failed := by rw [h.failed, idsWhere_congr fun j hj => and_congr_left fun _ => (hf j hj).symm]

/-! ## One step -/

theorem FailOk.start {op : KeyOp} (h : store.enter op = some pc) (hnone : ∀ i, ¬ found i) :
    FailOk crates store found pc := by
  cases keyEntry_of_eq h with
  | unknownKeyring | noActiveKeys => exact fun i hi => absurd hi (hnone i)
  | ring name passphrase hne => exact ⟨[], rfl, fun i hi => absurd hi (hnone i), rfl, rfl⟩
  | _ => trivial

/-- The end of the loop. -/
theorem FoundOk.endScan (h : FoundOk crates store found passphrase (store.keyringMembers name) vars)
    (hf : ∀ i, found i → i ∈ store.keyringMembers name) :
    FailOk crates store found (KeyStore.endScan name passphrase vars) := by
  unfold KeyStore.endScan
  by_cases hfail : vars.failed = []
  · rw [if_neg (by simp [hfail])]
    intro i hi
    have hnone := idsWhere_eq_nil.mp (h.failed.symm.trans hfail) i (hf i hi)
    simpa [hi] using hnone
  · rw [if_pos (by simpa using hfail)]
    by_cases hopen : vars.opened = []
    · rw [if_pos (by simp [hopen])]
      exact ⟨h.opened ▸ hopen, h.failed ▸ hfail⟩
    · rw [if_neg (by simpa using hopen)]
      exact ⟨hopen, hfail, h.opened, h.failed⟩

theorem notMem_seen (hw : store.WellFormed keyrings)
    (hm : store.keyringMembers name = seen ++ i :: rest) : i ∉ seen := fun hi => by
  have hd := hw.members_nodup name
  rw [hm, List.nodup_append] at hd
  exact hd.2.2 i hi i List.mem_cons_self rfl

/-- The loop passes a member that it did not find locked. -/
theorem FailOk.pass (hw : store.WellFormed keyrings)
    (h : FailOk crates store found (.scan name passphrase (i :: rest) vars))
    (outcomes : List KeyringMemberOutcome) :
    FailOk crates store found (.scan name passphrase rest { vars with outcomes }) := by
  obtain ⟨seen, hm, hsub, hv⟩ := h
  refine ⟨seen ++ [i], ?_, fun j hj => List.mem_append_left _ (hsub j hj),
    hv.pass (fun hi => notMem_seen hw hm (hsub i hi)) outcomes⟩
  rw [hm, List.append_assoc, List.singleton_append]

/-- **One step of a call** keeps what holds of it. -/
theorem FailOk.step (hw : store.WellFormed keyrings) (h : FailOk crates store found pc)
    (hs : store.stepCall crates c cells pc = some (cells', pc'))
    (hfound : ∀ i, found' i ↔ found i ∨
      (∃ name passphrase rest vars, pc = .scan name passphrase (i :: rest) vars) ∧
        store.isActive i = true ∧ (cells i).isUnlocked = false) :
    FailOk crates store found' pc' := by
  have hsame (hpc : ∀ name passphrase i rest vars, pc = .scan name passphrase (i :: rest) vars →
      ¬ (store.isActive i = true ∧ (cells i).isUnlocked = false)) : found' = found := by
    funext i
    refine propext ((hfound i).trans (or_iff_left ?_))
    rintro ⟨⟨name, passphrase, rest, vars, he⟩, hl⟩
    exact hpc name passphrase i rest vars he hl
  cases keyStep_of_eq hs with
  | endScan name passphrase vars =>
    obtain ⟨seen, hm, hsub, hv⟩ := h
    rw [hsame (by simp)]
    rw [List.append_nil] at hm
    subst hm
    exact hv.endScan hsub
  | skip name passphrase i rest vars ha =>
    rw [hsame (by rintro _ _ _ _ _ ⟨⟩ hl; simp [ha] at hl)]
    exact h.pass hw _
  | already name passphrase i rest vars ha hu =>
    rw [hsame (by rintro _ _ _ _ _ ⟨⟩ hl; simp [hu] at hl)]
    exact h.pass hw _
  | find name passphrase i rest vars ha hl =>
    obtain ⟨seen, hm, hsub, hv⟩ := h
    have hnew : i ∉ seen := notMem_seen hw hm
    refine ⟨seen, hm, (hfound i).mpr (.inr ⟨⟨_, _, _, _, rfl⟩, ha, hl⟩), fun j hj => ?_,
      hv.find fun j hj => (hfound j).trans (or_iff_left ?_)⟩
    · rcases (hfound j).mp hj with hj | ⟨⟨_, _, _, _, he⟩, -⟩
      · exact .inl (hsub j hj)
      · cases he
        exact .inr rfl
    · rintro ⟨⟨_, _, _, _, he⟩, -⟩
      cases he
      exact hnew hj
  | opens name passphrase i rest vars key material hkey hd =>
    obtain ⟨seen, hm, hi, hsub, hv⟩ := h
    rw [hsame (by simp)]
    have htrue : store.opens crates passphrase i = true := by
      unfold KeyStore.opens
      rw [hkey]
      exact congrArg Except.isOk hd
    refine ⟨seen ++ [i], by rw [hm, List.append_assoc, List.singleton_append], fun j hj => ?_,
      ?_, ?_⟩
    · rw [List.mem_append, List.mem_singleton]
      exact hsub j hj
    · rw [idsWhere_snoc_pos ⟨hi, htrue⟩, hv.opened, idAt_eq hkey]
    · rw [idsWhere_snoc_neg (by simp [htrue]), hv.failed]
  | fails name passphrase i rest vars key e hkey hd =>
    obtain ⟨seen, hm, hi, hsub, hv⟩ := h
    rw [hsame (by simp)]
    have hfalse : store.opens crates passphrase i = false := by
      unfold KeyStore.opens
      rw [hkey]
      exact congrArg Except.isOk hd
    refine ⟨seen ++ [i], by rw [hm, List.append_assoc, List.singleton_append], fun j hj => ?_,
      ?_, ?_⟩
    · rw [List.mem_append, List.mem_singleton]
      exact hsub j hj
    · rw [idsWhere_snoc_neg (by simp [hfalse]), hv.opened]
    · rw [idsWhere_snoc_pos ⟨hi, hfalse⟩, hv.failed, idAt_eq hkey]
  | locked | poisoned | lock | abandoned | abandon | installed | keep | put =>
    rw [hsame (by simp)]
    exact h
  | _ => trivial

/-! ## Runs -/

/-- **Every call, in every run.** -/
theorem run_failOk (hw : store.WellFormed keyrings) (h0 : s.Rested)
    (hrun : (store.sys crates).run s as = some t) (c : Nat) :
    FailOk crates store (Found crates store s c as) (t.calls c) := by
  refine run_call h0 hrun (D := Finds store c) (Q := fun found _ pc => FailOk crates store found pc)
    (fun _ _ _ _ h => h.1) (fun _ => id) ?start ?own ?other
  case start => exact fun found cells op pc hpc hnone => FailOk.start hpc hnone
  case other => exact fun found cells cells' pc _ h => h
  case own =>
    intro as t cells pc found' ht hs h hfound
    refine h.step hw hs fun i => (hfound i).trans (or_congr_right ?_)
    exact ⟨fun h => h.2, fun h => ⟨rfl, h⟩⟩

/-- A keyring call names what it found: in every run, what it returns is decided by the members it
found locked and by what the passphrase opens. -/
theorem keyring_failure (hw : store.WellFormed keyrings) (h0 : s.Rested)
    (hrun : (store.sys crates).run s as = some t)
    {result : Except KeyringUnlockError (List KeyringMemberOutcome)}
    (hdone : t.calls c = .done (.unlockKeyring name passphrase) (.unlockKeyring result)) :
    RingRet crates store (Found crates store s c as) name passphrase result := by
  have h := run_failOk hw h0 hrun c
  rw [hdone] at h
  exact h

end Failures

end MicrotunSigner
