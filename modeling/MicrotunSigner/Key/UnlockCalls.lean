import MicrotunSigner.Key.UnlockInv

/-!
# The invariant of a call on the key store

`CallOk` is what is true of a call at each of its places. It speaks of the keys whose material the
call has installed so far, a set `inst`. A step of another call keeps it, since no step takes
material away (`CallOk.mono`), and so does the call's own step (`CallOk.step`).
-/

namespace MicrotunSigner

open Lib

variable {P S R : Type}

section Calls

variable {crates : KeyCrates P S R} {store : KeyStore} {keyrings : List KeyringConfig} {c : Nat}
  {cells cells' : KeyCells P S R} {inst inst' : Nat → Prop}
  {pc pc' : KeyPc (UnlockedKeyMaterial P S R)}

/-- The key `keyId` is active. -/
def ActiveKey (store : KeyStore) (keyId : String) : Prop :=
  ∃ i, store.position keyId = some i ∧ store.isActive i = true

/-- The signature is one by the material of the key. -/
def Signed (crates : KeyCrates P S R) (store : KeyStore) (cells : KeyCells P S R) (keyId : String)
    (rng : Nat) (digest : Vector UInt8 32) (signature : List UInt8) : Prop :=
  ∃ i material, store.position keyId = some i ∧ (cells i).unlocked = some material ∧
    material.sign crates rng digest = .ok signature

/-- The outcomes of a keyring call that is past its member loop. -/
structure RingReport (store : KeyStore) (cells : KeyCells P S R) (inst : Nat → Prop) (name : String)
    (pending : List Nat) (outcomes : List KeyringMemberOutcome) : Prop where
  nonempty : store.keyringMembers name ≠ []
  report : Report store cells inst (store.keyringMembers name) pending outcomes

/-- What holds of a call that has returned `ret` and has installed the material of `inst`. -/
def RetOk (crates : KeyCrates P S R) (store : KeyStore) (cells : KeyCells P S R)
    (inst : Nat → Prop) : KeyOp → KeyRet → Prop
  | .unlock keyId _, .unlock (.ok outcome) => ∃ i, store.position keyId = some i ∧
      store.isActive i = true ∧ ∀ j, inst j ↔ outcome = .unlocked ∧ j = i
  | .unlockKeyring name _, .unlockKeyring (.ok outcomes) =>
      RingReport store cells inst name [] outcomes
  | .publicKeyPem keyId, .publicKeyPem (some pem) => (∀ i, ¬ inst i) ∧
      ∃ i material, store.position keyId = some i ∧ (cells i).unlocked = some material ∧
        material.publicKeyPem crates = some pem
  | .signDigest keyId rng digest, .signDigest (.ok signature) => (∀ i, ¬ inst i) ∧
      Signed crates store cells keyId rng digest signature
  | .signingRequest keyId rng digest, .signDigest (.ok signature) => (∀ i, ¬ inst i) ∧
      Signed crates store cells keyId rng digest signature
  | .signingRequest _ _ _, .signDigest (.error e) => (∀ i, ¬ inst i) ∧ e ≠ .locked
  | _, _ => ∀ i, ¬ inst i

/-- The member loop has passed the members before `rest`. -/
def ScanOk (store : KeyStore) (cells : KeyCells P S R) (inst : Nat → Prop) (name : String)
    (rest : List Nat) (vars : KeyringScan (UnlockedKeyMaterial P S R)) : Prop :=
  ∃ seen pending, store.keyringMembers name ≠ [] ∧ store.keyringMembers name = seen ++ rest ∧
    Report store cells inst seen pending vars.outcomes ∧
    (vars.failed = [] → pending = vars.decrypted.map Prod.fst)

/-- What holds of a call at each of its places. -/
def CallOk (crates : KeyCrates P S R) (store : KeyStore) (cells : KeyCells P S R)
    (inst : Nat → Prop) : KeyPc (UnlockedKeyMaterial P S R) → Prop
  | .unlockCheck keyId _ => (∀ i, ¬ inst i) ∧ ActiveKey store keyId
  | .unlockDecrypt keyId _ => (∀ i, ¬ inst i) ∧ ActiveKey store keyId
  | .unlockInstall keyId _ _ => (∀ i, ¬ inst i) ∧ ActiveKey store keyId
  | .scan name _ rest vars => (∀ i, ¬ inst i) ∧ ScanOk store cells inst name rest vars
  | .scanDecrypt name _ i rest vars => (∀ i, ¬ inst i) ∧ store.isActive i = true ∧
      ScanOk store cells inst name (i :: rest) vars
  | .locking name _ todo guards outcomes => (∀ i, ¬ inst i) ∧
      RingReport store cells inst name ((guards ++ todo).map Prod.fst) outcomes
  | .installing name _ guards outcomes =>
      RingReport store cells inst name (guards.map Prod.fst) outcomes
  | .requestSign keyId _ _ => (∀ i, ¬ inst i) ∧
      ∃ i, store.position keyId = some i ∧ (cells i).unlocked.isSome = true
  | .done op ret => RetOk crates store cells inst op ret
  | _ => ∀ i, ¬ inst i

/-- No key loses its material or changes it. -/
def Keeps (cells cells' : KeyCells P S R) : Prop :=
  ∀ i material, (cells i).unlocked = some material → (cells' i).unlocked = some material

theorem Keeps.isSome (h : Keeps cells cells') (i : Nat) (hi : (cells i).unlocked.isSome = true) :
    (cells' i).unlocked.isSome = true := by
  obtain ⟨m, hm⟩ := Option.isSome_iff_exists.mp hi
  rw [h i m hm]
  rfl

theorem keeps_refl : Keeps cells cells := fun _ _ h => h

theorem stepCall_keeps (h : store.stepCall crates c cells pc = some (cells', pc')) :
    Keeps cells cells' := by
  intro i material hi
  rcases (stepCall_cell h i).unlocked with he | ⟨hn, -⟩
  · rw [he, hi]
  · rw [hi] at hn
    cases hn

theorem RingReport.mono {name : String} {pending : List Nat} {outcomes : List KeyringMemberOutcome}
    (h : RingReport store cells inst name pending outcomes) (hk : Keeps cells cells') :
    RingReport store cells' inst name pending outcomes :=
  ⟨h.nonempty, h.report.mono hk.isSome⟩

theorem RetOk.mono {op : KeyOp} {ret : KeyRet} (h : RetOk crates store cells inst op ret)
    (hk : Keeps cells cells') : RetOk crates store cells' inst op ret := by
  unfold RetOk at h ⊢
  split at h
  · exact h
  · exact h.mono hk
  · obtain ⟨hn, i, m, hp, hm, hpem⟩ := h
    exact ⟨hn, i, m, hp, hk i m hm, hpem⟩
  · obtain ⟨hn, i, m, hp, hm, hs⟩ := h
    exact ⟨hn, i, m, hp, hk i m hm, hs⟩
  · obtain ⟨hn, i, m, hp, hm, hs⟩ := h
    exact ⟨hn, i, m, hp, hk i m hm, hs⟩
  · exact h
  · exact h

theorem ScanOk.mono {name : String} {rest : List Nat}
    {vars : KeyringScan (UnlockedKeyMaterial P S R)} (h : ScanOk store cells inst name rest vars)
    (hk : Keeps cells cells') : ScanOk store cells' inst name rest vars := by
  obtain ⟨seen, pending, hne, hm, hr, hf⟩ := h
  exact ⟨seen, pending, hne, hm, hr.mono hk.isSome, hf⟩

/-- A step of another call keeps what holds of this one. -/
theorem CallOk.mono (h : CallOk crates store cells inst pc) (hk : Keeps cells cells') :
    CallOk crates store cells' inst pc := by
  cases pc with
  | scan name passphrase rest vars => exact ⟨h.1, h.2.mono hk⟩
  | scanDecrypt name passphrase i rest vars => exact ⟨h.1, h.2.1, h.2.2.mono hk⟩
  | locking name passphrase todo guards outcomes => exact ⟨h.1, h.2.mono hk⟩
  | installing name passphrase guards outcomes => exact RingReport.mono h hk
  | requestSign keyId rng digest =>
    obtain ⟨hn, i, hp, hs⟩ := h
    exact ⟨hn, i, hp, hk.isSome i hs⟩
  | done op ret => exact RetOk.mono h hk
  | _ => exact h

theorem CallOk.start {op : KeyOp} (h : store.enter op = some pc) (hinst : ∀ i, ¬ inst i) :
    CallOk crates store cells inst pc := by
  cases keyEntry_of_eq h with
  | unlock keyId passphrase i hp ha => exact ⟨hinst, i, hp, ha⟩
  | ring name passphrase hne => exact ⟨hinst, [], [], hne, rfl, report_nil hinst, fun _ => rfl⟩
  | _ => exact hinst

/-- `inst'` adds to `inst` what a step from `cells` to `cells'` has installed. -/
def Adds (cells cells' : KeyCells P S R) (inst inst' : Nat → Prop) : Prop :=
  ∀ i, inst' i ↔ inst i ∨ (cells i).unlocked = none ∧ (cells' i).unlocked.isSome = true

/-- A step that installs nothing adds nothing. -/
theorem Adds.eq (h : Adds cells cells' inst inst')
    (hc : ∀ i, (cells' i).unlocked = (cells i).unlocked) : inst' = inst := by
  funext i
  refine propext ((h i).trans (or_iff_left ?_))
  rintro ⟨hn, hs⟩
  rw [hc i, hn] at hs
  cases hs

/-- What `sign_digest` returns, as far as the material decides it. -/
theorem signDigest_cases {rng : Nat} {digest : Vector UInt8 32}
    (cell : KeyCell (UnlockedKeyMaterial P S R)) :
    (∀ signature, cell.signDigest crates rng digest = .ok signature →
      ∃ material, cell.unlocked = some material ∧
        material.sign crates rng digest = .ok signature) ∧
    (cell.unlocked.isSome = true → cell.signDigest crates rng digest ≠ .error .locked) := by
  unfold KeyCell.signDigest
  by_cases hp : cell.poisoned = true
  · rw [if_pos hp]
    exact ⟨fun signature h => (nomatch h), fun _ h => nomatch h⟩
  · rw [if_neg hp]
    cases hm : cell.unlocked with
    | none => exact ⟨fun signature h => (nomatch h), fun h => nomatch h⟩
    | some material =>
      refine ⟨fun signature h => ⟨material, rfl, h⟩, fun _ h => ?_⟩
      obtain ⟨-, he⟩ := okOr_eq_error.mp h
      cases he

theorem publicKeyPem_eq_some {cell : KeyCell (UnlockedKeyMaterial P S R)} {pem : String}
    (h : cell.publicKeyPem crates = some pem) :
    ∃ material, cell.unlocked = some material ∧ material.publicKeyPem crates = some pem := by
  obtain ⟨material, hm, hpem⟩ := Option.bind_eq_some_iff.mp h
  split at hm
  · cases hm
  · exact ⟨material, hm, hpem⟩

/-- The ids at the positions of some keys are the ids of these keys. -/
theorem KeyStore.WellFormed.map_idAt (hw : store.WellFormed keyrings) {ids : List String}
    {ps : List Nat} (h : ids.map store.position = ps.map some) : ps.map store.idAt = ids := by
  induction ids generalizing ps with
  | nil =>
    rw [List.map_nil, eq_comm, List.map_eq_nil_iff] at h
    rw [h]
    rfl
  | cons id ids ih =>
    cases ps with
    | nil => cases h
    | cons p ps =>
      rw [List.map_cons, List.map_cons, List.cons.injEq] at h
      obtain ⟨key, hkey, rfl⟩ := (hw.position_iff id p).mp h.1
      rw [List.map_cons, ih h.2, idAt_eq hkey]

/-- The ids of the members of a keyring are distinct. -/
theorem memberIds_nodup (hw : store.WellFormed keyrings) (name : String) :
    ((store.keyringMembers name).map store.idAt).Nodup := by
  refine (hw.members_nodup name).map_on fun i hi j hj he => ?_
  obtain ⟨a, ha⟩ := hw.member hi
  obtain ⟨b, hb⟩ := hw.member hj
  rw [idAt_eq ha, idAt_eq hb] at he
  exact hw.position_inj ha hb he

/-- The member loop passes one member. -/
theorem ScanOk.snoc (hw : store.WellFormed keyrings) {name : String} {i : Nat} {rest : List Nat}
    {vars vars' : KeyringScan (UnlockedKeyMaterial P S R)}
    (h : ScanOk store cells inst name (i :: rest) vars) (hinst : ∀ i, ¬ inst i)
    {result : KeyringMemberResult}
    (ho : vars'.outcomes = vars.outcomes ++ [⟨store.idAt i, result⟩])
    (hx : store.isActive i = false ∧ result = .skippedInactive ∧ vars'.failed = vars.failed ∧
        vars'.decrypted = vars.decrypted ∨
      store.isActive i = true ∧ (cells i).unlocked.isSome = true ∧ result = .alreadyUnlocked ∧
        vars'.failed = vars.failed ∧ vars'.decrypted = vars.decrypted ∨
      store.isActive i = true ∧ result = .unlocked ∧ (vars'.failed = [] → vars.failed = [] ∧
        vars'.decrypted.map Prod.fst = vars.decrypted.map Prod.fst ++ [i])) :
    ScanOk store cells inst name rest vars' := by
  obtain ⟨seen, pending, hne, hm, hr, hf⟩ := h
  have hnot : i ∉ seen := by
    have hd := hw.members_nodup name
    rw [hm] at hd
    exact fun hc => List.disjoint_of_nodup_append hd hc List.mem_cons_self
  rcases hx with ⟨ha, rfl, hfail, hdec⟩ | ⟨ha, hs, rfl, hfail, hdec⟩ | ⟨ha, rfl, hdec⟩
  · refine ⟨seen ++ [i], pending, hne, by rw [hm]; simp, ?_, by rw [hfail, hdec]; exact hf⟩
    rw [ho]
    exact hr.snoc hnot hinst (.inl ⟨ha, rfl, rfl⟩)
  · refine ⟨seen ++ [i], pending, hne, by rw [hm]; simp, ?_, by rw [hfail, hdec]; exact hf⟩
    rw [ho]
    exact hr.snoc hnot hinst (.inr (.inl ⟨ha, hs, rfl, rfl⟩))
  · refine ⟨seen ++ [i], pending ++ [i], hne, by rw [hm]; simp, ?_, fun hfail => ?_⟩
    · rw [ho]
      exact hr.snoc hnot hinst (.inr (.inr ⟨ha, rfl, rfl⟩))
    · obtain ⟨hfail, hdec⟩ := hdec hfail
      rw [hdec, hf hfail]

/-- A step that gives back a guard or takes one leaves the material alone. -/
theorem unlocked_update {i : Nat} {cell : KeyCell (UnlockedKeyMaterial P S R)}
    (h : cell.unlocked = (cells i).unlocked) (j : Nat) :
    (Function.update cells i cell j).unlocked = (cells j).unlocked := by
  by_cases hj : j = i
  · rw [hj, Function.update_self, h]
  · rw [Function.update_of_ne hj]

/-- A step that puts material into one lock adds that key. -/
theorem Adds.update {i : Nat} {cell : KeyCell (UnlockedKeyMaterial P S R)}
    (h : Adds cells (Function.update cells i cell) inst inst') (hn : (cells i).unlocked = none)
    (hs : cell.unlocked.isSome = true) (j : Nat) : inst' j ↔ inst j ∨ j = i := by
  rw [h j]
  refine or_congr_right ⟨fun ⟨hjn, hjs⟩ => ?_, fun he => ?_⟩
  · by_contra hne
    rw [Function.update_of_ne hne, hjn] at hjs
    cases hjs
  · rw [he, Function.update_self]
    exact ⟨hn, hs⟩

/-- The end of `unlock` without new material. -/
theorem RetOk.unlock {keyId passphrase : String} {result : Except UnlockError UnlockOutcome}
    (hresult : result ≠ .ok .unlocked) (hnone : ∀ i, ¬ inst i) (h : ActiveKey store keyId) :
    RetOk crates store cells inst (.unlock keyId passphrase) (.unlock result) := by
  rcases result with e | _ | _
  · exact hnone
  · exact absurd rfl hresult
  · obtain ⟨i, hp, ha⟩ := h
    exact ⟨i, hp, ha, fun j => ⟨fun hj => absurd hj (hnone j), fun hj => nomatch hj.1⟩⟩

/-- The end of the member loop. -/
theorem ScanOk.endScan {name : String} {vars : KeyringScan (UnlockedKeyMaterial P S R)}
    (h : ScanOk store cells inst name [] vars) (hnone : ∀ i, ¬ inst i) (passphrase : String) :
    CallOk crates store cells inst (KeyStore.endScan name passphrase vars) := by
  unfold KeyStore.endScan
  obtain ⟨seen, pending, hne, hm, hr, hf⟩ := h
  split
  · exact hnone
  · rename_i hfail
    rw [List.append_nil] at hm
    refine ⟨hnone, hne, ?_⟩
    rw [List.nil_append, hm, ← hf (by simpa using hfail)]
    exact hr

/-- **One step of a call** keeps what holds of it. -/
theorem CallOk.step (hw : store.WellFormed keyrings) (h : CallOk crates store cells inst pc)
    (hs : store.stepCall crates c cells pc = some (cells', pc'))
    (hinst : Adds cells cells' inst inst') : CallOk crates store cells' inst' pc' := by
  have hkeeps := stepCall_keeps hs
  cases keyStep_of_eq hs with
  | checkEnd keyId passphrase result hresult =>
    rw [hinst.eq fun _ => rfl]
    exact RetOk.unlock hresult h.1 h.2
  | check keyId passphrase =>
    rw [hinst.eq fun _ => rfl]
    exact h
  | decryptEnd keyId passphrase e =>
    rw [hinst.eq fun _ => rfl]
    exact h.1
  | decrypt keyId passphrase material =>
    rw [hinst.eq fun _ => rfl]
    exact h
  | installEnd keyId passphrase material result hresult =>
    rw [hinst.eq fun _ => rfl]
    exact RetOk.unlock hresult h.1 h.2
  | install keyId passphrase material i hp hn =>
    obtain ⟨hnone, i', hp', ha⟩ := h
    rw [hp] at hp'
    cases hp'
    have hadd := hinst.update hn rfl
    refine ⟨i, hp, ha, fun j => (hadd j).trans ⟨fun hj => ⟨rfl, ?_⟩, fun hj => .inr hj.2⟩⟩
    exact hj.resolve_left (hnone j)
  | endScan name passphrase vars =>
    rw [hinst.eq fun _ => rfl]
    exact ScanOk.endScan h.2 h.1 passphrase
  | skip name passphrase i rest vars ha =>
    obtain ⟨hnone, hscan⟩ := h
    rw [hinst.eq fun _ => rfl]
    exact ⟨hnone, hscan.snoc hw hnone rfl (.inl ⟨ha, rfl, rfl, rfl⟩)⟩
  | already name passphrase i rest vars ha hu =>
    obtain ⟨hnone, hscan⟩ := h
    rw [hinst.eq fun _ => rfl]
    exact ⟨hnone, hscan.snoc hw hnone rfl
      (.inr (.inl ⟨ha, isSome_of_isUnlocked hu, rfl, rfl, rfl⟩))⟩
  | find name passphrase i rest vars ha hl =>
    rw [hinst.eq fun _ => rfl]
    exact ⟨h.1, ha, h.2⟩
  | opens name passphrase i rest vars key material hkey hd =>
    obtain ⟨hnone, ha, hscan⟩ := h
    rw [hinst.eq fun _ => rfl]
    refine ⟨hnone, hscan.snoc hw hnone (by rw [idAt_eq hkey])
      (.inr (.inr ⟨ha, rfl, fun hf => ⟨hf, ?_⟩⟩))⟩
    rw [List.map_append]
    rfl
  | fails name passphrase i rest vars key e hkey hd =>
    obtain ⟨hnone, ha, hscan⟩ := h
    rw [hinst.eq fun _ => rfl]
    refine ⟨hnone, hscan.snoc hw hnone (by rw [idAt_eq hkey])
      (.inr (.inr ⟨ha, rfl, fun hf => ?_⟩))⟩
    simp at hf
  | locked name passphrase guards outcomes =>
    obtain ⟨hnone, hr⟩ := h
    rw [hinst.eq fun _ => rfl]
    rw [List.append_nil] at hr
    exact hr
  | poisoned name passphrase g todo guards outcomes =>
    rw [hinst.eq fun _ => rfl]
    exact h.1
  | lock name passphrase g todo guards outcomes hfree =>
    obtain ⟨hnone, hr⟩ := h
    rw [hinst.eq (unlocked_update rfl)]
    have he : guards ++ g :: todo = guards ++ [g] ++ todo := by simp
    rw [he] at hr
    exact ⟨hnone, hr.mono hkeeps⟩
  | abandoned name passphrase =>
    rw [hinst.eq fun _ => rfl]
    exact h
  | abandon name passphrase g guards =>
    rw [hinst.eq (unlocked_update rfl)]
    exact h
  | installed name passphrase outcomes =>
    rw [hinst.eq fun _ => rfl]
    exact h
  | keep name passphrase g guards outcomes hu =>
    rw [hinst.eq (unlocked_update rfl)]
    exact ⟨h.nonempty, (h.report.patch (memberIds_nodup hw name) hu).mono hkeeps.isSome⟩
  | put name passphrase g guards outcomes hn =>
    refine ⟨h.nonempty, h.report.install ?_ hkeeps.isSome (hinst.update hn rfl)⟩
    rw [Function.update_self]
    rfl
  | isUnlocked keyId i =>
    rw [hinst.eq fun _ => rfl]
    exact h
  | publicKeyPem keyId i hp =>
    rw [hinst.eq fun _ => rfl]
    cases hpem : (cells i).publicKeyPem crates with
    | none => exact h
    | some pem =>
      obtain ⟨material, hm, hpem'⟩ := publicKeyPem_eq_some hpem
      exact ⟨h, i, material, hp, hm, hpem'⟩
  | signDigest keyId rng digest i hp =>
    rw [hinst.eq fun _ => rfl]
    cases hsig : (cells i).signDigest crates rng digest with
    | error e => exact h
    | ok signature =>
      obtain ⟨material, hm, hsign⟩ := (signDigest_cases (cells i)).1 signature hsig
      exact ⟨h, i, material, hp, hm, hsign⟩
  | requestLocked keyId rng digest =>
    rw [hinst.eq fun _ => rfl]
    exact h
  | requestCheck keyId rng digest i hp hu =>
    rw [hinst.eq fun _ => rfl]
    exact ⟨h, i, hp, isSome_of_isUnlocked hu⟩
  | requestSign keyId rng digest i hp =>
    obtain ⟨hnone, i', hp', hu⟩ := h
    rw [hp] at hp'
    cases hp'
    rw [hinst.eq fun _ => rfl]
    cases hsig : (cells i).signDigest crates rng digest with
    | error e =>
      refine ⟨hnone, ?_⟩
      rintro rfl
      exact (signDigest_cases (cells i)).2 hu hsig
    | ok signature =>
      obtain ⟨material, hm, hsign⟩ := (signDigest_cases (cells i)).1 signature hsig
      exact ⟨hnone, i, material, hp, hm, hsign⟩

/-! ## What a call reports -/

/-- The call has returned that the key `keyId` is unlocked, and by whom. -/
def KeyPc.reports {M : Type} (keyId : String) (result : KeyringMemberResult) : KeyPc M → Prop
  | .done (.unlock id _) (.unlock (.ok outcome)) => id = keyId ∧ result = match outcome with
      | .unlocked => .unlocked
      | .alreadyUnlocked => .alreadyUnlocked
  | .done (.unlockKeyring _ _) (.unlockKeyring (.ok outcomes)) => ⟨keyId, result⟩ ∈ outcomes
  | _ => False

/-- The call is a successful one on the key `keyId` or on a keyring that has it. -/
def KeyPc.covers {M : Type} (keyrings : List KeyringConfig) (keyId : String) : KeyPc M → Prop
  | .done (.unlock id _) (.unlock (.ok _)) => id = keyId
  | .done (.unlockKeyring name _) (.unlockKeyring (.ok _)) =>
      ∃ ring ∈ keyrings, ring.id = name ∧ keyId ∈ ring.keys
  | _ => False

/-- Only active keys get material. -/
theorem CallOk.active (h : CallOk crates store cells inst pc) {i : Nat} (hi : inst i) :
    store.isActive i = true := by
  unfold CallOk at h
  split at h
  · exact absurd hi (h.1 i)
  · exact absurd hi (h.1 i)
  · exact absurd hi (h.1 i)
  · exact absurd hi (h.1 i)
  · exact absurd hi (h.1 i)
  · exact absurd hi (h.1 i)
  · exact (h.report.inst_mem i hi).2
  · exact absurd hi (h.1 i)
  · unfold RetOk at h
    split at h
    · obtain ⟨j, -, ha, hj⟩ := h
      obtain ⟨-, rfl⟩ := (hj i).mp hi
      exact ha
    · exact (h.report.inst_mem i hi).2
    · exact absurd hi (h.1 i)
    · exact absurd hi (h.1 i)
    · exact absurd hi (h.1 i)
    · exact absurd hi (h.1 i)
    · exact absurd hi (h i)
  · exact absurd hi (h i)

/-- The members of a keyring by their ids. -/
theorem KeyStore.WellFormed.mem_ring_iff (hw : store.WellFormed keyrings) {ring : KeyringConfig}
    (hr : ring ∈ keyrings) {keyId : String} {i : Nat} (hp : store.position keyId = some i) :
    keyId ∈ ring.keys ↔ i ∈ store.keyringMembers ring.id := by
  obtain ⟨-, -, hmap⟩ := hw.declared ring hr
  have hid : store.idAt i = keyId := by
    obtain ⟨key, hkey, rfl⟩ := (hw.position_iff keyId i).mp hp
    exact idAt_eq hkey
  constructor
  · intro hk
    have hm : store.position keyId ∈ ring.keys.map store.position := List.mem_map_of_mem hk
    rw [hmap, hp] at hm
    simpa using hm
  · intro hi
    rw [← hw.map_idAt hmap, ← hid]
    exact List.mem_map_of_mem hi

/-- A call that covers an active key reports the one thing that it did to it. -/
theorem CallOk.reports_iff (hw : store.WellFormed keyrings)
    (h : CallOk crates store cells inst pc) {keyId : String} (hc : pc.covers keyrings keyId)
    {i : Nat} (hp : store.position keyId = some i) (ha : store.isActive i = true)
    (result : KeyringMemberResult) : pc.reports keyId result ↔
      inst i ∧ result = .unlocked ∨ ¬ inst i ∧ result = .alreadyUnlocked := by
  unfold KeyPc.covers at hc
  split at hc
  · rename_i id passphrase outcome
    subst hc
    obtain ⟨j, hpj, -, hj⟩ : ∃ j, _ := h
    rw [hp] at hpj
    cases hpj
    unfold KeyPc.reports
    cases outcome <;> simp [hj]
  · rename_i name passphrase outcomes
    obtain ⟨ring, hring, rfl, hk⟩ := hc
    have hmem : i ∈ store.keyringMembers ring.id := (hw.mem_ring_iff hring hp).mp hk
    obtain ⟨-, hr⟩ : RingReport store cells inst ring.id [] outcomes := h
    obtain ⟨r, rfl, hshape⟩ := hr.shape
    obtain ⟨-, hyes, hno⟩ := (hshape i hmem).2.2 ha List.not_mem_nil
    have hid : store.idAt i = keyId := by
      obtain ⟨key, hkey, rfl⟩ := (hw.position_iff keyId i).mp hp
      exact idAt_eq hkey
    have hone : KeyPc.reports keyId result (.done (.unlockKeyring ring.id passphrase)
        (.unlockKeyring (.ok ((store.keyringMembers ring.id).map fun i => ⟨store.idAt i, r i⟩))) :
        KeyPc (UnlockedKeyMaterial P S R)) ↔ r i = result := by
      show (⟨keyId, result⟩ : KeyringMemberOutcome) ∈ _ ↔ _
      rw [List.mem_map]
      constructor
      · rintro ⟨j, hj, he⟩
        rw [KeyringMemberOutcome.mk.injEq] at he
        have hji : j = i := List.inj_on_of_nodup_map (memberIds_nodup hw ring.id) hj hmem
          (he.1.trans hid.symm)
        rw [← hji]
        exact he.2
      · rintro rfl
        exact ⟨i, hmem, by rw [hid]⟩
    rw [hone]
    by_cases hin : inst i
    · simp [hyes hin, hin, eq_comm]
    · simp [hno hin, hin, eq_comm]
  · exact hc.elim

/-- What a call reports it covers. -/
theorem CallOk.covers_of_reports (hw : store.WellFormed keyrings)
    (h : CallOk crates store cells inst pc) {keyId : String} {result : KeyringMemberResult}
    (hr : pc.reports keyId result) : pc.covers keyrings keyId := by
  unfold KeyPc.reports at hr
  split at hr
  · exact hr.1
  · rename_i name passphrase outcomes
    obtain ⟨hne, hrep⟩ : RingReport store cells inst name [] outcomes := h
    obtain ⟨r, rfl, -⟩ := hrep.shape
    obtain ⟨ring, hring, rfl⟩ := hw.known name hne
    obtain ⟨i, hi, he⟩ := List.mem_map.mp hr
    refine ⟨ring, hring, rfl, ?_⟩
    rw [← hw.map_idAt (hw.declared ring hring).2.2]
    rw [KeyringMemberOutcome.mk.injEq] at he
    rw [← he.1]
    exact List.mem_map_of_mem hi
  · exact hr.elim

end Calls

end MicrotunSigner
