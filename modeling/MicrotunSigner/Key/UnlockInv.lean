import MicrotunSigner.Key.Unlock

/-!
# What the calls on the key store keep

* How a call starts (`KeyEntry`) and what its steps are (`KeyStep`). Every invariant of a call goes
  through the cases of these two.
* What one step does to one lock (`stepCall_cell`): material is only ever added, and a write guard
  is taken while it is free and given back by its holder.
* `HeldOk`: the guards that a call holds are exactly those whose lock names it as the writer.
* `Report`: the outcome list of `unlock_keyring` while some members are still `pending`.
-/

namespace MicrotunSigner

open Lib

variable {P S R : Type}

/-- The keys whose write guards the call holds. -/
def KeyPc.held {M : Type} : KeyPc M → List Nat
  | .locking _ _ _ guards _ => guards.map Prod.fst
  | .abandoning _ _ guards => guards.map Prod.fst
  | .installing _ _ guards _ => guards.map Prod.fst
  | _ => []

/-- The next step of the call is one that may put material in the lock `i`. -/
def KeyStore.installs {M : Type} (store : KeyStore) (i : Nat) : KeyPc M → Prop
  | .unlockInstall keyId _ _ => store.position keyId = some i
  | .installing _ _ guards _ => i ∈ guards.map Prod.fst
  | _ => False

section Step

variable {crates : KeyCrates P S R} {store : KeyStore} {c : Nat} {cells cells' : KeyCells P S R}
  {pc pc' : KeyPc (UnlockedKeyMaterial P S R)}

theorem readable_eq_some {keyId : String} {i : Nat} :
    store.readable cells keyId = some i ↔
      store.position keyId = some i ∧ (cells i).writer = none := by
  unfold KeyStore.readable
  rw [Option.bind_eq_bind, Option.bind_eq_some_iff]
  constructor
  · rintro ⟨j, hj, h⟩
    split at h
    · rename_i hw
      cases h
      exact ⟨hj, Option.isNone_iff_eq_none.mp hw⟩
    · cases h
  · rintro ⟨hi, hw⟩
    exact ⟨i, hi, by rw [if_pos (by rw [hw]; rfl)]⟩

theorem idAt_eq {i : Nat} {key : KeyMaterial} (h : store.keys[i]? = some key) :
    store.idAt i = key.id := by
  unfold KeyStore.idAt
  rw [h]
  rfl

theorem isActive_iff {i : Nat} {key : KeyMaterial} (h : store.keys[i]? = some key) :
    store.isActive i = true ↔ key.state = .active := by
  unfold KeyStore.isActive
  rw [h, Option.any_some, beq_iff_eq]

theorem get_eq_some {keyId : String} {key : KeyMaterial} (h : store.get keyId = some key) :
    ∃ i, store.position keyId = some i ∧ store.keys[i]? = some key := by
  unfold KeyStore.get at h
  exact Option.bind_eq_some_iff.mp h

/-- How a call starts. -/
inductive KeyEntry {M : Type} (store : KeyStore) : KeyOp → KeyPc M → Prop where
  | inactive (keyId passphrase) :
      KeyEntry store (.unlock keyId passphrase)
        (.done (.unlock keyId passphrase) (.unlock (.error .inactive)))
  | unlock (keyId passphrase i) : store.position keyId = some i → store.isActive i = true →
      KeyEntry store (.unlock keyId passphrase) (.unlockCheck keyId passphrase)
  | unknownKeyring (name passphrase) :
      KeyEntry store (.unlockKeyring name passphrase)
        (.done (.unlockKeyring name passphrase) (.unlockKeyring (.error .unknownKeyring)))
  | noActiveKeys (name passphrase) :
      KeyEntry store (.unlockKeyring name passphrase)
        (.done (.unlockKeyring name passphrase) (.unlockKeyring (.error .noActiveKeys)))
  | ring (name passphrase) : store.keyringMembers name ≠ [] →
      KeyEntry store (.unlockKeyring name passphrase)
        (.scan name passphrase (store.keyringMembers name) {})
  | isUnlocked (keyId) : KeyEntry store (.isUnlocked keyId) (.isUnlocked keyId)
  | publicKeyPem (keyId) : KeyEntry store (.publicKeyPem keyId) (.publicKeyPem keyId)
  | signDigest (keyId rng digest) :
      KeyEntry store (.signDigest keyId rng digest) (.signDigest keyId rng digest)
  | signingRequest (keyId rng digest) :
      KeyEntry store (.signingRequest keyId rng digest) (.requestCheck keyId rng digest)

theorem keyEntry_of_eq {M : Type} {op : KeyOp} {pc : KeyPc M} (h : store.enter op = some pc) :
    KeyEntry store op pc := by
  cases op with
  | unlock keyId passphrase =>
    obtain ⟨key, hget, he⟩ := Option.bind_eq_some_iff.mp h
    obtain ⟨i, hp, hk⟩ := get_eq_some hget
    split at he
    · cases he
      exact .inactive _ _
    · rename_i hactive
      cases he
      exact .unlock _ _ i hp ((isActive_iff hk).mpr (Classical.not_not.mp hactive))
  | unlockKeyring name passphrase =>
    simp only [KeyStore.enter] at h
    split at h
    · cases h
      exact .unknownKeyring _ _
    rename_i hne
    split at h
    · cases h
      exact .noActiveKeys _ _
    · cases h
      exact .ring _ _ (by simpa using hne)
  | isUnlocked keyId =>
    obtain ⟨key, -, he⟩ := Option.bind_eq_some_iff.mp h
    cases he
    exact .isUnlocked _
  | publicKeyPem keyId =>
    obtain ⟨key, -, he⟩ := Option.bind_eq_some_iff.mp h
    cases he
    exact .publicKeyPem _
  | signDigest keyId rng digest =>
    obtain ⟨key, -, he⟩ := Option.bind_eq_some_iff.mp h
    cases he
    exact .signDigest _ _ _
  | signingRequest keyId rng digest =>
    obtain ⟨key, -, he⟩ := Option.bind_eq_some_iff.mp h
    cases he
    exact .signingRequest _ _ _

/-- A lock that counts as unlocked has material. -/
theorem isSome_of_isUnlocked {M : Type} {cell : KeyCell M} (h : cell.isUnlocked = true) :
    cell.unlocked.isSome = true := by
  unfold KeyCell.isUnlocked at h
  exact (Bool.and_eq_true_iff.mp h).2

theorem checkLocked_cases {M : Type} (cell : KeyCell M) :
    cell.checkLocked = .error .lockPoisoned ∨ cell.checkLocked = .ok (some .alreadyUnlocked) ∨
      cell.checkLocked = .ok none := by
  unfold KeyCell.checkLocked
  by_cases hp : cell.poisoned = true
  · rw [if_pos hp]
    exact .inl rfl
  · rw [if_neg hp]
    cases cell.unlocked with
    | none => exact .inr (.inr rfl)
    | some material => exact .inr (.inl rfl)

theorem install_cases {M : Type} (material : M) (cell : KeyCell M) :
    cell.install material = (.error .lockPoisoned, cell) ∨
    cell.install material = (.ok .alreadyUnlocked, cell) ∨
    (cell.unlocked = none ∧
      cell.install material = (.ok .unlocked, { cell with unlocked := some material })) := by
  unfold KeyCell.install
  by_cases hp : cell.poisoned = true
  · rw [if_pos hp]
    exact .inl rfl
  · rw [if_neg hp]
    by_cases hu : cell.unlocked.isSome = true
    · rw [if_pos hu]
      exact .inr (.inl rfl)
    · rw [if_neg hu]
      exact .inr (.inr ⟨by simpa using hu, rfl⟩)

/-- What a step of the call `c` does, place by place: the locks and where the call is then. -/
inductive KeyStep (crates : KeyCrates P S R) (store : KeyStore) (c : Nat) (cells : KeyCells P S R) :
    KeyPc (UnlockedKeyMaterial P S R) → KeyCells P S R → KeyPc (UnlockedKeyMaterial P S R) → Prop
    where
  | checkEnd (keyId passphrase result) : result ≠ .ok .unlocked →
      KeyStep crates store c cells (.unlockCheck keyId passphrase) cells
        (.done (.unlock keyId passphrase) (.unlock result))
  | check (keyId passphrase) :
      KeyStep crates store c cells (.unlockCheck keyId passphrase) cells
        (.unlockDecrypt keyId passphrase)
  | decryptEnd (keyId passphrase e) :
      KeyStep crates store c cells (.unlockDecrypt keyId passphrase) cells
        (.done (.unlock keyId passphrase) (.unlock (.error e)))
  | decrypt (keyId passphrase material) :
      KeyStep crates store c cells (.unlockDecrypt keyId passphrase) cells
        (.unlockInstall keyId passphrase material)
  | installEnd (keyId passphrase material result) : result ≠ .ok .unlocked →
      KeyStep crates store c cells (.unlockInstall keyId passphrase material) cells
        (.done (.unlock keyId passphrase) (.unlock result))
  | install (keyId passphrase material i) : store.position keyId = some i →
      (cells i).unlocked = none →
      KeyStep crates store c cells (.unlockInstall keyId passphrase material)
        (Function.update cells i { cells i with unlocked := some material })
        (.done (.unlock keyId passphrase) (.unlock (.ok .unlocked)))
  | endScan (name passphrase vars) :
      KeyStep crates store c cells (.scan name passphrase [] vars) cells
        (KeyStore.endScan name passphrase vars)
  | skip (name passphrase i rest vars) : store.isActive i = false →
      KeyStep crates store c cells (.scan name passphrase (i :: rest) vars) cells
        (.scan name passphrase rest
          { vars with outcomes := vars.outcomes ++ [⟨store.idAt i, .skippedInactive⟩] })
  | already (name passphrase i rest vars) : store.isActive i = true →
      (cells i).isUnlocked = true →
      KeyStep crates store c cells (.scan name passphrase (i :: rest) vars) cells
        (.scan name passphrase rest
          { vars with outcomes := vars.outcomes ++ [⟨store.idAt i, .alreadyUnlocked⟩] })
  | find (name passphrase i rest vars) : store.isActive i = true →
      (cells i).isUnlocked = false →
      KeyStep crates store c cells (.scan name passphrase (i :: rest) vars) cells
        (.scanDecrypt name passphrase i rest vars)
  | opens (name passphrase i rest vars key material) : store.keys[i]? = some key →
      key.decrypt crates passphrase = .ok material →
      KeyStep crates store c cells (.scanDecrypt name passphrase i rest vars) cells
        (.scan name passphrase rest { vars with
          outcomes := vars.outcomes ++ [⟨key.id, .unlocked⟩]
          opened := vars.opened ++ [key.id]
          decrypted := vars.decrypted ++ [(i, material)] })
  | fails (name passphrase i rest vars key e) : store.keys[i]? = some key →
      key.decrypt crates passphrase = .error e →
      KeyStep crates store c cells (.scanDecrypt name passphrase i rest vars) cells
        (.scan name passphrase rest { vars with
          outcomes := vars.outcomes ++ [⟨key.id, .unlocked⟩]
          failed := vars.failed ++ [key.id] })
  | locked (name passphrase guards outcomes) :
      KeyStep crates store c cells (.locking name passphrase [] guards outcomes) cells
        (.installing name passphrase guards outcomes)
  | poisoned (name passphrase g todo guards outcomes) :
      KeyStep crates store c cells (.locking name passphrase (g :: todo) guards outcomes) cells
        (.abandoning name passphrase guards)
  | lock (name passphrase g todo guards outcomes) : (cells g.1).writer = none →
      KeyStep crates store c cells (.locking name passphrase (g :: todo) guards outcomes)
        (Function.update cells g.1 { cells g.1 with writer := some c })
        (.locking name passphrase todo (guards ++ [g]) outcomes)
  | abandoned (name passphrase) :
      KeyStep crates store c cells (.abandoning name passphrase []) cells
        (.done (.unlockKeyring name passphrase) (.unlockKeyring (.error .lockPoisoned)))
  | abandon (name passphrase g guards) :
      KeyStep crates store c cells (.abandoning name passphrase (g :: guards))
        (Function.update cells g.1 { cells g.1 with writer := none })
        (.abandoning name passphrase guards)
  | installed (name passphrase outcomes) :
      KeyStep crates store c cells (.installing name passphrase [] outcomes) cells
        (.done (.unlockKeyring name passphrase) (.unlockKeyring (.ok outcomes)))
  | keep (name passphrase g guards outcomes) : (cells g.1).unlocked.isSome = true →
      KeyStep crates store c cells (.installing name passphrase (g :: guards) outcomes)
        (Function.update cells g.1 { cells g.1 with writer := none })
        (.installing name passphrase guards (patchOutcome (store.idAt g.1) outcomes))
  | put (name passphrase g guards outcomes) : (cells g.1).unlocked = none →
      KeyStep crates store c cells (.installing name passphrase (g :: guards) outcomes)
        (Function.update cells g.1 { cells g.1 with unlocked := some g.2, writer := none })
        (.installing name passphrase guards outcomes)
  | isUnlocked (keyId i) :
      KeyStep crates store c cells (.isUnlocked keyId) cells
        (.done (.isUnlocked keyId) (.isUnlocked (cells i).isUnlocked))
  | publicKeyPem (keyId i) : store.position keyId = some i →
      KeyStep crates store c cells (.publicKeyPem keyId) cells
        (.done (.publicKeyPem keyId) (.publicKeyPem ((cells i).publicKeyPem crates)))
  | signDigest (keyId rng digest i) : store.position keyId = some i →
      KeyStep crates store c cells (.signDigest keyId rng digest) cells
        (.done (.signDigest keyId rng digest) (.signDigest ((cells i).signDigest crates rng digest)))
  | requestLocked (keyId rng digest) :
      KeyStep crates store c cells (.requestCheck keyId rng digest) cells
        (.done (.signingRequest keyId rng digest) .keyLocked)
  | requestCheck (keyId rng digest i) : store.position keyId = some i →
      (cells i).isUnlocked = true →
      KeyStep crates store c cells (.requestCheck keyId rng digest) cells
        (.requestSign keyId rng digest)
  | requestSign (keyId rng digest i) : store.position keyId = some i →
      KeyStep crates store c cells (.requestSign keyId rng digest) cells
        (.done (.signingRequest keyId rng digest)
          (.signDigest ((cells i).signDigest crates rng digest)))

/-- A read lock changes no lock. -/
theorem readable_step {keyId : String} {f : Nat → KeyPc (UnlockedKeyMaterial P S R)}
    (h : (do
      let i ← store.readable cells keyId
      some (cells, f i)) = some (cells', pc')) :
    cells' = cells ∧ ∃ i, store.position keyId = some i ∧ pc' = f i := by
  obtain ⟨i, hi, he⟩ := Option.bind_eq_some_iff.mp h
  cases he
  exact ⟨rfl, i, (readable_eq_some.mp hi).1, rfl⟩

/-- The steps of `unlock`. -/
theorem keyStep_install {keyId passphrase : String} {material : UnlockedKeyMaterial P S R}
    (h : store.stepCall crates c cells (.unlockInstall keyId passphrase material) =
      some (cells', pc')) :
    KeyStep crates store c cells (.unlockInstall keyId passphrase material) cells' pc' := by
  obtain ⟨i, hi, he⟩ := Option.bind_eq_some_iff.mp h
  obtain ⟨hp, -⟩ := readable_eq_some.mp hi
  rcases install_cases material (cells i) with hr | hr | ⟨hn, hr⟩
  · rw [hr] at he
    dsimp only at he
    rw [Function.update_eq_self] at he
    cases he
    exact .installEnd _ _ _ _ (by simp)
  · rw [hr] at he
    dsimp only at he
    rw [Function.update_eq_self] at he
    cases he
    exact .installEnd _ _ _ _ (by simp)
  · rw [hr] at he
    cases he
    exact .install _ _ _ i hp hn

/-- The loop body of `unlock_keyring` up to the KDF. -/
theorem keyStep_scan {name passphrase : String} {i : Nat} {rest : List Nat}
    {vars : KeyringScan (UnlockedKeyMaterial P S R)}
    (h : store.stepCall crates c cells (.scan name passphrase (i :: rest) vars) =
      some (cells', pc')) :
    KeyStep crates store c cells (.scan name passphrase (i :: rest) vars) cells' pc' := by
  simp only [KeyStore.stepCall] at h
  by_cases ha : store.isActive i = true
  · rw [if_neg (by simp [ha])] at h
    split at h
    · cases h
    split at h
    · rename_i hu
      cases h
      exact .already _ _ _ _ _ ha hu
    · rename_i hu
      cases h
      exact .find _ _ _ _ _ ha (eq_false_of_ne_true hu)
  · rw [if_pos (by simpa using ha)] at h
    cases h
    exact .skip _ _ _ _ _ (eq_false_of_ne_true ha)

/-- **Every step is one of these.** -/
theorem keyStep_of_eq (h : store.stepCall crates c cells pc = some (cells', pc')) :
    KeyStep crates store c cells pc cells' pc' := by
  cases pc with
  | idle => cases h
  | done op ret => cases h
  | unlockCheck keyId passphrase =>
    obtain ⟨rfl, i, -, rfl⟩ := readable_step h
    rcases checkLocked_cases (cells' i) with he | he | he
    · rw [he]
      exact .checkEnd _ _ _ (by simp)
    · rw [he]
      exact .checkEnd _ _ _ (by simp)
    · rw [he]
      exact .check _ _
  | unlockDecrypt keyId passphrase =>
    obtain ⟨key, -, he⟩ := Option.bind_eq_some_iff.mp h
    cases he
    split
    · exact .decryptEnd _ _ _
    · exact .decrypt _ _ _
  | unlockInstall keyId passphrase material => exact keyStep_install h
  | scan name passphrase rest vars =>
    cases rest with
    | nil => cases h; exact .endScan _ _ _
    | cons i rest => exact keyStep_scan h
  | scanDecrypt name passphrase i rest vars =>
    obtain ⟨key, hkey, he⟩ := Option.bind_eq_some_iff.mp h
    cases he
    split
    · rename_i hd
      exact .opens _ _ _ _ _ key _ hkey hd
    · rename_i hd
      exact .fails _ _ _ _ _ key _ hkey hd
  | locking name passphrase todo guards outcomes =>
    cases todo with
    | nil => cases h; exact .locked _ _ _ _
    | cons g todo =>
      simp only [KeyStore.stepCall] at h
      split at h
      · cases h
      rename_i hw
      split at h
      · cases h
        exact .poisoned _ _ _ _ _ _
      · cases h
        exact .lock _ _ _ _ _ _ (by simpa using hw)
  | abandoning name passphrase guards =>
    cases guards with
    | nil => cases h; exact .abandoned _ _
    | cons g guards => cases h; exact .abandon _ _ _ _
  | installing name passphrase guards outcomes =>
    cases guards with
    | nil => cases h; exact .installed _ _ _
    | cons g guards =>
      simp only [KeyStore.stepCall] at h
      split at h
      · rename_i hu
        cases h
        exact .keep _ _ _ _ _ hu
      · rename_i hu
        cases h
        exact .put _ _ _ _ _ (by simpa using hu)
  | isUnlocked keyId =>
    obtain ⟨rfl, i, -, rfl⟩ := readable_step h
    exact .isUnlocked _ i
  | publicKeyPem keyId =>
    obtain ⟨rfl, i, hp, rfl⟩ := readable_step h
    exact .publicKeyPem _ i hp
  | signDigest keyId rng digest =>
    obtain ⟨rfl, i, hp, rfl⟩ := readable_step h
    exact .signDigest _ _ _ i hp
  | requestCheck keyId rng digest =>
    obtain ⟨rfl, i, hp, rfl⟩ := readable_step h
    split
    · rename_i hu
      exact .requestCheck _ _ _ i hp hu
    · exact .requestLocked _ _ _
  | requestSign keyId rng digest =>
    obtain ⟨rfl, i, hp, rfl⟩ := readable_step h
    exact .requestSign _ _ _ i hp

/-- What a step may do to one lock. -/
structure CellStep (installs : Prop) (held : Prop) (c : Nat)
    (cell cell' : KeyCell (UnlockedKeyMaterial P S R)) : Prop where
  unlocked : cell'.unlocked = cell.unlocked ∨ cell.unlocked = none ∧ installs
  writer : cell'.writer = cell.writer ∨ (cell.writer = none ∧ cell'.writer = some c) ∨
    held ∧ cell'.writer = none

theorem CellStep.same {p q : Prop} (cell : KeyCell (UnlockedKeyMaterial P S R)) :
    CellStep p q c cell cell := ⟨.inl rfl, .inl rfl⟩

/-- A step that changes one lock. -/
theorem cellStep_update {p q : Nat → Prop} {i : Nat} {cell : KeyCell (UnlockedKeyMaterial P S R)}
    (h : CellStep (p i) (q i) c (cells i) cell) (j : Nat) :
    CellStep (p j) (q j) c (cells j) (Function.update cells i cell j) := by
  by_cases hj : j = i
  · subst hj
    rw [Function.update_self]
    exact h
  · rw [Function.update_of_ne hj]
    exact CellStep.same _

/-- **What a step does to the locks.** -/
theorem stepCall_cell (h : store.stepCall crates c cells pc = some (cells', pc')) (j : Nat) :
    CellStep (store.installs j pc) (j ∈ pc.held) c (cells j) (cells' j) := by
  cases keyStep_of_eq h with
  | install keyId passphrase material i hp hn =>
    have hi : CellStep (store.position keyId = some i) (i ∈ []) c (cells i)
        { cells i with unlocked := some material } := ⟨.inr ⟨hn, hp⟩, .inl rfl⟩
    exact cellStep_update (p := fun j => store.position keyId = some j) (q := fun j => j ∈ []) hi j
  | lock name passphrase g todo guards outcomes hw =>
    have hg : CellStep False (g.1 ∈ guards.map Prod.fst) c (cells g.1)
        { cells g.1 with writer := some c } := ⟨.inl rfl, .inr (.inl ⟨hw, rfl⟩)⟩
    exact cellStep_update (p := fun _ => False) (q := fun j => j ∈ guards.map Prod.fst) hg j
  | abandon name passphrase g guards =>
    have hg : CellStep False (g.1 ∈ (g :: guards).map Prod.fst) c (cells g.1)
        { cells g.1 with writer := none } := ⟨.inl rfl, .inr (.inr ⟨List.mem_cons_self, rfl⟩)⟩
    exact cellStep_update (p := fun _ => False) (q := fun j => j ∈ (g :: guards).map Prod.fst) hg j
  | keep name passphrase g guards outcomes hu =>
    have hm : g.1 ∈ (g :: guards).map Prod.fst := List.mem_cons_self
    have hg : CellStep (g.1 ∈ (g :: guards).map Prod.fst) (g.1 ∈ (g :: guards).map Prod.fst) c
        (cells g.1) { cells g.1 with writer := none } := ⟨.inl rfl, .inr (.inr ⟨hm, rfl⟩)⟩
    exact cellStep_update (p := fun j => j ∈ (g :: guards).map Prod.fst)
      (q := fun j => j ∈ (g :: guards).map Prod.fst) hg j
  | put name passphrase g guards outcomes hn =>
    have hm : g.1 ∈ (g :: guards).map Prod.fst := List.mem_cons_self
    have hg : CellStep (g.1 ∈ (g :: guards).map Prod.fst) (g.1 ∈ (g :: guards).map Prod.fst) c
        (cells g.1) { cells g.1 with unlocked := some g.2, writer := none } :=
      ⟨.inr ⟨hn, hm⟩, .inr (.inr ⟨hm, rfl⟩)⟩
    exact cellStep_update (p := fun j => j ∈ (g :: guards).map Prod.fst)
      (q := fun j => j ∈ (g :: guards).map Prod.fst) hg j
  | _ => exact CellStep.same _

/-! ## The guards of a call -/

/-- The call holds exactly the guards of the locks that name it as the writer, each once. -/
structure HeldOk (c : Nat) (cells : KeyCells P S R) (pc : KeyPc (UnlockedKeyMaterial P S R)) :
    Prop where
  nodup : pc.held.Nodup
  iff : ∀ i, i ∈ pc.held ↔ (cells i).writer = some c

/-- Between places without guards, no lock changes its writer. -/
theorem HeldOk.quiet (h : HeldOk c cells pc) (hpc : pc.held = pc'.held)
    (hw : ∀ i, (cells' i).writer = (cells i).writer) : HeldOk c cells' pc' where
  nodup := hpc ▸ h.nodup
  iff := fun i => by rw [← hpc, hw, h.iff]

/-- Giving back the first guard. -/
theorem HeldOk.release {i : Nat} {rest : List Nat} (h : HeldOk c cells pc)
    (hpc : pc.held = i :: rest) (hpc' : pc'.held = rest)
    {cell : KeyCell (UnlockedKeyMaterial P S R)} (hcell : cell.writer = none) :
    HeldOk c (Function.update cells i cell) pc' where
  nodup := by
    have hd := h.nodup
    rw [hpc] at hd
    rw [hpc']
    exact (List.nodup_cons.mp hd).2
  iff := fun j => by
    have hd := h.nodup
    have hj := h.iff j
    rw [hpc] at hd hj
    rw [hpc']
    by_cases he : j = i
    · subst he
      rw [Function.update_self, hcell]
      simp [(List.nodup_cons.mp hd).1]
    · rw [Function.update_of_ne he, ← hj, List.mem_cons]
      simp [he]

/-- Taking one more guard. -/
theorem HeldOk.acquire {i : Nat} (h : HeldOk c cells pc) (hw : (cells i).writer = none)
    (hpc : pc'.held = pc.held ++ [i]) :
    HeldOk c (Function.update cells i { cells i with writer := some c }) pc' where
  nodup := by
    rw [hpc]
    refine List.Nodup.append h.nodup (List.nodup_singleton _) fun a ha hb => ?_
    have hheld := (h.iff a).mp ha
    rw [List.mem_singleton.mp hb, hw] at hheld
    cases hheld
  iff := fun j => by
    rw [hpc, List.mem_append, List.mem_singleton, h.iff j]
    by_cases he : j = i
    · rw [he, Function.update_self]
      simp
    · rw [Function.update_of_ne he]
      simp [he]

/-- A step of the call keeps its guards in order. -/
theorem HeldOk.step (h : HeldOk c cells pc)
    (hs : store.stepCall crates c cells pc = some (cells', pc')) : HeldOk c cells' pc' := by
  cases keyStep_of_eq hs with
  | install keyId passphrase material i hp hn =>
    refine h.quiet rfl fun j => ?_
    by_cases hj : j = i
    · rw [hj, Function.update_self]
    · rw [Function.update_of_ne hj]
  | endScan name passphrase vars =>
    exact h.quiet (by unfold KeyStore.endScan; split <;> rfl) fun _ => rfl
  | lock name passphrase g todo guards outcomes hw =>
    exact h.acquire hw (List.map_append)
  | abandon name passphrase g guards => exact h.release rfl rfl rfl
  | keep name passphrase g guards outcomes hu => exact h.release rfl rfl rfl
  | put name passphrase g guards outcomes hn => exact h.release rfl rfl rfl
  | _ => exact h.quiet rfl fun _ => rfl

/-- A step of another call takes no guard of this one and gives none back. -/
theorem HeldOk.other {c' : Nat} {pc₁ : KeyPc (UnlockedKeyMaterial P S R)}
    (h : HeldOk c' cells pc₁) (hc : HeldOk c cells pc)
    (hs : store.stepCall crates c cells pc = some (cells', pc')) (hne : c' ≠ c) :
    HeldOk c' cells' pc₁ where
  nodup := h.nodup
  iff := fun i => by
    rw [h.iff i]
    have hne' : some c ≠ some c' := fun he => hne (Option.some.inj he).symm
    rcases (stepCall_cell hs i).writer with he | ⟨hn, he⟩ | ⟨hm, he⟩
    · rw [he]
    · rw [hn, he]
      simp [hne.symm]
    · rw [(hc.iff i).mp hm, he]
      simp [hne.symm]

/-- A call that starts holds no guard. -/
theorem held_enter {op : KeyOp} {M : Type} {pc : KeyPc M} (h : store.enter op = some pc) :
    pc.held = [] := by
  cases keyEntry_of_eq h <;> rfl

end Step

/-! ## The report of a keyring call -/

section Report

variable {store : KeyStore} {cells cells' : KeyCells P S R} {inst inst' : Nat → Prop}
  {ps pending pending' : List Nat} {outcomes : List KeyringMemberOutcome} {i : Nat}

/-- The outcome list over the members `ps`, when those in `pending` still await their install and
the call has installed the material of `inst`. -/
structure Report (store : KeyStore) (cells : KeyCells P S R) (inst : Nat → Prop)
    (ps pending : List Nat) (outcomes : List KeyringMemberOutcome) : Prop where
  shape : ∃ r : Nat → KeyringMemberResult, outcomes = ps.map (fun i => ⟨store.idAt i, r i⟩) ∧
    ∀ i ∈ ps, (store.isActive i = false → r i = .skippedInactive) ∧
      (i ∈ pending → r i = .unlocked) ∧
      (store.isActive i = true → i ∉ pending → (cells i).unlocked.isSome = true ∧
        (inst i → r i = .unlocked) ∧ (¬ inst i → r i = .alreadyUnlocked))
  nodup : pending.Nodup
  pending_mem : ∀ i ∈ pending, i ∈ ps ∧ store.isActive i = true ∧ ¬ inst i
  inst_mem : ∀ i, inst i → i ∈ ps ∧ store.isActive i = true

theorem report_nil (hinst : ∀ i, ¬ inst i) : Report store cells inst [] [] [] where
  shape := ⟨fun _ => .unlocked, rfl, fun i hi => by cases hi⟩
  nodup := List.nodup_nil
  pending_mem := fun i hi => by cases hi
  inst_mem := fun i hi => absurd hi (hinst i)

theorem Report.mono (h : Report store cells inst ps pending outcomes)
    (hk : ∀ i, (cells i).unlocked.isSome = true → (cells' i).unlocked.isSome = true) :
    Report store cells' inst ps pending outcomes where
  shape := by
    obtain ⟨r, he, hr⟩ := h.shape
    refine ⟨r, he, fun i hi => ⟨(hr i hi).1, (hr i hi).2.1, fun ha hp => ?_⟩⟩
    obtain ⟨hsome, hrest⟩ := (hr i hi).2.2 ha hp
    exact ⟨hk i hsome, hrest⟩
  nodup := h.nodup
  pending_mem := h.pending_mem
  inst_mem := h.inst_mem

/-- The loop adds one member. -/
theorem Report.snoc (h : Report store cells inst ps pending outcomes) (hi : i ∉ ps)
    (hinst : ∀ i, ¬ inst i) {result : KeyringMemberResult}
    (hx : store.isActive i = false ∧ result = .skippedInactive ∧ pending' = pending ∨
      store.isActive i = true ∧ (cells i).unlocked.isSome = true ∧ result = .alreadyUnlocked ∧
        pending' = pending ∨
      store.isActive i = true ∧ result = .unlocked ∧ pending' = pending ++ [i]) :
    Report store cells inst (ps ++ [i]) pending' (outcomes ++ [⟨store.idAt i, result⟩]) := by
  have hip : i ∉ pending := fun hm => hi (h.pending_mem i hm).1
  have hsub : ∀ j ∈ pending', j ∈ pending ∨ j = i ∧ store.isActive i = true := by
    intro j hj
    rcases hx with ⟨-, -, rfl⟩ | ⟨-, -, -, rfl⟩ | ⟨ha, -, rfl⟩
    · exact .inl hj
    · exact .inl hj
    · rcases List.mem_append.mp hj with hj | hj
      · exact .inl hj
      · exact .inr ⟨List.mem_singleton.mp hj, ha⟩
  refine ⟨?_, ?_, fun j hj => ?_, fun j hj => absurd hj (hinst j)⟩
  · obtain ⟨r, rfl, hr⟩ := h.shape
    refine ⟨Function.update r i result, ?_, fun j hj => ?_⟩
    · rw [List.map_append, List.map_singleton, Function.update_self]
      congr 1
      refine List.map_congr_left fun j hj => ?_
      have hji : j ≠ i := fun e => hi (e ▸ hj)
      rw [Function.update_of_ne hji]
    · rcases List.mem_append.mp hj with hj | hj
      · have hji : j ≠ i := fun e => hi (e ▸ hj)
        rw [Function.update_of_ne hji]
        have hpend : j ∈ pending' ↔ j ∈ pending := by
          constructor
          · intro hm
            rcases hsub j hm with hm | ⟨he, -⟩
            · exact hm
            · exact absurd he hji
          · intro hm
            rcases hx with ⟨-, -, rfl⟩ | ⟨-, -, -, rfl⟩ | ⟨-, -, rfl⟩
            · exact hm
            · exact hm
            · exact List.mem_append_left _ hm
        rw [hpend]
        exact hr j hj
      · rw [List.mem_singleton] at hj
        subst hj
        rw [Function.update_self]
        rcases hx with ⟨ha, rfl, rfl⟩ | ⟨ha, hs, rfl, rfl⟩ | ⟨ha, rfl, rfl⟩
        · exact ⟨fun _ => rfl, fun hm => absurd hm hip, fun ha' => by rw [ha] at ha'; cases ha'⟩
        · exact ⟨fun ha' => (by rw [ha] at ha'; cases ha'), fun hm => absurd hm hip,
            fun _ _ => ⟨hs, fun hc => absurd hc (hinst j), fun _ => rfl⟩⟩
        · exact ⟨fun ha' => (by rw [ha] at ha'; cases ha'), fun _ => rfl,
            fun _ hn => absurd (List.mem_append_right _ (List.mem_singleton_self _)) hn⟩
  · rcases hx with ⟨-, -, rfl⟩ | ⟨-, -, -, rfl⟩ | ⟨-, -, rfl⟩
    · exact h.nodup
    · exact h.nodup
    · refine List.Nodup.append h.nodup (List.nodup_singleton _) fun a ha hb => ?_
      exact hip (List.mem_singleton.mp hb ▸ ha)
  · rcases hsub j hj with hj | ⟨rfl, ha⟩
    · obtain ⟨hm, ha, hn⟩ := h.pending_mem j hj
      exact ⟨List.mem_append_left _ hm, ha, hn⟩
    · exact ⟨List.mem_append_right _ (List.mem_singleton_self _), ha, hinst j⟩

/-- Among distinct ids, the patch changes the one member. -/
theorem patchOutcome_map {r : Nat → KeyringMemberResult} (hd : (ps.map store.idAt).Nodup)
    (hi : i ∈ ps) : patchOutcome (store.idAt i) (ps.map fun j => ⟨store.idAt j, r j⟩) =
      ps.map fun j => ⟨store.idAt j, Function.update r i .alreadyUnlocked j⟩ := by
  induction ps with
  | nil => cases hi
  | cons j ps ih =>
    rw [List.map_cons, List.nodup_cons] at hd
    rw [List.map_cons, List.map_cons]
    unfold patchOutcome
    by_cases he : j = i
    · subst he
      rw [if_pos rfl, Function.update_self]
      congr 1
      refine List.map_congr_left fun k hk => ?_
      have hkj : k ≠ j := fun e => hd.1 (List.mem_map.mpr ⟨k, hk, by rw [e]⟩)
      rw [Function.update_of_ne hkj]
    · have hips : i ∈ ps := (List.mem_cons.mp hi).resolve_left fun e => he e.symm
      have hne : store.idAt j ≠ store.idAt i := fun e =>
        hd.1 (List.mem_map.mpr ⟨i, hips, e.symm⟩)
      rw [if_neg hne, ih hd.2 hips, Function.update_of_ne he]

/-- A pending member that was unlocked in the meantime keeps its material. -/
theorem Report.patch (h : Report store cells inst ps (i :: pending) outcomes)
    (hd : (ps.map store.idAt).Nodup) (hs : (cells i).unlocked.isSome = true) :
    Report store cells inst ps pending (patchOutcome (store.idAt i) outcomes) := by
  obtain ⟨him, hia, hin⟩ := h.pending_mem i List.mem_cons_self
  have hnd := List.nodup_cons.mp h.nodup
  refine ⟨?_, hnd.2, fun j hj => h.pending_mem j (List.mem_cons_of_mem _ hj), h.inst_mem⟩
  obtain ⟨r, rfl, hr⟩ := h.shape
  refine ⟨Function.update r i .alreadyUnlocked, patchOutcome_map hd him, fun j hj => ?_⟩
  by_cases he : j = i
  · subst he
    rw [Function.update_self]
    exact ⟨fun ha => (by rw [hia] at ha; cases ha), fun hm => absurd hm hnd.1,
      fun _ _ => ⟨hs, fun hc => absurd hc hin, fun _ => rfl⟩⟩
  · rw [Function.update_of_ne he]
    refine ⟨(hr j hj).1, fun hm => (hr j hj).2.1 (List.mem_cons_of_mem _ hm), fun ha hm => ?_⟩
    exact (hr j hj).2.2 ha fun hc => hm ((List.mem_cons.mp hc).resolve_left he)

/-- A pending member gets its material. -/
theorem Report.install (h : Report store cells inst ps (i :: pending) outcomes)
    (hi : (cells' i).unlocked.isSome = true)
    (hk : ∀ j, (cells j).unlocked.isSome = true → (cells' j).unlocked.isSome = true)
    (hinst : ∀ j, inst' j ↔ inst j ∨ j = i) : Report store cells' inst' ps pending outcomes := by
  obtain ⟨him, hia, hin⟩ := h.pending_mem i List.mem_cons_self
  have hnd := List.nodup_cons.mp h.nodup
  refine ⟨?_, hnd.2, fun j hj => ?_, fun j hj => ?_⟩
  · obtain ⟨r, rfl, hr⟩ := h.shape
    refine ⟨r, rfl, fun j hj => ?_⟩
    by_cases he : j = i
    · subst he
      exact ⟨fun ha => (by rw [hia] at ha; cases ha), fun hm => absurd hm hnd.1,
        fun _ _ => ⟨hi, fun _ => (hr j hj).2.1 List.mem_cons_self,
          fun hn => absurd ((hinst j).mpr (.inr rfl)) hn⟩⟩
    · refine ⟨(hr j hj).1, fun hm => (hr j hj).2.1 (List.mem_cons_of_mem _ hm), fun ha hm => ?_⟩
      obtain ⟨hs, h1, h2⟩ := (hr j hj).2.2 ha fun hc => hm ((List.mem_cons.mp hc).resolve_left he)
      refine ⟨hk j hs, fun hc => h1 (((hinst j).mp hc).resolve_right he), fun hc => h2 fun hc' => ?_⟩
      exact hc ((hinst j).mpr (.inl hc'))
  · obtain ⟨hm, ha, hn⟩ := h.pending_mem j (List.mem_cons_of_mem _ hj)
    refine ⟨hm, ha, fun hc => ?_⟩
    rcases (hinst j).mp hc with hc | rfl
    · exact hn hc
    · exact hnd.1 hj
  · rcases (hinst j).mp hj with hj | rfl
    · exact h.inst_mem j hj
    · exact ⟨him, hia⟩

end Report

end MicrotunSigner
