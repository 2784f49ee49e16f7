import MicrotunSigner.Key.Atomic

/-!
# Steps of the key store as steps of the atomic one

`PlaceOk` is what the place of a call says of the materials if nobody else has changed them since
the call began: the variables of the member loop are those of the members seen so far (`scanned`),
and a key whose material is about to be installed has none yet.

`placeOk_start` and `PlaceOk.step`: a step of such a call is nothing in the atomic store or the
whole call, as long as no lock is poisoned.
-/

namespace MicrotunSigner

open Lib

variable {P S R : Type}

/-- The keyring has an active member, so that its call is not over at once. -/
structure Scanning (store : KeyStore) (name : String) : Prop where
  nonempty : store.keyringMembers name ≠ []
  active : (store.keyringMembers name).all (fun i => !store.isActive i) = false

/-- What the place of a call says of the materials `m` and of the locks. -/
def PlaceOk (crates : KeyCrates P S R) (store : KeyStore) (m : Materials P S R)
    (cells : KeyCells P S R) : KeyPc (UnlockedKeyMaterial P S R) → Prop
  | .unlockCheck keyId _ => ActiveKey store keyId
  | .unlockDecrypt keyId _ => ∃ i, store.position keyId = some i ∧ store.isActive i = true ∧
      m i = none
  | .unlockInstall keyId passphrase material => ∃ i key, store.position keyId = some i ∧
      store.keys[i]? = some key ∧ key.state = .active ∧ m i = none ∧
      key.decrypt crates passphrase = .ok material
  | .scan name passphrase rest vars => Scanning store name ∧ ∃ seen,
      store.keyringMembers name = seen ++ rest ∧ vars = store.scanned crates m passphrase seen
  | .scanDecrypt name passphrase i rest vars => Scanning store name ∧ store.isActive i = true ∧
      m i = none ∧ ∃ seen, store.keyringMembers name = seen ++ i :: rest ∧
      vars = store.scanned crates m passphrase seen
  | .locking name passphrase todo guards outcomes => Scanning store name ∧
      (store.scanned crates m passphrase (store.keyringMembers name)).failed = [] ∧
      (store.scanned crates m passphrase (store.keyringMembers name)).decrypted = guards ++ todo ∧
      (store.scanned crates m passphrase (store.keyringMembers name)).outcomes = outcomes
  | .abandoning _ _ _ => False
  | .installing _ _ guards _ => ∀ g ∈ guards, (cells g.1).unlocked = none
  | .requestSign keyId _ _ => ∃ i, store.position keyId = some i ∧ (m i).isSome = true
  | _ => True

section Scan

variable {crates : KeyCrates P S R} {store : KeyStore} {m : Materials P S R} {passphrase : String}
  {seen : List Nat} {i : Nat}

/-! ## The member loop -/

theorem lockedIn_iff : store.lockedIn m i = true ↔ store.isActive i = true ∧ m i = none := by
  simp [KeyStore.lockedIn]

theorem scanned_pass (h : store.lockedIn m i = false) :
    store.scanned crates m passphrase (seen ++ [i]) =
      { store.scanned crates m passphrase seen with
        outcomes := (store.scanned crates m passphrase seen).outcomes ++ [store.outcomeIn m i] } := by
  simp [KeyStore.scanned, h]

theorem scanned_opens (h : store.lockedIn m i = true) {material : UnlockedKeyMaterial P S R}
    (hm : store.materialAt crates passphrase i = some material) :
    store.scanned crates m passphrase (seen ++ [i]) =
      { store.scanned crates m passphrase seen with
        outcomes := (store.scanned crates m passphrase seen).outcomes ++ [store.outcomeIn m i]
        opened := (store.scanned crates m passphrase seen).opened ++ [store.idAt i]
        decrypted := (store.scanned crates m passphrase seen).decrypted ++ [(i, material)] } := by
  simp [KeyStore.scanned, h, hm]

theorem scanned_fails (h : store.lockedIn m i = true)
    (hm : store.materialAt crates passphrase i = none) :
    store.scanned crates m passphrase (seen ++ [i]) =
      { store.scanned crates m passphrase seen with
        outcomes := (store.scanned crates m passphrase seen).outcomes ++ [store.outcomeIn m i]
        failed := (store.scanned crates m passphrase seen).failed ++ [store.idAt i] } := by
  simp [KeyStore.scanned, h, hm]

/-- Only locked members are decrypted. -/
theorem lockedIn_of_decrypted {g : Nat × UnlockedKeyMaterial P S R}
    (h : g ∈ (store.scanned crates m passphrase seen).decrypted) :
    store.lockedIn m g.1 = true := by
  obtain ⟨i, hi, hg⟩ := List.mem_filterMap.mp h
  obtain ⟨material, -, rfl⟩ := Option.map_eq_some_iff.mp hg
  exact (List.mem_filter.mp hi).2

theorem outcomeIn_locked (h : store.lockedIn m i = true) :
    store.outcomeIn m i = ⟨store.idAt i, .unlocked⟩ := by
  obtain ⟨ha, hm⟩ := lockedIn_iff.mp h
  simp [KeyStore.outcomeIn, ha, hm]

end Scan

section Steps

variable {crates : KeyCrates P S R} {store : KeyStore} {keyrings : List KeyringConfig} {c : Nat}
  {s : KeySt P S R} {cells cells' : KeyCells P S R} {m : Materials P S R}
  {pc pc' : KeyPc (UnlockedKeyMaterial P S R)}

/-! ## How a step changes the materials -/

/-- A step that changes no lock and commits nothing. -/
theorem materials_after (hpc : pc.committed = (s.calls c).committed) :
    (s.after c s.cells pc).materials = s.materials := by
  funext i
  unfold KeySt.materials
  rw [after_cells, after_calls]
  cases (s.cells i).writer with
  | none => rfl
  | some d =>
    dsimp only
    rcases update_cases s.calls c pc d with ⟨rfl, he⟩ | ⟨-, he⟩
    · rw [he, hpc]
    · rw [he]

/-- A step that changes the lock of the key `i` alone: the materials of the other keys stay, if
those that the call has committed do. -/
theorem materials_after_update {i : Nat} {cell : KeyCell (UnlockedKeyMaterial P S R)} {j : Nat}
    (hj : j ≠ i) (hpc : pc.committed.lookup j = (s.calls c).committed.lookup j) :
    (s.after c (Function.update s.cells i cell) pc).materials j = s.materials j := by
  unfold KeySt.materials
  rw [after_cells, after_calls, Function.update_of_ne hj]
  cases (s.cells j).writer with
  | none => rfl
  | some d =>
    dsimp only
    rcases update_cases s.calls c pc d with ⟨rfl, he⟩ | ⟨-, he⟩
    · rw [he, hpc]
    · rw [he]

/-- `install` puts the material in place. -/
theorem materials_install {i : Nat} {material : UnlockedKeyMaterial P S R}
    (hw : (s.cells i).writer = none) (hpc : pc.committed = (s.calls c).committed) :
    (s.after c (Function.update s.cells i { s.cells i with unlocked := some material })
      pc).materials = Function.update s.materials i (some material) := by
  funext j
  by_cases hj : j = i
  · subst hj
    rw [Function.update_self]
    rw [materials_of_free] <;> rw [after_cells, Function.update_self]
    exact hw
  · rw [Function.update_of_ne hj]
    exact materials_after_update hj (by rw [hpc])

/-- Taking a guard changes no material. -/
theorem materials_lock {i : Nat} (hw : (s.cells i).writer = none)
    (hpc : pc.committed = []) (hpc' : (s.calls c).committed = []) :
    (s.after c (Function.update s.cells i { s.cells i with writer := some c })
      pc).materials = s.materials := by
  funext j
  by_cases hj : j = i
  · subst hj
    rw [materials_of_free hw, materials_eq]
    · rw [after_cells, Function.update_self]
    · intro d hd
      rw [after_cells, Function.update_self] at hd
      cases hd
      rw [after_calls, Function.update_self, hpc]
  · exact materials_after_update hj (by rw [hpc, hpc'])

/-- With all its guards, the call commits their material. -/
theorem materials_commit {name passphrase : String}
    {guards : List (Nat × UnlockedKeyMaterial P S R)} {outcomes : List KeyringMemberOutcome}
    (hpc : s.calls c = .locking name passphrase [] guards outcomes)
    (hheld : HeldOk c s.cells (s.calls c)) :
    (s.after c s.cells (.installing name passphrase guards outcomes)).materials =
      fun i => (guards.lookup i).or (s.materials i) := by
  funext i
  -- Only the locks of the guards name the call as their writer.
  have hnone : (s.cells i).writer ≠ some c → guards.lookup i = none := fun hne => by
    refine List.lookup_eq_none_iff.mpr fun g hg => ?_
    have hmem : i ∉ guards.map Prod.fst := fun hm => hne ((hheld.iff i).mp (by rw [hpc]; exact hm))
    rw [bne_iff_ne]
    rintro rfl
    exact hmem (List.mem_map_of_mem hg)
  unfold KeySt.materials
  rw [after_cells, after_calls]
  cases hw : (s.cells i).writer with
  | none =>
    dsimp only
    rw [hnone (by simp [hw]), Option.none_or]
  | some d =>
    dsimp only
    rcases update_cases s.calls c (.installing name passphrase guards outcomes) d with
      ⟨rfl, he⟩ | ⟨hne, he⟩
    · rw [he, hpc]
      rfl
    · rw [he, hnone (by simp [hw, hne]), Option.none_or]

/-- Installing a committed material changes none. -/
theorem materials_put {name passphrase : String} {g : Nat × UnlockedKeyMaterial P S R}
    {guards : List (Nat × UnlockedKeyMaterial P S R)} {outcomes : List KeyringMemberOutcome}
    (hpc : s.calls c = .installing name passphrase (g :: guards) outcomes)
    (hheld : HeldOk c s.cells (s.calls c)) :
    (s.after c (Function.update s.cells g.1
      { s.cells g.1 with unlocked := some g.2, writer := none })
      (.installing name passphrase guards outcomes)).materials = s.materials := by
  funext j
  by_cases hj : j = g.1
  · subst hj
    have hw : (s.cells g.1).writer = some c :=
      (hheld.iff g.1).mp (by rw [hpc]; exact List.mem_cons_self)
    have hbefore : s.materials g.1 = some g.2 := by
      unfold KeySt.materials
      rw [hw]
      have hfirst : (g :: guards).lookup g.1 = some g.2 := List.lookup_cons_self
      simp only [hpc, KeyPc.committed, hfirst, Option.some_or]
    rw [hbefore, materials_of_free] <;> rw [after_cells, Function.update_self]
  · refine materials_after_update hj ?_
    rw [hpc]
    obtain ⟨i, material⟩ := g
    simp [KeyPc.committed, List.lookup_cons, beq_false_of_ne hj]

/-! ## One step -/

/-- What a step to the state `u`, in which the call `c` is at `pc`, owes: it is a step of the atomic
store or none, and the new place is right. -/
structure Atomically (crates : KeyCrates P S R) (store : KeyStore) (s : KeySt P S R) (c : Nat)
    (cells : KeyCells P S R) (pc : KeyPc (UnlockedKeyMaterial P S R)) : Prop where
  run : (store.atomicSys crates).run s.atomic ((s.calls c).moves c pc) =
    some (s.after c cells pc).atomic
  place : PlaceOk crates store (s.after c cells pc).materials cells pc

/-- A step that the atomic store does not see. -/
theorem Atomically.quiet (hm : (s.after c cells pc).materials = s.materials)
    (hret : pc.returned = (s.calls c).returned)
    (hplace : PlaceOk crates store s.materials cells pc) :
    Atomically crates store s c cells pc where
  run := by
    have hmoves : (s.calls c).moves c pc = [] := by
      unfold KeyPc.moves
      rw [hret]
      cases (s.calls c).returned <;> rfl
    have hcalls : (fun d => (Function.update s.calls c pc d).returned) =
        fun d => (s.calls d).returned := by
      funext d
      rcases update_cases s.calls c pc d with ⟨rfl, he⟩ | ⟨-, he⟩
      · rw [he, hret]
      · rw [he]
    rw [hmoves, Sys.run_nil]
    unfold KeySt.atomic
    rw [hm, after_calls, hcalls]
  place := by
    rw [hm]
    exact hplace

/-- A step in which the call returns, as far as the atomic store sees. -/
theorem Atomically.returns {op : KeyOp} {ret : KeyRet} (hnone : (s.calls c).returned = none)
    (hret : pc.returned = some (op, ret))
    (hcall : store.call crates op s.materials = some (ret, (s.after c cells pc).materials))
    (hplace : PlaceOk crates store (s.after c cells pc).materials cells pc) :
    Atomically crates store s c cells pc where
  run := by
    have hmoves : (s.calls c).moves c pc = [(c, op)] := by
      unfold KeyPc.moves
      rw [hnone, hret]
    have hcalls : Function.update (fun d => (s.calls d).returned) c (some (op, ret)) =
        fun d => (Function.update s.calls c pc d).returned := by
      funext d
      rcases update_cases s.calls c pc d with ⟨rfl, he⟩ | ⟨hne, he⟩
      · rw [he, hret, Function.update_self]
      · rw [he, Function.update_of_ne hne]
    rw [hmoves]
    simp only [Sys.run, KeyStore.atomicSys, KeySt.atomic, hnone, hcall, Option.map_some,
      Option.bind_some, hcalls, after_calls]
  place := hplace

/-- A call returns without changing a lock. -/
theorem Atomically.done {op : KeyOp} {ret : KeyRet} (hnone : (s.calls c).returned = none)
    (hcommitted : (s.calls c).committed = [])
    (hcall : store.call crates op s.materials = some (ret, s.materials)) :
    Atomically crates store s c s.cells (.done op ret) := by
  refine .returns hnone rfl ?_ trivial
  have hkept : (s.after c s.cells (.done op ret)).materials = s.materials :=
    materials_after hcommitted.symm
  rw [hkept]
  exact hcall

/-- A call goes on without changing a lock. -/
theorem Atomically.goes (hret : pc.returned = (s.calls c).returned)
    (hcommitted : pc.committed = (s.calls c).committed)
    (hplace : PlaceOk crates store s.materials s.cells pc) :
    Atomically crates store s c s.cells pc :=
  .quiet (materials_after hcommitted) hret hplace

/-- A call starts. -/
theorem placeOk_start {op : KeyOp} (hidle : s.calls c = .idle) (h : store.enter op = some pc) :
    Atomically crates store s c s.cells pc := by
  have hnone : (s.calls c).returned = none := by rw [hidle]; rfl
  have hcommitted : (s.calls c).committed = [] := by rw [hidle]; rfl
  cases op with
  | unlock keyId passphrase =>
    obtain ⟨key, hget, he⟩ := Option.bind_eq_some_iff.mp h
    obtain ⟨i, hp, hk⟩ := get_eq_some hget
    split at he
    · rename_i hinactive
      cases he
      refine .done hnone hcommitted ?_
      simp only [KeyStore.call, hp, hk, Option.bind_eq_bind, Option.bind_some]
      rw [if_pos hinactive]
    · rename_i hactive
      cases he
      exact .goes hnone.symm hcommitted.symm
        ⟨i, hp, (isActive_iff hk).mpr (Classical.not_not.mp hactive)⟩
  | unlockKeyring name passphrase =>
    simp only [KeyStore.enter] at h
    split at h
    · rename_i hempty
      cases h
      refine .done hnone hcommitted ?_
      simp only [KeyStore.call]
      rw [if_pos hempty]
    rename_i hne
    split at h
    · rename_i hall
      cases h
      refine .done hnone hcommitted ?_
      simp only [KeyStore.call]
      rw [if_neg hne, if_pos hall]
    · rename_i hsome
      cases h
      exact .goes hnone.symm hcommitted.symm
        ⟨⟨by simpa using hne, eq_false_of_ne_true hsome⟩, [], rfl, rfl⟩
  | isUnlocked keyId =>
    obtain ⟨key, -, he⟩ := Option.bind_eq_some_iff.mp h
    cases he
    exact .goes hnone.symm hcommitted.symm trivial
  | publicKeyPem keyId =>
    obtain ⟨key, -, he⟩ := Option.bind_eq_some_iff.mp h
    cases he
    exact .goes hnone.symm hcommitted.symm trivial
  | signDigest keyId rng digest =>
    obtain ⟨key, -, he⟩ := Option.bind_eq_some_iff.mp h
    cases he
    exact .goes hnone.symm hcommitted.symm trivial
  | signingRequest keyId rng digest =>
    obtain ⟨key, -, he⟩ := Option.bind_eq_some_iff.mp h
    cases he
    exact .goes hnone.symm hcommitted.symm trivial

/-- A read lock: the key, and its material. -/
theorem read_eq {keyId : String} {f : Nat → KeyPc (UnlockedKeyMaterial P S R)}
    (h : (do
      let i ← store.readable s.cells keyId
      some (s.cells, f i)) = some (cells', pc')) :
    cells' = s.cells ∧ ∃ i, store.position keyId = some i ∧ pc' = f i ∧
      s.materials i = (s.cells i).unlocked := by
  obtain ⟨i, hi, he⟩ := Option.bind_eq_some_iff.mp h
  obtain ⟨hp, hw⟩ := readable_eq_some.mp hi
  cases he
  exact ⟨rfl, i, hp, rfl, materials_of_free hw⟩

theorem isUnlocked_of_clean {M : Type} {cell : KeyCell M} (h : cell.poisoned = false) :
    cell.isUnlocked = cell.unlocked.isSome := by
  simp [KeyCell.isUnlocked, h]

theorem checkLocked_of_clean {M : Type} {cell : KeyCell M} (h : cell.poisoned = false) :
    cell.checkLocked = .ok (if cell.unlocked.isSome then some .alreadyUnlocked else none) := by
  simp [KeyCell.checkLocked, h]

/-- The check of `unlock`. -/
theorem placeOk_check {keyId passphrase : String} (hpc : s.calls c = .unlockCheck keyId passphrase)
    (hclean : ∀ i, (s.cells i).poisoned = false) (hkey : ActiveKey store keyId)
    (hw : store.WellFormed keyrings)
    (h : store.stepCall crates c s.cells (.unlockCheck keyId passphrase) = some (cells', pc')) :
    Atomically crates store s c cells' pc' := by
  obtain ⟨rfl, i, hp, rfl, hm⟩ := read_eq h
  have hnone : (s.calls c).returned = none := by rw [hpc]; rfl
  have hcommitted : (s.calls c).committed = [] := by rw [hpc]; rfl
  obtain ⟨i', hp', hactive⟩ := hkey
  rw [hp] at hp'
  cases hp'
  obtain ⟨key, hk, -⟩ := (hw.position_iff keyId i).mp hp
  rw [checkLocked_of_clean (hclean i)]
  cases hu : (s.cells i).unlocked with
  | none =>
    rw [hu] at hm
    exact .goes hnone.symm hcommitted.symm ⟨i, hp, hactive, hm⟩
  | some material =>
    rw [hu] at hm
    refine .done hnone hcommitted ?_
    simp only [KeyStore.call, hp, hk, Option.bind_eq_bind, Option.bind_some]
    rw [if_neg (by simp [(isActive_iff hk).mp hactive]), if_pos (by rw [hm]; rfl)]

/-- The KDF of `unlock`. -/
theorem placeOk_decrypt {keyId passphrase : String}
    (hpc : s.calls c = .unlockDecrypt keyId passphrase)
    (hplace : PlaceOk crates store s.materials s.cells (.unlockDecrypt keyId passphrase))
    (h : store.stepCall crates c s.cells (.unlockDecrypt keyId passphrase) = some (cells', pc')) :
    Atomically crates store s c cells' pc' := by
  have hnone : (s.calls c).returned = none := by rw [hpc]; rfl
  have hcommitted : (s.calls c).committed = [] := by rw [hpc]; rfl
  obtain ⟨i, hp, hactive, hm⟩ := hplace
  obtain ⟨key, hget, he⟩ := Option.bind_eq_some_iff.mp h
  obtain ⟨i', hp', hk⟩ := get_eq_some hget
  rw [hp] at hp'
  cases hp'
  have hstate := (isActive_iff hk).mp hactive
  cases hd : key.decrypt crates passphrase with
  | error e =>
    rw [hd] at he
    cases he
    refine .done hnone hcommitted ?_
    simp only [KeyStore.call, hp, hk, Option.bind_eq_bind, Option.bind_some]
    rw [if_neg (by simp [hstate]), if_neg (by simp [hm]), hd]
  | ok material =>
    rw [hd] at he
    cases he
    exact .goes hnone.symm hcommitted.symm ⟨i, key, hp, hk, hstate, hm, hd⟩

/-- `install`: nobody has been faster. -/
theorem placeOk_install {keyId passphrase : String} {material : UnlockedKeyMaterial P S R}
    (hpc : s.calls c = .unlockInstall keyId passphrase material)
    (hclean : ∀ i, (s.cells i).poisoned = false)
    (hplace : PlaceOk crates store s.materials s.cells (.unlockInstall keyId passphrase material))
    (h : store.stepCall crates c s.cells (.unlockInstall keyId passphrase material) =
      some (cells', pc')) : Atomically crates store s c cells' pc' := by
  obtain ⟨i, key, hp, hk, hstate, hm, hd⟩ := hplace
  obtain ⟨i', hi, he⟩ := Option.bind_eq_some_iff.mp h
  obtain ⟨hp', hw⟩ := readable_eq_some.mp hi
  rw [hp] at hp'
  cases hp'
  have hempty : (s.cells i).unlocked = none := (materials_of_free hw).symm.trans hm
  have hinstall : (s.cells i).install material =
      (.ok .unlocked, { s.cells i with unlocked := some material }) := by
    simp [KeyCell.install, hclean i, hempty]
  rw [hinstall] at he
  cases he
  refine .returns (by rw [hpc]; rfl) rfl ?_ trivial
  rw [materials_install hw (by rw [hpc]; rfl)]
  simp only [KeyStore.call, hp, hk, Option.bind_eq_bind, Option.bind_some]
  rw [if_neg (by simp [hstate]), if_neg (by simp [hm]), hd]

/-- The end of the member loop. -/
theorem placeOk_endScan {name passphrase : String} {vars : KeyringScan (UnlockedKeyMaterial P S R)}
    (hpc : s.calls c = .scan name passphrase [] vars)
    (hplace : PlaceOk crates store s.materials s.cells (.scan name passphrase [] vars)) :
    Atomically crates store s c s.cells (KeyStore.endScan name passphrase vars) := by
  have hnone : (s.calls c).returned = none := by rw [hpc]; rfl
  have hcommitted : (s.calls c).committed = [] := by rw [hpc]; rfl
  obtain ⟨hscan, seen, hmembers, hvars⟩ := hplace
  rw [List.append_nil] at hmembers
  subst hmembers
  unfold KeyStore.endScan
  by_cases hfail : vars.failed = []
  · rw [if_neg (by simp [hfail])]
    subst hvars
    exact .goes hnone.symm hcommitted.symm ⟨hscan, hfail, rfl, rfl⟩
  · have hfails : (!vars.failed.isEmpty) = true := by simpa using hfail
    rw [if_pos hfails]
    subst hvars
    refine .done hnone hcommitted ?_
    simp only [KeyStore.call]
    rw [if_neg (by simpa using hscan.nonempty), if_neg (by simp [hscan.active]), if_pos hfails]

/-- The member loop up to the KDF. -/
theorem placeOk_scan {name passphrase : String} {i : Nat} {rest : List Nat}
    {vars : KeyringScan (UnlockedKeyMaterial P S R)}
    (hpc : s.calls c = .scan name passphrase (i :: rest) vars)
    (hclean : ∀ i, (s.cells i).poisoned = false)
    (hplace : PlaceOk crates store s.materials s.cells (.scan name passphrase (i :: rest) vars))
    (h : store.stepCall crates c s.cells (.scan name passphrase (i :: rest) vars) =
      some (cells', pc')) : Atomically crates store s c cells' pc' := by
  have hnone : (s.calls c).returned = none := by rw [hpc]; rfl
  have hcommitted : (s.calls c).committed = [] := by rw [hpc]; rfl
  obtain ⟨hscan, seen, hmembers, rfl⟩ := hplace
  -- The place after a member whose key the call leaves alone.
  have hnext : store.lockedIn s.materials i = false → PlaceOk crates store s.materials s.cells
      (.scan name passphrase rest { store.scanned crates s.materials passphrase seen with
        outcomes := (store.scanned crates s.materials passphrase seen).outcomes ++
          [store.outcomeIn s.materials i] }) := fun hl =>
    ⟨hscan, seen ++ [i], by rw [hmembers, List.append_assoc, List.singleton_append],
      (scanned_pass hl).symm⟩
  simp only [KeyStore.stepCall] at h
  by_cases hactive : store.isActive i = true
  · rw [if_neg (by simp [hactive])] at h
    split at h
    · cases h
    rename_i hw
    have hm := materials_of_free (s := s) (i := i) (by simpa using hw)
    rw [isUnlocked_of_clean (hclean i), ← hm] at h
    split at h
    · rename_i hu
      cases h
      have hout : store.outcomeIn s.materials i = ⟨store.idAt i, .alreadyUnlocked⟩ := by
        simp [KeyStore.outcomeIn, hactive, hu]
      rw [← hout]
      refine .goes hnone.symm hcommitted.symm (hnext ?_)
      rw [KeyStore.lockedIn, Option.isNone_eq_false_iff.mpr hu, Bool.and_false]
    · rename_i hu
      cases h
      exact .goes hnone.symm hcommitted.symm ⟨hscan, hactive, by simpa using hu, seen, hmembers, rfl⟩
  · rw [if_pos (by simpa using hactive)] at h
    cases h
    have hout : store.outcomeIn s.materials i = ⟨store.idAt i, .skippedInactive⟩ := by
      simp [KeyStore.outcomeIn, hactive]
    rw [← hout]
    refine .goes hnone.symm hcommitted.symm (hnext ?_)
    rw [KeyStore.lockedIn, eq_false_of_ne_true hactive, Bool.false_and]

/-- The KDF of a member. -/
theorem placeOk_scanDecrypt {name passphrase : String} {i : Nat} {rest : List Nat}
    {vars : KeyringScan (UnlockedKeyMaterial P S R)}
    (hpc : s.calls c = .scanDecrypt name passphrase i rest vars)
    (hplace : PlaceOk crates store s.materials s.cells (.scanDecrypt name passphrase i rest vars))
    (h : store.stepCall crates c s.cells (.scanDecrypt name passphrase i rest vars) =
      some (cells', pc')) : Atomically crates store s c cells' pc' := by
  have hnone : (s.calls c).returned = none := by rw [hpc]; rfl
  have hcommitted : (s.calls c).committed = [] := by rw [hpc]; rfl
  obtain ⟨hscan, hactive, hm, seen, hmembers, rfl⟩ := hplace
  have hl : store.lockedIn s.materials i = true := lockedIn_iff.mpr ⟨hactive, hm⟩
  have hmembers' : store.keyringMembers name = (seen ++ [i]) ++ rest := by
    rw [hmembers, List.append_assoc, List.singleton_append]
  obtain ⟨key, hk, he⟩ := Option.bind_eq_some_iff.mp h
  have hmat : store.materialAt crates passphrase i = (key.decrypt crates passphrase).toOption := by
    rw [KeyStore.materialAt, hk]
    rfl
  cases hd : key.decrypt crates passphrase with
  | ok material =>
    rw [hd] at he hmat
    cases he
    refine .goes hnone.symm hcommitted.symm ⟨hscan, seen ++ [i], hmembers', ?_⟩
    rw [scanned_opens hl hmat, outcomeIn_locked hl, idAt_eq hk]
  | error e =>
    rw [hd] at he hmat
    cases he
    refine .goes hnone.symm hcommitted.symm ⟨hscan, seen ++ [i], hmembers', ?_⟩
    rw [scanned_fails hl hmat, outcomeIn_locked hl, idAt_eq hk]

/-- Taking the write locks, and having them all. -/
theorem placeOk_locking {name passphrase : String}
    {todo guards : List (Nat × UnlockedKeyMaterial P S R)} {outcomes : List KeyringMemberOutcome}
    (hpc : s.calls c = .locking name passphrase todo guards outcomes)
    (hheld : HeldOk c s.cells (s.calls c)) (hclean : ∀ i, (s.cells i).poisoned = false)
    (hplace : PlaceOk crates store s.materials s.cells
      (.locking name passphrase todo guards outcomes))
    (h : store.stepCall crates c s.cells (.locking name passphrase todo guards outcomes) =
      some (cells', pc')) : Atomically crates store s c cells' pc' := by
  have hnone : (s.calls c).returned = none := by rw [hpc]; rfl
  have hcommitted : (s.calls c).committed = [] := by rw [hpc]; rfl
  obtain ⟨hscan, hfail, hdec, hout⟩ := hplace
  cases todo with
  | nil =>
    cases h
    rw [List.append_nil] at hdec
    refine .returns hnone rfl ?_ fun g hg => ?_
    · rw [materials_commit hpc hheld]
      simp only [KeyStore.call]
      rw [if_neg (by simpa using hscan.nonempty), if_neg (by simp [hscan.active]),
        if_neg (by simp [hfail]), hdec, hout]
    · -- A decrypted member was locked, and its guard is held since.
      rw [← hdec] at hg
      obtain ⟨-, hm⟩ := lockedIn_iff.mp (lockedIn_of_decrypted hg)
      rw [materials_eq fun d hd => ?_] at hm
      · exact hm
      · have hheldBy : (s.cells g.1).writer = some c := by
          refine (hheld.iff g.1).mp ?_
          rw [hpc]
          rw [hdec] at hg
          exact List.mem_map_of_mem hg
        rw [hheldBy] at hd
        cases hd
        exact hcommitted
  | cons g todo =>
    simp only [KeyStore.stepCall] at h
    split at h
    · cases h
    rename_i hw
    rw [if_neg (by simp [hclean g.1])] at h
    cases h
    refine .quiet (materials_lock (by simpa using hw) rfl hcommitted) hnone.symm
      ⟨hscan, hfail, ?_, hout⟩
    rw [hdec, List.append_assoc, List.singleton_append]

/-- Installing under the guards, and giving them back. -/
theorem placeOk_installing {name passphrase : String}
    {guards : List (Nat × UnlockedKeyMaterial P S R)} {outcomes : List KeyringMemberOutcome}
    (hpc : s.calls c = .installing name passphrase guards outcomes)
    (hheld : HeldOk c s.cells (s.calls c))
    (hplace : PlaceOk crates store s.materials s.cells (.installing name passphrase guards outcomes))
    (h : store.stepCall crates c s.cells (.installing name passphrase guards outcomes) =
      some (cells', pc')) : Atomically crates store s c cells' pc' := by
  cases guards with
  | nil =>
    cases h
    exact .goes (by rw [hpc]; rfl) (by rw [hpc]; rfl) trivial
  | cons g guards =>
    have hempty : (s.cells g.1).unlocked = none := hplace g List.mem_cons_self
    simp only [KeyStore.stepCall] at h
    rw [if_neg (by simp [hempty])] at h
    cases h
    refine .quiet (materials_put hpc hheld) (by rw [hpc]; rfl) fun g' hg' => ?_
    have hnodup := hheld.nodup
    rw [hpc] at hnodup
    have hne : g'.1 ≠ g.1 := fun he =>
      (List.nodup_cons.mp hnodup).1 (he ▸ List.mem_map_of_mem hg')
    rw [Function.update_of_ne hne]
    exact hplace g' (List.mem_cons_of_mem g hg')

/-- A read of the public API. -/
theorem placeOk_read {keyId : String} {op : KeyOp} {f : Nat → KeyRet}
    (hnone : (s.calls c).returned = none) (hcommitted : (s.calls c).committed = [])
    (hcall : ∀ i, store.position keyId = some i → s.materials i = (s.cells i).unlocked →
      store.call crates op s.materials = some (f i, s.materials))
    (h : (do
      let i ← store.readable s.cells keyId
      some (s.cells, KeyPc.done op (f i))) = some (cells', pc')) :
    Atomically crates store s c cells' pc' := by
  obtain ⟨rfl, i, hp, rfl, hm⟩ := read_eq (f := fun i => KeyPc.done op (f i)) h
  exact .done hnone hcommitted (hcall i hp hm)

/-- **A step of a call whose place is right** is nothing in the atomic store or the whole call. -/
theorem PlaceOk.step (hw : store.WellFormed keyrings) (hheld : HeldOk c s.cells (s.calls c))
    (hclean : ∀ i, (s.cells i).poisoned = false)
    (hplace : PlaceOk crates store s.materials s.cells (s.calls c))
    (h : store.stepCall crates c s.cells (s.calls c) = some (cells', pc')) :
    Atomically crates store s c cells' pc' := by
  cases hpc : s.calls c with
  | idle | done =>
    rw [hpc] at h
    cases h
  | unlockCheck keyId passphrase =>
    rw [hpc] at h hplace
    exact placeOk_check hpc hclean hplace hw h
  | unlockDecrypt keyId passphrase =>
    rw [hpc] at h hplace
    exact placeOk_decrypt hpc hplace h
  | unlockInstall keyId passphrase material =>
    rw [hpc] at h hplace
    exact placeOk_install hpc hclean hplace h
  | scan name passphrase rest vars =>
    rw [hpc] at h hplace
    cases rest with
    | nil =>
      cases h
      exact placeOk_endScan hpc hplace
    | cons i rest => exact placeOk_scan hpc hclean hplace h
  | scanDecrypt name passphrase i rest vars =>
    rw [hpc] at h hplace
    exact placeOk_scanDecrypt hpc hplace h
  | locking name passphrase todo guards outcomes =>
    rw [hpc] at h hplace
    exact placeOk_locking hpc hheld hclean hplace h
  | abandoning name passphrase guards =>
    rw [hpc] at hplace
    exact hplace.elim
  | installing name passphrase guards outcomes =>
    rw [hpc] at h hplace
    exact placeOk_installing hpc hheld hplace h
  | isUnlocked keyId =>
    rw [hpc] at h
    refine placeOk_read (by rw [hpc]; rfl) (by rw [hpc]; rfl) (fun i hp hm => ?_) h
    simp [KeyStore.call, hp, hm, isUnlocked_of_clean (hclean i)]
  | publicKeyPem keyId =>
    rw [hpc] at h
    refine placeOk_read (by rw [hpc]; rfl) (by rw [hpc]; rfl) (fun i hp hm => ?_) h
    simp [KeyStore.call, hp, hm, KeyCell.publicKeyPem, hclean i]
  | signDigest keyId rng digest =>
    rw [hpc] at h
    refine placeOk_read (by rw [hpc]; rfl) (by rw [hpc]; rfl) (fun i hp hm => ?_) h
    cases hu : (s.cells i).unlocked with
    | none => simp [KeyStore.call, hp, hm, hu, KeyCell.signDigest, hclean i]
    | some key => simp [KeyStore.call, hp, hm, hu, KeyCell.signDigest, hclean i]
  | requestCheck keyId rng digest =>
    rw [hpc] at h
    obtain ⟨rfl, i, hp, rfl, hm⟩ := read_eq h
    rw [isUnlocked_of_clean (hclean i), ← hm]
    split
    · rename_i hu
      exact .goes (by rw [hpc]; rfl) (by rw [hpc]; rfl) ⟨i, hp, hu⟩
    · rename_i hu
      refine .done (by rw [hpc]; rfl) (by rw [hpc]; rfl) ?_
      have hlocked : s.materials i = none := by simpa using hu
      simp [KeyStore.call, hp, hlocked]
  | requestSign keyId rng digest =>
    rw [hpc] at h hplace
    refine placeOk_read (by rw [hpc]; rfl) (by rw [hpc]; rfl) (fun i hp hm => ?_) h
    obtain ⟨i', hp', hu⟩ := hplace
    rw [hp] at hp'
    cases hp'
    obtain ⟨material, hmat⟩ := Option.isSome_iff_exists.mp hu
    rw [hmat] at hm
    simp [KeyStore.call, hp, hmat, KeyCell.signDigest, hclean i, ← hm]

end Steps

end MicrotunSigner
