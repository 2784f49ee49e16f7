import MicrotunSigner.Key.Atomic

/-!
# Where the material of a key comes from

A call decrypts PEMs first and installs what it got later, under other locks. `KeyStore.carried` is
what it has decrypted and may still install. Each such material, and with it each that is installed,
is what the passphrase of the call makes of the PEM of that key (`Opens`): a call never installs the
material of one key under another.

* `carried_step`, `unlocked_step`: where a step gets material from.
* `run_opens`: every material in the locks was installed by a call that opens its key.
-/

namespace MicrotunSigner

open Lib

variable {P S R : Type}

/-- The call is to unlock the key at the position, with the passphrase. -/
def KeyStore.asksFor (store : KeyStore) (i : Nat) (passphrase : String) : KeyOp → Prop
  | .unlock keyId p => store.position keyId = some i ∧ p = passphrase
  | .unlockKeyring name p => i ∈ store.keyringMembers name ∧ p = passphrase
  | _ => False

/-- The material is what the passphrase of the call makes of the key, which is active. -/
def Opens (crates : KeyCrates P S R) (store : KeyStore) (op : KeyOp) (i : Nat)
    (material : UnlockedKeyMaterial P S R) : Prop :=
  ∃ passphrase, store.asksFor i passphrase op ∧ store.isActive i = true ∧
    store.materialAt crates passphrase i = some material

/-- What the call has decrypted and not installed, with the position of its key. -/
def KeyStore.carried {M : Type} (store : KeyStore) : KeyPc M → List (Nat × M)
  | .unlockInstall keyId _ material => (store.position keyId).toList.map (·, material)
  | .scan _ _ _ vars => vars.decrypted
  | .scanDecrypt _ _ _ _ vars => vars.decrypted
  | .locking _ _ todo guards _ => guards ++ todo
  | .abandoning _ _ guards => guards
  | .installing _ _ guards _ => guards
  | _ => []

section Steps

variable {crates : KeyCrates P S R} {store : KeyStore} {keyrings : List KeyringConfig} {c : Nat}
  {cells cells' : KeyCells P S R} {inst : Nat → Prop} {pc pc' : KeyPc (UnlockedKeyMaterial P S R)}
  {g : Nat × UnlockedKeyMaterial P S R}

theorem materialAt_of_ok {i : Nat} {key : KeyMaterial} {passphrase : String}
    {material : UnlockedKeyMaterial P S R} (hk : store.keys[i]? = some key)
    (hd : key.decrypt crates passphrase = .ok material) :
    store.materialAt crates passphrase i = some material := by
  rw [KeyStore.materialAt, hk, Option.bind_some, hd]
  rfl

/-- The KDF of `unlock`. -/
theorem carried_decrypt {keyId passphrase : String}
    (hcall : CallOk crates store cells inst (.unlockDecrypt keyId passphrase))
    (h : store.stepCall crates c cells (.unlockDecrypt keyId passphrase) = some (cells', pc'))
    (hg : g ∈ store.carried pc') : Opens crates store (.unlock keyId passphrase) g.1 g.2 := by
  obtain ⟨-, i, hp, hactive⟩ := hcall
  obtain ⟨key, hget, he⟩ := Option.bind_eq_some_iff.mp h
  obtain ⟨i', hp', hk⟩ := get_eq_some hget
  rw [hp] at hp'
  cases hp'
  cases hd : key.decrypt crates passphrase with
  | error e =>
    rw [hd] at he
    cases he
    cases hg
  | ok material =>
    rw [hd] at he
    cases he
    rw [KeyStore.carried, hp] at hg
    cases List.mem_singleton.mp hg
    exact ⟨passphrase, ⟨hp, rfl⟩, hactive, materialAt_of_ok hk hd⟩

/-- **What a call carries** it carried before, or its KDF has just made it. -/
theorem carried_step (hcall : CallOk crates store cells inst pc)
    (h : store.stepCall crates c cells pc = some (cells', pc')) (hg : g ∈ store.carried pc') :
    g ∈ store.carried pc ∨ ∃ op, pc.op = some op ∧ Opens crates store op g.1 g.2 := by
  cases keyStep_of_eq h with
  | decrypt keyId passphrase material => exact .inr ⟨_, rfl, carried_decrypt hcall h hg⟩
  | opens name passphrase i rest vars key material hk hd =>
    obtain ⟨-, hactive, seen, -, -, hmembers, -⟩ := hcall
    rcases List.mem_append.mp hg with hg | hg
    · exact .inl hg
    · cases List.mem_singleton.mp hg
      refine .inr ⟨_, rfl, passphrase, ⟨?_, rfl⟩, hactive, materialAt_of_ok hk hd⟩
      rw [hmembers]
      exact List.mem_append_right _ List.mem_cons_self
  | endScan name passphrase vars =>
    unfold KeyStore.endScan at hg
    split at hg
    · cases hg
    · exact .inl hg
  | lock name passphrase g' todo guards outcomes =>
    rw [KeyStore.carried, List.append_assoc] at hg
    exact .inl hg
  | locked name passphrase guards outcomes => exact .inl (List.mem_append_left _ hg)
  | poisoned name passphrase g' todo guards outcomes => exact .inl (List.mem_append_left _ hg)
  | abandon | keep | put => exact .inl (List.mem_cons_of_mem _ hg)
  | skip | already | find | fails => exact .inl hg
  | _ => cases hg

/-- **What a step puts into a lock**, the call has carried. -/
theorem unlocked_step (h : store.stepCall crates c cells pc = some (cells', pc')) {i : Nat}
    {material : UnlockedKeyMaterial P S R} (hi : (cells' i).unlocked = some material) :
    (cells i).unlocked = some material ∨ (i, material) ∈ store.carried pc := by
  have hupdate {j : Nat} {cell : KeyCell (UnlockedKeyMaterial P S R)}
      (hu : (Function.update cells j cell i).unlocked = some material) :
      (cells i).unlocked = some material ∨ i = j ∧ cell.unlocked = some material := by
    rcases update_cases cells j cell i with ⟨hij, he⟩ | ⟨-, he⟩
    · rw [he] at hu
      exact .inr ⟨hij, hu⟩
    · rw [he] at hu
      exact .inl hu
  cases keyStep_of_eq h with
  | install keyId passphrase material' j hp hn =>
    refine (hupdate hi).imp_right ?_
    rintro ⟨rfl, he⟩
    cases he
    rw [KeyStore.carried, hp]
    exact List.mem_singleton_self _
  | put name passphrase g guards outcomes hn =>
    refine (hupdate hi).imp_right ?_
    rintro ⟨rfl, he⟩
    cases he
    exact List.mem_cons_self
  | lock | abandon | keep =>
    rcases hupdate hi with he | ⟨rfl, he⟩ <;> exact .inl he
  | _ => exact .inl hi

end Steps

section Runs

variable {crates : KeyCrates P S R} {store : KeyStore} {keyrings : List KeyringConfig}
  {s t u : KeySt P S R} {a : KeyAct} {as : List KeyAct} {c : Nat}

/-- What a call carries, its own passphrase has opened. -/
def CarriesOk (crates : KeyCrates P S R) (store : KeyStore)
    (pc : KeyPc (UnlockedKeyMaterial P S R)) : Prop :=
  ∀ g ∈ store.carried pc, ∃ op, pc.op = some op ∧ Opens crates store op g.1 g.2

theorem carriesOk_enter {op : KeyOp} {pc : KeyPc (UnlockedKeyMaterial P S R)}
    (h : store.enter op = some pc) : CarriesOk crates store pc := by
  intro g hg
  cases keyEntry_of_eq h <;> cases hg

/-- A call keeps its number and its operation. -/
theorem op_of_sys_step (h : (store.sys crates).step t a = some u) {op : KeyOp}
    (hop : (t.calls c).op = some op) : (u.calls c).op = some op := by
  rcases sys_step_cases h with ⟨d, _, pc, -, hidle, -, rfl⟩ | ⟨d, cells, pc, -, hs, rfl⟩ |
    ⟨_, -, -, rfl⟩
  · dsimp only
    rcases update_cases t.calls d pc c with ⟨rfl, he⟩ | ⟨-, he⟩
    · rw [hidle] at hop
      cases hop
    · rw [he]
      exact hop
  · dsimp only
    rcases update_cases t.calls d pc c with ⟨rfl, he⟩ | ⟨-, he⟩
    · rw [he, op_of_step hs]
      exact hop
    · rw [he]
      exact hop
  · exact hop

theorem run_carriesOk (hw : store.WellFormed keyrings)
    (hrun : (store.sys crates).run .fresh as = some t) (c : Nat) :
    CarriesOk crates store (t.calls c) := by
  refine Sys.run_induction (P := fun _ t => ∀ c, CarriesOk crates store (t.calls c)) ?_ ?_ as t hrun c
  · intro c g hg
    cases hg
  · intro as t a u ht ih hu c
    rcases sys_step_cases hu with
      ⟨d, op, pc, -, -, hpc, rfl⟩ | ⟨d, cells, pc, -, hs, rfl⟩ | ⟨_, -, -, rfl⟩
    · dsimp only
      rcases update_cases t.calls d pc c with ⟨rfl, he⟩ | ⟨-, he⟩
      · rw [he]
        exact carriesOk_enter hpc
      · rw [he]
        exact ih c
    · dsimp only
      rcases update_cases t.calls d pc c with ⟨rfl, he⟩ | ⟨-, he⟩
      · rw [he]
        intro g hg
        rw [op_of_step hs]
        rcases carried_step (run_callOk hw fresh_rested ht c) hs hg with hold | hnew
        · exact ih c g hold
        · exact hnew
      · rw [he]
        exact ih c
    · exact ih c

/-- **Every material was installed by a call that opens its key.** -/
theorem run_opens (hw : store.WellFormed keyrings)
    (hrun : (store.sys crates).run .fresh as = some t) {i : Nat}
    {material : UnlockedKeyMaterial P S R} (hi : (t.cells i).unlocked = some material) :
    ∃ c op, Installed crates store .fresh c as i ∧ (t.calls c).op = some op ∧
      Opens crates store op i material := by
  revert hi
  refine Sys.run_induction (P := fun as t => (t.cells i).unlocked = some material →
    ∃ c op, Installed crates store .fresh c as i ∧ (t.calls c).op = some op ∧
      Opens crates store op i material) ?_ ?_ as t hrun
  · intro hi
    cases hi
  · intro as t a u ht ih hu hi
    by_cases hold : (t.cells i).unlocked = some material
    · obtain ⟨c, op, hin, hop, hopens⟩ := ih hold
      exact ⟨c, op, hin.append _, op_of_sys_step hu hop, hopens⟩
    have hnone : (t.cells i).unlocked = none := by
      cases hm : (t.cells i).unlocked with
      | none => rfl
      | some m => exact absurd (hm.trans ((step_keeps hu i m hm).symm.trans hi)) hold
    rcases sys_step_cases hu with ⟨_, _, _, -, -, -, rfl⟩ | ⟨c, cells, pc, rfl, hs, rfl⟩ |
      ⟨j, -, -, rfl⟩
    · exact absurd hi hold
    · have hg := (unlocked_step hs hi).resolve_left hold
      obtain ⟨op, hop, hopens⟩ := run_carriesOk hw ht c _ hg
      refine ⟨c, op, (installed_snoc ht hu).mpr (.inr ⟨rfl, hnone, ?_⟩), op_of_sys_step hu hop, hopens⟩
      rw [hi]
      rfl
    · exact absurd ((unlocked_update (by rfl) i).symm.trans hi) hold

end Runs

end MicrotunSigner
