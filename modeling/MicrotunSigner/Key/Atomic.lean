import MicrotunSigner.Key.UnlockFailures
import MicrotunSigner.Lib.Refine

/-!
# The key store as an atomic object

What the calls on the key store mean when each of them happens at once: `KeyStore.call` answers a
call from the material that each key has, and says which material they have then. In
`KeyStore.atomicSys` a call is one step.

A state of the store stands for an atomic one (`KeySt.atomic`): a keyring call that has all its
write guards has returned already, and each key whose guard it still holds has its new material,
since nobody can look at that key before the guard is given back.

A call whose place agrees with the materials (`PlaceOk`) takes a step which is none of the atomic
store or the whole call (`PlaceOk.step`), as long as no lock is poisoned and nobody else gives a key
its material. `KeyStore.sys` does not promise the latter; the API does.
-/

namespace MicrotunSigner

open Lib

variable {P S R : Type}

/-- The material of each key. -/
abbrev Materials (P S R : Type) := Nat → Option (UnlockedKeyMaterial P S R)

/-- Whether the call is one of the public API, which unlocks no key. -/
def KeyOp.isPublic : KeyOp → Bool
  | .unlock _ _ => false
  | .unlockKeyring _ _ => false
  | _ => true

namespace KeyStore

variable (crates : KeyCrates P S R) (store : KeyStore)

/-- The member is active and has no material. -/
def lockedIn (m : Materials P S R) (i : Nat) : Bool := store.isActive i && (m i).isNone

/-- What the passphrase makes of the key at a position. -/
def materialAt (passphrase : String) (i : Nat) : Option (UnlockedKeyMaterial P S R) :=
  (store.keys[i]?).bind fun key => (key.decrypt crates passphrase).toOption

/-- What is reported of the member if the call succeeds. -/
def outcomeIn (m : Materials P S R) (i : Nat) : KeyringMemberOutcome :=
  ⟨store.idAt i, if !store.isActive i then .skippedInactive
    else if (m i).isSome then .alreadyUnlocked else .unlocked⟩

/-- The variables of the member loop of `unlock_keyring` after the members `seen`. -/
def scanned (m : Materials P S R) (passphrase : String) (seen : List Nat) :
    KeyringScan (UnlockedKeyMaterial P S R) where
  outcomes := seen.map (store.outcomeIn m)
  decrypted := (seen.filter (store.lockedIn m)).filterMap fun i =>
    (store.materialAt crates passphrase i).map (i, ·)
  opened := ((seen.filter (store.lockedIn m)).filter fun i =>
    (store.materialAt crates passphrase i).isSome).map store.idAt
  failed := ((seen.filter (store.lockedIn m)).filter fun i =>
    (store.materialAt crates passphrase i).isNone).map store.idAt

/-- A call at once: its answer, and the material of each key then. `none`: the key is unknown. -/
def call : KeyOp → Materials P S R → Option (KeyRet × Materials P S R)
  | .unlock keyId passphrase, m => do
    let i ← store.position keyId
    let key ← store.keys[i]?
    some (if key.state ≠ .active then (.unlock (.error .inactive), m)
      else if (m i).isSome then (.unlock (.ok .alreadyUnlocked), m)
      else match key.decrypt crates passphrase with
        | .error e => (.unlock (.error e), m)
        | .ok material => (.unlock (.ok .unlocked), Function.update m i (some material)))
  | .unlockKeyring name passphrase, m =>
    let members := store.keyringMembers name
    let vars := store.scanned crates m passphrase members
    some (if members.isEmpty then (.unlockKeyring (.error .unknownKeyring), m)
      else if members.all fun i => !store.isActive i then
        (.unlockKeyring (.error .noActiveKeys), m)
      else if !vars.failed.isEmpty then
        (.unlockKeyring (.error (if vars.opened.isEmpty then .invalidPassphrase
          else .passphraseMismatch vars.opened vars.failed)), m)
      else (.unlockKeyring (.ok vars.outcomes), fun i => (vars.decrypted.lookup i).or (m i)))
  | .isUnlocked keyId, m => do
    let i ← store.position keyId
    some (.isUnlocked (m i).isSome, m)
  | .publicKeyPem keyId, m => do
    let i ← store.position keyId
    some (.publicKeyPem ((m i).bind fun key => key.publicKeyPem crates), m)
  | .signDigest keyId rng digest, m => do
    let i ← store.position keyId
    some (.signDigest (match m i with
      | none => .error .locked
      | some key => key.sign crates rng digest), m)
  | .signingRequest keyId rng digest, m => do
    let i ← store.position keyId
    some (match m i with
      | none => .keyLocked
      | some key => .signDigest (key.sign crates rng digest), m)

end KeyStore

/-- The materials, and which call has returned what. -/
structure AtomicSt (P S R : Type) where
  materials : Materials P S R
  returned : Nat → Option (KeyOp × KeyRet)

/-- Calls that happen at once: in a step, the call of that number, which has not been made yet. -/
def KeyStore.atomicSys (crates : KeyCrates P S R) (store : KeyStore) :
    Sys (AtomicSt P S R) (Nat × KeyOp) where
  init s := ∀ c, s.returned c = none
  step s
    | (c, op) => match s.returned c with
      | none => (store.call crates op s.materials).map fun (ret, materials) =>
          ⟨materials, Function.update s.returned c (some (op, ret))⟩
      | some _ => none

/-! ## The atomic state that a state stands for -/

namespace KeyPc

variable {M : Type}

/-- The call at this place; `none` before it starts. -/
def op : KeyPc M → Option KeyOp
  | .idle => none
  | .unlockCheck keyId passphrase => some (.unlock keyId passphrase)
  | .unlockDecrypt keyId passphrase => some (.unlock keyId passphrase)
  | .unlockInstall keyId passphrase _ => some (.unlock keyId passphrase)
  | .scan name passphrase _ _ => some (.unlockKeyring name passphrase)
  | .scanDecrypt name passphrase _ _ _ => some (.unlockKeyring name passphrase)
  | .locking name passphrase _ _ _ => some (.unlockKeyring name passphrase)
  | .abandoning name passphrase _ => some (.unlockKeyring name passphrase)
  | .installing name passphrase _ _ => some (.unlockKeyring name passphrase)
  | .isUnlocked keyId => some (.isUnlocked keyId)
  | .publicKeyPem keyId => some (.publicKeyPem keyId)
  | .signDigest keyId rng digest => some (.signDigest keyId rng digest)
  | .requestCheck keyId rng digest => some (.signingRequest keyId rng digest)
  | .requestSign keyId rng digest => some (.signingRequest keyId rng digest)
  | .done op _ => some op

/-- The call runs the KDF. -/
def inKdf : KeyPc M → Bool
  | .unlockDecrypt _ _ => true
  | .scanDecrypt _ _ _ _ _ => true
  | _ => false

/-- The guards that the call holds for keys which have their new material. -/
def committed : KeyPc M → List (Nat × M)
  | .installing _ _ guards _ => guards
  | _ => []

/-- What the call has returned, or will return from here on. -/
def returned : KeyPc M → Option (KeyOp × KeyRet)
  | .installing name passphrase _ outcomes =>
    some (.unlockKeyring name passphrase, .unlockKeyring (.ok outcomes))
  | .done op ret => some (op, ret)
  | _ => none

/-- What a step of the call `c` between two places is in the atomic store. -/
def moves (c : Nat) (pc pc' : KeyPc M) : List (Nat × KeyOp) :=
  match pc.returned, pc'.returned with
  | none, some (op, _) => [(c, op)]
  | _, _ => []

end KeyPc

/-- The materials of a state. -/
def KeySt.materials (s : KeySt P S R) : Materials P S R := fun i =>
  match (s.cells i).writer with
  | none => (s.cells i).unlocked
  | some c => ((s.calls c).committed.lookup i).or (s.cells i).unlocked

def KeySt.atomic (s : KeySt P S R) : AtomicSt P S R := ⟨s.materials, fun c => (s.calls c).returned⟩

section Places

variable {crates : KeyCrates P S R} {store : KeyStore} {keyrings : List KeyringConfig} {c : Nat}
  {s : KeySt P S R} {cells cells' : KeyCells P S R} {m : Materials P S R}
  {pc pc' : KeyPc (UnlockedKeyMaterial P S R)}

/-! ## One step -/

/-- The state after a step of the call `c`. -/
def KeySt.after (s : KeySt P S R) (c : Nat) (cells : KeyCells P S R)
    (pc : KeyPc (UnlockedKeyMaterial P S R)) : KeySt P S R :=
  ⟨cells, Function.update s.calls c pc⟩

@[simp] theorem after_cells : (s.after c cells pc).cells = cells := rfl

@[simp] theorem after_calls : (s.after c cells pc).calls = Function.update s.calls c pc := rfl

theorem op_of_enter {M : Type} {op : KeyOp} {pc : KeyPc M} (h : store.enter op = some pc) :
    pc.op = some op := by
  cases keyEntry_of_eq h <;> rfl

/-- A step stays in its call. -/
theorem op_of_step (h : store.stepCall crates c cells pc = some (cells', pc')) :
    pc'.op = pc.op := by
  cases keyStep_of_eq h with
  | endScan name passphrase vars =>
    unfold KeyStore.endScan
    split <;> rfl
  | _ => rfl

/-- A public call changes no lock. -/
theorem cells_of_public {op : KeyOp} (hop : pc.op = some op) (hpub : op.isPublic = true)
    (h : store.stepCall crates c cells pc = some (cells', pc')) : cells' = cells := by
  cases keyStep_of_eq h with
  | install | lock | abandon | keep | put =>
    cases hop
    cases hpub
  | _ => rfl

/-! ## Reading the materials -/

theorem materials_of_free {i : Nat} (h : (s.cells i).writer = none) :
    s.materials i = (s.cells i).unlocked := by
  unfold KeySt.materials
  rw [h]

/-- The materials are those of the locks, unless some call has committed its guards. -/
theorem materials_eq {i : Nat}
    (h : ∀ d, (s.cells i).writer = some d → (s.calls d).committed = []) :
    s.materials i = (s.cells i).unlocked := by
  unfold KeySt.materials
  cases hw : (s.cells i).writer with
  | none => rfl
  | some d =>
    dsimp only
    rw [h d hw]
    rfl

end Places

end MicrotunSigner
