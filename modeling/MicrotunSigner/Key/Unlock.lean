import MicrotunSigner.Key.Store
import MicrotunSigner.Lib.Sys
import Mathlib.Logic.Function.Basic

/-!
# Concurrent calls on the key store (`key.rs`)

`unlock`, `unlock_keyring`, `is_unlocked`, `public_key_pem` and `sign_digest` as programs over the
locks of the keys. One step is what happens under one lock, or the KDF between two of them
(`stepCall`); any number of calls run in any order (`KeyStore.sys`).

* A write guard that `unlock_keyring` keeps is in the lock's `writer`, and whoever needs that lock
  waits. A read guard and the write guard of `install` are given back in the step that takes them.
* `signingRequest` is what a signing request does with a key: `is_unlocked` when it is validated,
  `sign_digest` later.
* A lock can be poisoned at any time that no call holds it for writing.
-/

namespace MicrotunSigner

open Lib

/-- A call on the store. `rng` is what `sign_digest` draws from the random number generator. -/
inductive KeyOp where
  | unlock (keyId passphrase : String)
  | unlockKeyring (name passphrase : String)
  | isUnlocked (keyId : String)
  | publicKeyPem (keyId : String)
  | signDigest (keyId : String) (rng : Nat) (digest : Vector UInt8 32)
  | signingRequest (keyId : String) (rng : Nat) (digest : Vector UInt8 32)
  deriving DecidableEq

/-- What a call returns. `keyLocked` is the answer to a request whose key is not unlocked. -/
inductive KeyRet where
  | unlock (result : Except UnlockError UnlockOutcome)
  | unlockKeyring (result : Except KeyringUnlockError (List KeyringMemberOutcome))
  | isUnlocked (unlocked : Bool)
  | publicKeyPem (pem : Option String)
  | signDigest (result : Except SignError (List UInt8))
  | keyLocked
  deriving DecidableEq

structure KeyringScan (M : Type) where
  outcomes : List KeyringMemberOutcome := []
  decrypted : List (Nat × M) := []
  opened : List String := []
  failed : List String := []

inductive KeyPc (M : Type) where
  | idle
  /-- `unlock` before its read lock, in the KDF, and before the write lock of `install`. -/
  | unlockCheck (keyId passphrase : String)
  | unlockDecrypt (keyId passphrase : String)
  | unlockInstall (keyId passphrase : String) (material : M)
  /-- At the head of the member loop, and in the KDF of the member `i`. -/
  | scan (name passphrase : String) (rest : List Nat) (vars : KeyringScan M)
  | scanDecrypt (name passphrase : String) (i : Nat) (rest : List Nat) (vars : KeyringScan M)
  /-- Taking the write locks of `todo`, with those of `guards` held. -/
  | locking (name passphrase : String) (todo guards : List (Nat × M))
      (outcomes : List KeyringMemberOutcome)
  /-- Giving the guards back because a lock was poisoned. -/
  | abandoning (name passphrase : String) (guards : List (Nat × M))
  | installing (name passphrase : String) (guards : List (Nat × M))
      (outcomes : List KeyringMemberOutcome)
  | isUnlocked (keyId : String)
  | publicKeyPem (keyId : String)
  | signDigest (keyId : String) (rng : Nat) (digest : Vector UInt8 32)
  | requestCheck (keyId : String) (rng : Nat) (digest : Vector UInt8 32)
  | requestSign (keyId : String) (rng : Nat) (digest : Vector UInt8 32)
  | done (op : KeyOp) (ret : KeyRet)

/-- The outcome of the member `keyId` becomes `alreadyUnlocked`, the first of that id. -/
def patchOutcome (keyId : String) : List KeyringMemberOutcome → List KeyringMemberOutcome
  | [] => []
  | o :: rest =>
    if o.keyId = keyId then { o with result := .alreadyUnlocked } :: rest
    else o :: patchOutcome keyId rest

namespace KeyStore

variable {P S R : Type} (crates : KeyCrates P S R) (store : KeyStore)

/-- The key at a position; `none` where there is none. -/
def isActive (i : Nat) : Bool := (store.keys[i]?).any fun key => key.state == .active

def idAt (i : Nat) : String := ((store.keys[i]?).map KeyMaterial.id).getD ""

/-- A call starts. What it does before its first lock depends on no lock. -/
def enter {M : Type} : KeyOp → Option (KeyPc M)
  | .unlock keyId passphrase => do
    let key ← store.get keyId
    if key.state ≠ .active then
      some (.done (.unlock keyId passphrase) (.unlock (.error .inactive)))
    else some (.unlockCheck keyId passphrase)
  | .unlockKeyring name passphrase =>
    let members := store.keyringMembers name
    if members.isEmpty then
      some (.done (.unlockKeyring name passphrase) (.unlockKeyring (.error .unknownKeyring)))
    else if members.all fun i => !store.isActive i then
      some (.done (.unlockKeyring name passphrase) (.unlockKeyring (.error .noActiveKeys)))
    else some (.scan name passphrase members {})
  | .isUnlocked keyId => do
    let _ ← store.get keyId
    some (.isUnlocked keyId)
  | .publicKeyPem keyId => do
    let _ ← store.get keyId
    some (.publicKeyPem keyId)
  | .signDigest keyId rng digest => do
    let _ ← store.get keyId
    some (.signDigest keyId rng digest)
  | .signingRequest keyId rng digest => do
    let _ ← store.get keyId
    some (.requestCheck keyId rng digest)

end KeyStore

abbrev KeyCells (P S R : Type) := Nat → KeyCell (UnlockedKeyMaterial P S R)

namespace KeyStore

variable {P S R : Type} (crates : KeyCrates P S R) (store : KeyStore)

/-- The position of a key whose lock no call holds for writing. -/
def readable (cells : KeyCells P S R) (keyId : String) : Option Nat := do
  let i ← store.position keyId
  if (cells i).writer.isNone then some i else none

def endScan {M : Type} (name passphrase : String) (vars : KeyringScan M) : KeyPc M :=
  if !vars.failed.isEmpty then
    .done (.unlockKeyring name passphrase) (.unlockKeyring (.error
      (if vars.opened.isEmpty then .invalidPassphrase
      else .passphraseMismatch vars.opened vars.failed)))
  else .locking name passphrase vars.decrypted [] vars.outcomes

/-- The next step of the call `c`, if it need not wait: the locks and where the call is then. -/
def stepCall (c : Nat) (cells : KeyCells P S R) :
    KeyPc (UnlockedKeyMaterial P S R) →
      Option (KeyCells P S R × KeyPc (UnlockedKeyMaterial P S R))
  | .idle => none
  | .unlockCheck keyId passphrase => do
    let i ← store.readable cells keyId
    some (cells, match (cells i).checkLocked with
      | .error e => .done (.unlock keyId passphrase) (.unlock (.error e))
      | .ok (some outcome) => .done (.unlock keyId passphrase) (.unlock (.ok outcome))
      | .ok none => .unlockDecrypt keyId passphrase)
  | .unlockDecrypt keyId passphrase => do
    let key ← store.get keyId
    some (cells, match key.decrypt crates passphrase with
      | .error e => .done (.unlock keyId passphrase) (.unlock (.error e))
      | .ok material => .unlockInstall keyId passphrase material)
  | .unlockInstall keyId passphrase material => do
    let i ← store.readable cells keyId
    let (result, cell) := (cells i).install material
    some (Function.update cells i cell, .done (.unlock keyId passphrase) (.unlock result))
  | .scan name passphrase [] vars => some (cells, endScan name passphrase vars)
  | .scan name passphrase (i :: rest) vars =>
    let outcome := fun result => (⟨store.idAt i, result⟩ : KeyringMemberOutcome)
    if !store.isActive i then
      some (cells, .scan name passphrase rest
        { vars with outcomes := vars.outcomes ++ [outcome .skippedInactive] })
    else if (cells i).writer.isSome then none
    else if (cells i).isUnlocked then
      some (cells, .scan name passphrase rest
        { vars with outcomes := vars.outcomes ++ [outcome .alreadyUnlocked] })
    else some (cells, .scanDecrypt name passphrase i rest vars)
  | .scanDecrypt name passphrase i rest vars => do
    let key ← store.keys[i]?
    let outcome : KeyringMemberOutcome := ⟨key.id, .unlocked⟩
    let vars := { vars with outcomes := vars.outcomes ++ [outcome] }
    some (cells, .scan name passphrase rest (match key.decrypt crates passphrase with
      | .ok material => { vars with
          opened := vars.opened ++ [key.id], decrypted := vars.decrypted ++ [(i, material)] }
      | .error _ => { vars with failed := vars.failed ++ [key.id] }))
  | .locking name passphrase [] guards outcomes =>
    some (cells, .installing name passphrase guards outcomes)
  | .locking name passphrase ((i, material) :: todo) guards outcomes =>
    if (cells i).writer.isSome then none
    else if (cells i).poisoned then some (cells, .abandoning name passphrase guards)
    else some (Function.update cells i { cells i with writer := some c },
      .locking name passphrase todo (guards ++ [(i, material)]) outcomes)
  | .abandoning name passphrase [] =>
    some (cells, .done (.unlockKeyring name passphrase) (.unlockKeyring (.error .lockPoisoned)))
  | .abandoning name passphrase ((i, _) :: guards) =>
    some (Function.update cells i { cells i with writer := none },
      .abandoning name passphrase guards)
  | .installing name passphrase [] outcomes =>
    some (cells, .done (.unlockKeyring name passphrase) (.unlockKeyring (.ok outcomes)))
  | .installing name passphrase ((i, material) :: guards) outcomes =>
    -- A key unlocked since the check keeps its material.
    if (cells i).unlocked.isSome then
      some (Function.update cells i { cells i with writer := none },
        .installing name passphrase guards (patchOutcome (store.idAt i) outcomes))
    else
      some (Function.update cells i { cells i with unlocked := some material, writer := none },
        .installing name passphrase guards outcomes)
  | .isUnlocked keyId => do
    let i ← store.readable cells keyId
    some (cells, .done (.isUnlocked keyId) (.isUnlocked (cells i).isUnlocked))
  | .publicKeyPem keyId => do
    let i ← store.readable cells keyId
    some (cells, .done (.publicKeyPem keyId) (.publicKeyPem ((cells i).publicKeyPem crates)))
  | .signDigest keyId rng digest => do
    let i ← store.readable cells keyId
    some (cells, .done (.signDigest keyId rng digest)
      (.signDigest ((cells i).signDigest crates rng digest)))
  | .requestCheck keyId rng digest => do
    let i ← store.readable cells keyId
    some (cells, if (cells i).isUnlocked then .requestSign keyId rng digest
      else .done (.signingRequest keyId rng digest) .keyLocked)
  | .requestSign keyId rng digest => do
    let i ← store.readable cells keyId
    some (cells, .done (.signingRequest keyId rng digest)
      (.signDigest ((cells i).signDigest crates rng digest)))
  | .done _ _ => none

end KeyStore

structure KeySt (P S R : Type) where
  cells : KeyCells P S R
  calls : Nat → KeyPc (UnlockedKeyMaterial P S R)

inductive KeyAct where
  | start (c : Nat) (op : KeyOp)
  | run (c : Nat)
  | poison (i : Nat)

def KeySt.Rested {P S R : Type} (s : KeySt P S R) : Prop :=
  (∀ c, s.calls c = .idle) ∧ ∀ i, (s.cells i).writer = none

/-- The store as it is loaded: rested, every key locked, no lock poisoned. -/
def KeySt.fresh {P S R : Type} : KeySt P S R := ⟨fun _ => ⟨none, false, none⟩, fun _ => .idle⟩

def KeyStore.sys {P S R : Type} (crates : KeyCrates P S R) (store : KeyStore) :
    Sys (KeySt P S R) KeyAct where
  init := KeySt.Rested
  step s
    | .start c op => match s.calls c with
      | .idle => (store.enter op).map fun pc => { s with calls := Function.update s.calls c pc }
      | _ => none
    | .run c => (store.stepCall crates c s.cells (s.calls c)).map fun (cells, pc) =>
        ⟨cells, Function.update s.calls c pc⟩
    | .poison i =>
      if (s.cells i).writer.isNone then
        some { s with cells := Function.update s.cells i { s.cells i with poisoned := true } }
      else none

end MicrotunSigner
