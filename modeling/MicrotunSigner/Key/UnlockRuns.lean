import MicrotunSigner.Key.UnlockCalls

/-!
# Runs of the key store (`key.rs`)

`run_call` is the induction over a run for one call and what it did so far. `Installed` is what a
call did to the keys, and `run_callOk` the invariant of every call in every run. From these:

* `unlockKeyring_all_or_nothing`: a keyring call that fails has changed no key, and one that
  succeeds reports exactly what it did.
* `keys_install_once`: on a store as it is loaded, a key gets its material once, and every public
  key and signature comes from it.
-/

namespace MicrotunSigner

open Lib

variable {P S R : Type}

section Runs

variable {crates : KeyCrates P S R} {store : KeyStore} {keyrings : List KeyringConfig}
  {s t u : KeySt P S R} {a : KeyAct} {as : List KeyAct} {c : Nat}

/-- The three kinds of steps of the system. -/
theorem sys_step_cases (h : (store.sys crates).step t a = some u) :
    (∃ c op pc, a = .start c op ∧ t.calls c = .idle ∧ store.enter op = some pc ∧
      u = { t with calls := Function.update t.calls c pc }) ∨
    (∃ c cells pc, a = .run c ∧ store.stepCall crates c t.cells (t.calls c) = some (cells, pc) ∧
      u = ⟨cells, Function.update t.calls c pc⟩) ∨
    ∃ i, a = .poison i ∧ (t.cells i).writer = none ∧
      u = { t with cells := Function.update t.cells i { t.cells i with poisoned := true } } := by
  cases a with
  | start c op =>
    simp only [KeyStore.sys] at h
    split at h
    · rename_i hidle
      obtain ⟨pc, hpc, rfl⟩ := Option.map_eq_some_iff.mp h
      exact .inl ⟨c, op, pc, rfl, hidle, hpc, rfl⟩
    · cases h
  | run c =>
    obtain ⟨⟨cells, pc⟩, hs, rfl⟩ := Option.map_eq_some_iff.mp h
    exact .inr (.inl ⟨c, cells, pc, rfl, hs, rfl⟩)
  | poison i =>
    simp only [KeyStore.sys] at h
    split at h
    · rename_i hw
      cases h
      exact .inr (.inr ⟨i, rfl, by simpa using hw, rfl⟩)
    · cases h

theorem step_keeps (h : (store.sys crates).step t a = some u) : Keeps t.cells u.cells := by
  rcases sys_step_cases h with ⟨_, _, _, -, -, -, rfl⟩ | ⟨_, _, _, -, hs, rfl⟩ | ⟨i, -, -, rfl⟩
  · exact keeps_refl
  · exact stepCall_keeps hs
  · intro j material hj
    have hsame : (Function.update t.cells i { t.cells i with poisoned := true } j).unlocked =
        (t.cells j).unlocked := unlocked_update (by rfl) j
    exact hsame.trans hj

/-- **Material is for ever**: no run takes it away or changes it. -/
theorem run_keeps_material (h : (store.sys crates).run s as = some t) : Keeps s.cells t.cells :=
  Sys.run_keeps (P := fun v => Keeps s.cells v.cells)
    (fun _ _ _ hv hstep i m hi => step_keeps hstep i m (hv i m hi)) keeps_refl h

/-- Induction over a run for one call `c`, with what it did: the keys `i` for which some step of the
call was `D i`. What another call does is seen in the locks alone. -/
theorem run_call (h0 : s.Rested) (hrun : (store.sys crates).run s as = some t)
    {D : Nat → KeySt P S R → KeyAct → KeySt P S R → Prop} (hD : ∀ i t a u, D i t a u → a = .run c)
    {Q : (Nat → Prop) → KeyCells P S R → KeyPc (UnlockedKeyMaterial P S R) → Prop}
    (init : Q (fun _ => False) s.cells .idle)
    (start : ∀ did cells op pc, store.enter op = some pc → Q did cells .idle → Q did cells pc)
    (own : ∀ as t cells pc did', (store.sys crates).run s as = some t →
      store.stepCall crates c t.cells (t.calls c) = some (cells, pc) →
      Q (fun i => (store.sys crates).Did s (D i) as) t.cells (t.calls c) →
      (∀ i, did' i ↔ (store.sys crates).Did s (D i) as ∨
        D i t (.run c) ⟨cells, Function.update t.calls c pc⟩) → Q did' cells pc)
    (other : ∀ did cells cells' pc, Keeps cells cells' → Q did cells pc → Q did cells' pc) :
    Q (fun i => (store.sys crates).Did s (D i) as) t.cells (t.calls c) := by
  refine Sys.run_induction (P := fun as t =>
    Q (fun i => (store.sys crates).Did s (D i) as) t.cells (t.calls c)) ?_ ?_ as t hrun
  · have hnil : (fun i => (store.sys crates).Did s (D i) []) = fun _ => False := by
      funext i
      exact eq_false Sys.not_did_nil
    rw [h0.1 c, hnil]
    exact init
  · intro as t a u ht ih hu
    have hother : a ≠ .run c → (fun i => (store.sys crates).Did s (D i) (as ++ [a])) =
        fun i => (store.sys crates).Did s (D i) as := fun hne => by
      funext i
      exact propext ((Sys.did_snoc ht hu).trans (or_iff_left fun h => hne (hD i _ _ _ h)))
    rcases sys_step_cases hu with
      ⟨d, op, pc, rfl, hidle, hpc, rfl⟩ | ⟨d, cells, pc, rfl, hs, rfl⟩ | ⟨i, rfl, -, rfl⟩
    · rw [hother (by simp)]
      dsimp only
      rcases update_cases t.calls d pc c with ⟨rfl, he⟩ | ⟨-, he⟩
      · rw [he]
        rw [hidle] at ih
        exact start _ _ op pc hpc ih
      · rw [he]
        exact ih
    · dsimp only
      rcases update_cases t.calls d pc c with ⟨rfl, he⟩ | ⟨hne, he⟩
      · rw [he]
        exact own as t cells pc _ ht hs ih fun i => Sys.did_snoc ht hu
      · rw [hother fun h => hne (KeyAct.run.inj h).symm, he]
        exact other _ _ _ _ (stepCall_keeps hs) ih
    · rw [hother (by simp)]
      exact other _ _ _ _ (step_keeps hu) ih

/-- A step of the call `c` that puts material into the lock `i`. -/
def Installs (c i : Nat) (t : KeySt P S R) (a : KeyAct) (u : KeySt P S R) : Prop :=
  a = .run c ∧ (t.cells i).unlocked = none ∧ (u.cells i).unlocked.isSome = true

/-- The call `c` has installed the material of the key `i`. -/
def Installed (crates : KeyCrates P S R) (store : KeyStore) (s : KeySt P S R) (c : Nat)
    (as : List KeyAct) (i : Nat) : Prop :=
  (store.sys crates).Did s (Installs c i) as

theorem installed_snoc (ht : (store.sys crates).run s as = some t)
    (hu : (store.sys crates).step t a = some u) {i : Nat} :
    Installed crates store s c (as ++ [a]) i ↔
      Installed crates store s c as i ∨ Installs c i t a u :=
  Sys.did_snoc ht hu

/-- **Every call, in every run.** -/
theorem run_callOk (hw : store.WellFormed keyrings) (h0 : s.Rested)
    (hrun : (store.sys crates).run s as = some t) (c : Nat) :
    CallOk crates store t.cells (Installed crates store s c as) (t.calls c) := by
  refine run_call h0 hrun (D := Installs c)
    (Q := fun inst cells pc => CallOk crates store cells inst pc)
    (fun _ _ _ _ h => h.1) (fun _ => id) ?start ?own ?other
  case start => exact fun inst cells op pc hpc hnone => CallOk.start hpc hnone
  case other => exact fun inst cells cells' pc hkeep h => h.mono hkeep
  case own =>
    intro as t cells pc inst' ht hs h hinst
    refine h.step hw hs fun i => (hinst i).trans (or_congr_right ?_)
    exact ⟨fun h => h.2, fun h => ⟨rfl, h⟩⟩

/-- The guards of the calls are those of the locks. -/
theorem heldOk_inductive :
    (store.sys crates).Inductive fun t => ∀ c, HeldOk c t.cells (t.calls c) := by
  constructor
  case init =>
    intro s h0 c
    refine ⟨?_, fun i => ?_⟩
    · rw [h0.1 c]
      exact List.nodup_nil
    · rw [h0.1 c, h0.2 i]
      simp [KeyPc.held]
  case step =>
    intro t a u ih hu c
    rcases sys_step_cases hu with
      ⟨c', op, pc, -, hidle, hpc, rfl⟩ | ⟨c', cells, pc, -, hs, rfl⟩ | ⟨i, -, -, rfl⟩
    · show HeldOk c t.cells (Function.update t.calls c' pc c)
      by_cases hc : c = c'
      · subst hc
        rw [Function.update_self]
        refine (ih c).quiet ?_ fun _ => rfl
        rw [hidle, held_enter hpc]
        rfl
      · rw [Function.update_of_ne hc]
        exact ih c
    · show HeldOk c cells (Function.update t.calls c' pc c)
      by_cases hc : c = c'
      · subst hc
        rw [Function.update_self]
        exact (ih c).step hs
      · rw [Function.update_of_ne hc]
        exact (ih c).other (ih c') hs hc
    · refine (ih c).quiet rfl fun j => ?_
      by_cases hj : j = i
      · subst hj
        show (Function.update t.cells j _ j).writer = _
        rw [Function.update_self]
      · show (Function.update t.cells i _ j).writer = _
        rw [Function.update_of_ne hj]

/-- Two calls never hold the write guard of the same key. -/
theorem guards_exclusive (h0 : s.Rested) (hrun : (store.sys crates).run s as = some t) {c c' i : Nat}
    (hc : i ∈ (t.calls c).held) (hc' : i ∈ (t.calls c').held) : c = c' := by
  have h := ((heldOk_inductive.run h0 hrun c).iff i).mp hc
  have h' := ((heldOk_inductive.run h0 hrun c').iff i).mp hc'
  rw [h] at h'
  exact Option.some.inj h'

/-- A step of the call `c` that changes the lock state of a key. -/
def Changes (c i : Nat) (t : KeySt P S R) (a : KeyAct) (u : KeySt P S R) : Prop :=
  a = .run c ∧ (u.cells i).unlocked ≠ (t.cells i).unlocked

/-- The only change is an install. -/
theorem installed_of_changes {i : Nat} (h : (store.sys crates).Did s (Changes c i) as) :
    Installed crates store s c as i := by
  refine h.mono fun t a u hstep hc => ⟨hc.1, ?_⟩
  have hkeep := step_keeps hstep i
  cases hm : (t.cells i).unlocked with
  | some m => exact absurd ((hkeep m hm).trans hm.symm) hc.2
  | none =>
    refine ⟨rfl, Option.isSome_iff_ne_none.mpr fun hn => hc.2 (hn.trans hm.symm)⟩

/-- **`unlock_keyring` is all or nothing, with an exact report.** From any assignment of materials
and poisoned locks, in any interleaving: a call that returned an error has changed no key. One that
returned `Ok` has every active member unlocked, has changed active members only, kept every
material that was there, and reports one outcome for each declared key, in order. -/
theorem unlockKeyring_all_or_nothing {keys : List KeyMaterial}
    (hstore : KeyStore.fromKeys keys keyrings = .ok store) (h0 : s.Rested)
    (hrun : (store.sys crates).run s as = some t) {name passphrase : String}
    {result : Except KeyringUnlockError (List KeyringMemberOutcome)}
    (hdone : t.calls c = .done (.unlockKeyring name passphrase) (.unlockKeyring result)) :
    (∀ e, result = .error e → ∀ i, ¬ (store.sys crates).Did s (Changes c i) as) ∧
    ∀ outcomes, result = .ok outcomes →
      (∀ i ∈ store.keyringMembers name, store.isActive i = true →
        (t.cells i).unlocked.isSome = true) ∧
      (∀ i, (store.sys crates).Did s (Changes c i) as →
        i ∈ store.keyringMembers name ∧ store.isActive i = true) ∧
      (∀ pre post v, as = pre ++ post → (store.sys crates).run s pre = some v →
        Keeps v.cells t.cells) ∧
      ∃ ring ∈ keyrings, ring.id = name ∧ outcomes.map (·.keyId) = ring.keys ∧ ring.keys.Nodup ∧
        ∀ o ∈ outcomes, ∃ i ∈ store.keyringMembers name, ∃ key, store.keys[i]? = some key ∧
          key.id = o.keyId ∧ (o.result = .skippedInactive ↔ key.state ≠ .active) ∧
          (o.result = .unlocked ↔ Installed crates store s c as i) ∧
          (o.result = .alreadyUnlocked ↔
            key.state = .active ∧ ¬ Installed crates store s c as i) := by
  have hw := KeyStore.wellFormed_of_ok hstore
  have hcall := run_callOk hw h0 hrun c
  rw [hdone] at hcall
  constructor
  · rintro e rfl i hc
    exact hcall i (installed_of_changes hc)
  · rintro outcomes rfl
    obtain ⟨hne, hr⟩ : RingReport store t.cells _ name [] outcomes := hcall
    obtain ⟨r, rfl, hshape⟩ := hr.shape
    refine ⟨fun i hi ha => ((hshape i hi).2.2 ha List.not_mem_nil).1,
      fun i hc => hr.inst_mem i (installed_of_changes hc), fun pre post v he hv => ?_, ?_⟩
    · rw [he, Sys.run_append, hv] at hrun
      exact run_keeps_material hrun
    · obtain ⟨ring, hring, rfl⟩ := hw.known name hne
      obtain ⟨-, hnodup, hpos⟩ := hw.declared ring hring
      refine ⟨ring, hring, rfl, ?_, hnodup, fun o ho => ?_⟩
      · rw [List.map_map]
        exact hw.map_idAt hpos
      · obtain ⟨i, hi, rfl⟩ := List.mem_map.mp ho
        obtain ⟨key, hkey⟩ := hw.member hi
        refine ⟨i, hi, key, hkey, (idAt_eq hkey).symm, ?_⟩
        obtain ⟨hskip, -, hact⟩ := hshape i hi
        by_cases ha : key.state = .active
        · obtain ⟨-, hyes, hno⟩ := hact ((isActive_iff hkey).mpr ha) List.not_mem_nil
          by_cases hin : Installed crates store s c as i
          · simp [hyes hin, ha, hin]
          · simp [hno hin, ha, hin]
        · have hoff : store.isActive i = false := by
            rw [← Bool.not_eq_true, isActive_iff hkey]
            exact ha
          have hin : ¬ Installed crates store s c as i := fun hin => by
            have := (hr.inst_mem i hin).2
            rw [hoff] at this
            cases this
          simp [hskip hoff, ha, hin]

/-- Two calls on the keys of one keyring: the first runs the KDF of both active members, and the
second unlocks one of them before the first takes its write lock. -/
def exampleRace : List KeyAct :=
  [.start 0 (.unlockKeyring "firmware-prod" "correct horse"), .run 0, .run 0, .run 0, .run 0, .run 0,
    .start 1 (.unlock "microtun-firmware-prod" "correct horse"), .run 1, .run 1, .run 1,
    .run 0, .run 0, .run 0, .run 0, .run 0, .run 0, .run 0]

theorem fresh_rested : (KeySt.fresh : KeySt P S R).Rested := ⟨fun _ => rfl, fun _ => rfl⟩

theorem keyring_call_loses_race :
    ∃ t, (exampleKeyStore.sys exampleCrates).run .fresh exampleRace = some t ∧
      t.calls 0 = .done (.unlockKeyring "firmware-prod" "correct horse") (.unlockKeyring (.ok
        [⟨"microtun-firmware-old", .skippedInactive⟩, ⟨"microtun-firmware-next", .unlocked⟩,
          ⟨"microtun-firmware-prod", .alreadyUnlocked⟩])) ∧
      ∀ i, (exampleKeyStore.sys exampleCrates).Did .fresh (Changes 0 i) exampleRace →
        i ∈ [2, 1, 0] ∧ exampleKeyStore.isActive i = true := by
  obtain ⟨t, hrun, hdone⟩ : ∃ t, (exampleKeyStore.sys exampleCrates).run .fresh exampleRace = some t ∧
      t.calls 0 = .done (.unlockKeyring "firmware-prod" "correct horse") (.unlockKeyring (.ok
        [⟨"microtun-firmware-old", .skippedInactive⟩, ⟨"microtun-firmware-next", .unlocked⟩,
          ⟨"microtun-firmware-prod", .alreadyUnlocked⟩])) := ⟨_, rfl, rfl⟩
  have h := (unlockKeyring_all_or_nothing exampleKeyStore_ok fresh_rested hrun hdone).2 _ rfl
  exact ⟨t, hrun, hdone, h.2.1⟩

/-! ## Install once -/

/-- Material that was not there at the start has been installed by some call. -/
theorem exists_installed (hrun : (store.sys crates).run s as = some t) {i : Nat}
    (h0 : (s.cells i).unlocked = none) (hi : (t.cells i).unlocked.isSome = true) :
    ∃ c, Installed crates store s c as i := by
  revert hi
  refine Sys.run_induction (P := fun as t => (t.cells i).unlocked.isSome = true →
    ∃ c, Installed crates store s c as i) ?_ ?_ as t hrun
  · intro hi
    rw [h0] at hi
    cases hi
  · intro as t a u ht ih hu hi
    by_cases hold : (t.cells i).unlocked.isSome = true
    · obtain ⟨c, hc⟩ := ih hold
      exact ⟨c, hc.append _⟩
    · have hnone : (t.cells i).unlocked = none := by simpa using hold
      have hne : (u.cells i).unlocked ≠ (t.cells i).unlocked := by
        rw [hnone]
        exact Option.isSome_iff_ne_none.mp hi
      rcases sys_step_cases hu with ⟨_, _, _, -, -, -, rfl⟩ | ⟨c, _, _, rfl, -, rfl⟩ | ⟨j, -, -, rfl⟩
      · exact absurd rfl hne
      · exact ⟨c, (installed_snoc ht hu).mpr (.inr ⟨rfl, hnone, hi⟩)⟩
      · exact absurd (unlocked_update (by rfl) i) hne

theorem isSome_of_installed (hrun : (store.sys crates).run s as = some t) {i : Nat}
    (h : Installed crates store s c as i) : (t.cells i).unlocked.isSome = true := by
  obtain ⟨pre, a, post, v, u, rfl, hv, hu, hi⟩ := h
  obtain ⟨v', u', hv', hu', hpost⟩ := Sys.run_split hrun
  rw [hv] at hv'
  cases hv'
  rw [hu] at hu'
  cases hu'
  exact (run_keeps_material hpost).isSome i hi.2.2

/-- **Installed once**: two calls never install the same key. -/
theorem installed_unique (hrun : (store.sys crates).run s as = some t) {c c' i : Nat}
    (hc : Installed crates store s c as i) (hc' : Installed crates store s c' as i) : c = c' := by
  revert hc hc'
  refine Sys.run_induction (P := fun as _ => Installed crates store s c as i →
    Installed crates store s c' as i → c = c') ?_ ?_ as t hrun
  · intro hc
    exact absurd hc Sys.not_did_nil
  · intro as t a u ht ih hu hc hc'
    -- Whoever installed before left material, so that this step cannot install.
    have hlate : ∀ d d', Installed crates store s d as i → ¬ Installs d' i t a u := by
      rintro d d' hd ⟨-, hn, -⟩
      have hs := isSome_of_installed ht hd
      rw [hn] at hs
      cases hs
    rcases (installed_snoc ht hu).mp hc with h | h
    · rcases (installed_snoc ht hu).mp hc' with h' | h'
      · exact ih h h'
      · exact absurd h' (hlate c c' h)
    · rcases (installed_snoc ht hu).mp hc' with h' | h'
      · exact absurd h (hlate c' c h')
      · have he := h.1.symm.trans h'.1
        cases he
        rfl

/-- **Key state is monotone and install-once.** In every interleaving of calls on a store as it is
loaded: an inactive key never has material, and what material a key has it keeps. All public keys
ever returned for a key are the same, and every signature is one by the private key of that public
key. One call at most reports a key as unlocked, and every other one that covers it as unlocked
already. A request that has seen its key unlocked does not find it locked when it signs. -/
theorem keys_install_once {keys : List KeyMaterial}
    (hstore : KeyStore.fromKeys keys keyrings = .ok store)
    (hrun : (store.sys crates).run .fresh as = some t) :
    (∀ i, store.isActive i = false → (t.cells i).unlocked = none) ∧
    (∀ pre post v, as = pre ++ post → (store.sys crates).run .fresh pre = some v →
      Keeps v.cells t.cells) ∧
    (∀ c c' keyId pem pem', t.calls c = .done (.publicKeyPem keyId) (.publicKeyPem (some pem)) →
      t.calls c' = .done (.publicKeyPem keyId) (.publicKeyPem (some pem')) → pem = pem') ∧
    (∀ c keyId rng digest signature,
      t.calls c = .done (.signDigest keyId rng digest) (.signDigest (.ok signature)) ∨
      t.calls c = .done (.signingRequest keyId rng digest) (.signDigest (.ok signature)) →
      ∃ i material, store.position keyId = some i ∧ (t.cells i).unlocked = some material ∧
        material.sign crates rng digest = .ok signature ∧
        ∀ c' pem, t.calls c' = .done (.publicKeyPem keyId) (.publicKeyPem (some pem)) →
          material.publicKeyPem crates = some pem) ∧
    (∀ keyId, ActiveKey store keyId →
      (∀ c c', (t.calls c).reports keyId .unlocked → (t.calls c').reports keyId .unlocked →
        c = c') ∧
      ∀ c, (t.calls c).covers keyrings keyId → ∃ result,
        (result = .unlocked ∨ result = .alreadyUnlocked) ∧
          ∀ r, (t.calls c).reports keyId r ↔ r = result) ∧
    ∀ c keyId rng digest,
      t.calls c ≠ .done (.signingRequest keyId rng digest) (.signDigest (.error .locked)) := by
  have hw := KeyStore.wellFormed_of_ok hstore
  have hcall := run_callOk hw fresh_rested hrun
  -- What a returned public key says of the material of its key.
  have hpem : ∀ c keyId pem, t.calls c = .done (.publicKeyPem keyId) (.publicKeyPem (some pem)) →
      ∃ i material, store.position keyId = some i ∧ (t.cells i).unlocked = some material ∧
        material.publicKeyPem crates = some pem := by
    intro c keyId pem hc
    have h := hcall c
    rw [hc] at h
    exact h.2
  refine ⟨?_, ?_, ?_, ?_, ?_, ?_⟩
  · intro i hi
    by_contra hn
    obtain ⟨c, hc⟩ := exists_installed hrun rfl (Option.isSome_iff_ne_none.mpr hn)
    have ha := (hcall c).active hc
    rw [hi] at ha
    cases ha
  · intro pre post v he hv
    rw [he, Sys.run_append, hv] at hrun
    exact run_keeps_material hrun
  · intro c c' keyId pem pem' hc hc'
    obtain ⟨i, material, hp, hm, hpm⟩ := hpem c keyId pem hc
    obtain ⟨i', material', hp', hm', hpm'⟩ := hpem c' keyId pem' hc'
    grind
  · intro c keyId rng digest signature hc
    have hsigned : Signed crates store t.cells keyId rng digest signature := by
      have h := hcall c
      rcases hc with hc | hc
      · rw [hc] at h
        exact h.2
      · rw [hc] at h
        exact h.2
    obtain ⟨i, material, hp, hm, hs⟩ := hsigned
    refine ⟨i, material, hp, hm, hs, fun c' pem hc' => ?_⟩
    obtain ⟨i', material', hp', hm', hpm⟩ := hpem c' keyId pem hc'
    grind
  · rintro keyId ⟨i, hp, ha⟩
    refine ⟨fun c c' hc hc' => ?_, fun c hc => ?_⟩
    · have hin : ∀ d, (t.calls d).reports keyId .unlocked →
          Installed crates store .fresh d as i := by
        intro d hd
        have hcov := (hcall d).covers_of_reports hw hd
        have h := ((hcall d).reports_iff hw hcov hp ha .unlocked).mp hd
        simpa using h
      exact installed_unique hrun (hin c hc) (hin c' hc')
    · have hiff := (hcall c).reports_iff hw hc hp ha
      by_cases hin : Installed crates store .fresh c as i
      · exact ⟨.unlocked, .inl rfl, fun r => (hiff r).trans (by simp [hin])⟩
      · exact ⟨.alreadyUnlocked, .inr rfl, fun r => (hiff r).trans (by simp [hin])⟩
  · intro c keyId rng digest hc
    have h := hcall c
    rw [hc] at h
    exact h.2 rfl

/-- In the race above, the key that both calls decrypted has one call that unlocked it. -/
theorem race_unlocks_once :
    ∃ t, (exampleKeyStore.sys exampleCrates).run .fresh exampleRace = some t ∧
      (t.calls 1).reports "microtun-firmware-prod" .unlocked ∧
      ∀ c, (t.calls c).reports "microtun-firmware-prod" .unlocked → c = 1 := by
  obtain ⟨t, hrun, hone⟩ : ∃ t, (exampleKeyStore.sys exampleCrates).run .fresh exampleRace = some t ∧
      (t.calls 1).reports "microtun-firmware-prod" .unlocked := ⟨_, rfl, rfl, rfl⟩
  obtain ⟨-, -, -, -, hkey, -⟩ := keys_install_once exampleKeyStore_ok hrun
  have hactive : ActiveKey exampleKeyStore "microtun-firmware-prod" := ⟨0, rfl, rfl⟩
  exact ⟨t, hrun, hone, fun c hc => (hkey "microtun-firmware-prod" hactive).1 c 1 hc hone⟩

end Runs

end MicrotunSigner
