import MicrotunSigner.Api.AdminRuns
import MicrotunSigner.Key.Origin

/-!
# Which request has unlocked a key (`api.rs`)

`ArrivedOk`: a task does what a request that has arrived asks for. With `run_opens`, the material of
a key was made from its PEM with the passphrase of a request that names the key
(`unlocked_by_request`). No interleaving mixes up the passphrases or the PEMs of two requests, and
neither the public API nor a task that panics unlocks anything.
-/

namespace MicrotunSigner

open Lib

variable {P S R : Type}

/-- The request names the key: its id, or a keyring that declares it. -/
def AdminRequest.names (keyrings : List KeyringConfig) (request : AdminRequest) (key : KeyMaterial) :
    Prop :=
  match request.route with
  | .unlockKey keyId => key.id = keyId
  | .unlockKeyring name => ∃ ring ∈ keyrings, ring.id = name ∧ key.id ∈ ring.keys

section Runs

variable {crates : KeyCrates P S R} {store : KeyStore} {keyrings : List KeyringConfig}
  {fromSlice : List UInt8 → Option UnlockRequest} {t u : AdminSt P S R} {a : AdminAct}
  {as : List AdminAct} {c : Nat}

/-- A request of the handler `c` that has arrived asks for the call. -/
def Asked (fromSlice : List UInt8 → Option UnlockRequest) (store : KeyStore) (as : List AdminAct)
    (c : Nat) (op : KeyOp) : Prop :=
  ∃ request, .arrive c request ∈ as ∧ request.check fromSlice store = .ok op

theorem Asked.snoc {op : KeyOp} (h : Asked fromSlice store as c op) (a : AdminAct) :
    Asked fromSlice store (as ++ [a]) c op := by
  obtain ⟨request, hm, hcheck⟩ := h
  exact ⟨request, List.mem_append_left _ hm, hcheck⟩

/-- The call that a handler has asked for and is not yet a task. -/
def AdminPc.queuedOp : AdminPc → Option KeyOp
  | .queued _ op => some op
  | _ => none

/-- What is queued, and what the tasks do, was asked for. -/
structure ArrivedOk (fromSlice : List UInt8 → Option UnlockRequest) (store : KeyStore)
    (as : List AdminAct) (t : AdminSt P S R) : Prop where
  queued : ∀ c op, (t.handlers c).queuedOp = some op → Asked fromSlice store as c op
  task : ∀ c op, (t.tasks c).op = some op → Asked fromSlice store as c op

/-- A step of the handler `c` and its task. -/
theorem ArrivedOk.only (h : ArrivedOk fromSlice store as t) (a : AdminAct) (c : Nat)
    (hother : ∀ d, d ≠ c → u.tasks d = t.tasks d ∧ u.handlers d = t.handlers d)
    (hqueued : ∀ op, (u.handlers c).queuedOp = some op →
      (t.handlers c).queuedOp = some op ∨ Asked fromSlice store (as ++ [a]) c op)
    (htask : ∀ op, (u.tasks c).op = some op →
      (t.tasks c).op = some op ∨ (t.handlers c).queuedOp = some op) :
    ArrivedOk fromSlice store (as ++ [a]) u where
  queued d op hop := by
    by_cases hd : d = c
    · subst hd
      rcases hqueued op hop with ho | ho
      · exact (h.queued d op ho).snoc a
      · exact ho
    · rw [(hother d hd).2] at hop
      exact (h.queued d op hop).snoc a
  task d op hop := by
    by_cases hd : d = c
    · subst hd
      rcases htask op hop with ho | ho
      · exact (h.task d op ho).snoc a
      · exact (h.queued d op ho).snoc a
    · rw [(hother d hd).1] at hop
      exact (h.task d op hop).snoc a

theorem ArrivedOk.step (h : ArrivedOk fromSlice store as t)
    (hu : (adminSys crates store fromSlice).step t a = some u) :
    ArrivedOk fromSlice store (as ++ [a]) u := by
  cases adminStep hu with
  | arrive c request hout hidle =>
    refine h.only _ c (fun d hd => ⟨rfl, Function.update_of_ne hd _ _⟩) (fun op hop => .inr ?_)
      fun op hop => .inl hop
    dsimp only at hop
    rw [Function.update_self] at hop
    unfold AdminRequest.entry at hop
    split at hop
    · cases hop
    · rename_i op' hcheck
      cases hop
      exact ⟨request, List.mem_append_right _ List.mem_cons_self, hcheck⟩
  | acquire c request op hq hfree =>
    refine h.only _ c
      (fun d hd => ⟨Function.update_of_ne hd _ _, Function.update_of_ne hd _ _⟩)
      (fun op' hop => ?_) fun op' hop => .inr ?_
    · dsimp only at hop
      rw [Function.update_self] at hop
      cases hop
    · dsimp only at hop
      rw [Function.update_self] at hop
      cases hop
      rw [hq]
      rfl
  | start c op keys hsp hk =>
    refine h.only _ c (fun d hd => ⟨Function.update_of_ne hd _ _, rfl⟩) (fun _ => .inl)
      fun op' hop => .inl ?_
    dsimp only at hop
    rw [Function.update_self] at hop
    rw [hsp]
    exact hop
  | finish c op op' ret hr hd =>
    refine h.only _ c (fun d hd => ⟨Function.update_of_ne hd _ _, rfl⟩) (fun _ => .inl)
      fun op' hop => .inl ?_
    dsimp only at hop
    rw [Function.update_self] at hop
    rw [hr]
    exact hop
  | panic c op hr hkdf =>
    refine h.only _ c (fun d hd => ⟨Function.update_of_ne hd _ _, rfl⟩) (fun _ => .inl)
      fun op' hop => .inl ?_
    dsimp only at hop
    rw [Function.update_self] at hop
    rw [hr]
    exact hop
  | reply c request op op' ret ha he =>
    refine h.only _ c (fun d hd => ⟨rfl, Function.update_of_ne hd _ _⟩) (fun op' hop => ?_)
      fun _ => .inl
    dsimp only at hop
    rw [Function.update_self] at hop
    cases hop
  | disconnect c request op hw =>
    refine h.only _ c (fun d hd => ⟨rfl, Function.update_of_ne hd _ _⟩) (fun op' hop => ?_)
      fun _ => .inl
    dsimp only at hop
    rw [Function.update_self] at hop
    cases hop
  | work | publicCall | publicStep | poison =>
    exact ⟨fun c op hop => (h.queued c op hop).snoc _, fun c op hop => (h.task c op hop).snoc _⟩

theorem run_arrivedOk (hrun : (adminSys crates store fromSlice).run .new as = some t) :
    ArrivedOk fromSlice store as t := by
  refine Sys.run_induction (P := ArrivedOk fromSlice store) ⟨?_, ?_⟩ ?_ as t hrun
  · intro c op hop
    cases hop
  · intro c op hop
    cases hop
  · exact fun as t a u _ h hu => h.step hu

/-- An unlock on the key store is what a request asks for. -/
theorem asked_of_call (hrun : (adminSys crates store fromSlice).run .new as = some t) {op : KeyOp}
    (hop : (t.keys.calls c).op = some op) (hpub : op.isPublic = false) :
    Asked fromSlice store as c op := by
  have htask := (run_adminOk hrun).task c
  refine (run_arrivedOk hrun).task c op ?_
  cases ht : t.tasks c with
  | none =>
    rw [ht] at htask
    rw [htask op hop] at hpub
    cases hpub
  | spawned op' =>
    rw [ht] at htask
    rw [htask.1] at hop
    cases hop
  | running op' =>
    rw [ht] at htask
    exact htask.1.symm.trans hop
  | ended op' ret =>
    rw [ht] at htask
    cases ret with
    | none => exact htask.1.symm.trans hop
    | some ret =>
      rw [htask.1] at hop
      exact hop

/-- What the call of a request opens is a key that the request names, with its passphrase. -/
theorem opens_of_check (hw : store.WellFormed keyrings) {request : AdminRequest} {op : KeyOp}
    (hcheck : request.check fromSlice store = .ok op) {i : Nat}
    {material : UnlockedKeyMaterial P S R} (h : Opens crates store op i material) :
    ∃ key passphrase, store.keys[i]? = some key ∧ key.state = .active ∧
      request.names keyrings key ∧ fromSlice request.body = some ⟨passphrase⟩ ∧ passphrase ≠ "" ∧
      key.decrypt crates passphrase = .ok material := by
  obtain ⟨passphrase, hasks, hactive, hmat⟩ := h
  obtain ⟨key, hk, hd⟩ := Option.bind_eq_some_iff.mp hmat
  have hd : key.decrypt crates passphrase = .ok material := by
    cases he : key.decrypt crates passphrase with
    | error e =>
      rw [he] at hd
      cases hd
    | ok m =>
      rw [he] at hd
      cases hd
      rfl
  have hstate := (isActive_iff hk).mp hactive
  unfold AdminRequest.check at hcheck
  split at hcheck
  · rename_i keyId hroute
    obtain ⟨-, -, key', passphrase', hget, hbody, hne, rfl⟩ := beginUnlockKey_ok hcheck
    obtain ⟨hp, rfl⟩ := hasks
    obtain ⟨j, hj, hk'⟩ := get_eq_some hget
    obtain ⟨_, hk'', hid⟩ := (hw.position_iff keyId j).mp hj
    rw [hk'] at hk''
    cases hk''
    rw [hid, hj] at hp
    cases hp
    rw [hk'] at hk
    cases hk
    refine ⟨_, _, hk', hstate, ?_, hbody, hne, hd⟩
    rw [AdminRequest.names, hroute]
    exact hid
  · rename_i name hroute
    obtain ⟨-, -, hhas, passphrase', hbody, hne, rfl⟩ := beginUnlockKeyring_ok hcheck
    obtain ⟨hm, rfl⟩ := hasks
    obtain ⟨ring, hring, hname⟩ := hw.known name (List.ne_nil_of_mem hm)
    subst hname
    obtain ⟨-, -, hpos⟩ := hw.declared ring hring
    have hid : key.id ∈ ring.keys := by
      rw [← hw.map_idAt hpos, ← idAt_eq hk]
      exact List.mem_map_of_mem hm
    refine ⟨key, _, hk, hstate, ?_, hbody, hne, hd⟩
    rw [AdminRequest.names, hroute]
    exact ⟨ring, hring, rfl, hid⟩

/-- The call that has installed the material of a key was asked for by a request. -/
theorem opened_by_request (hw : store.WellFormed keyrings)
    (hrun : (adminSys crates store fromSlice).run .new as = some t) {i : Nat}
    {material : UnlockedKeyMaterial P S R} (hi : (t.keys.cells i).unlocked = some material) :
    ∃ c request key passphrase,
      Installed crates store .fresh c (keyActions crates store fromSlice as) i ∧
      .arrive c request ∈ as ∧ store.keys[i]? = some key ∧ key.state = .active ∧
      request.names keyrings key ∧ fromSlice request.body = some ⟨passphrase⟩ ∧ passphrase ≠ "" ∧
      key.decrypt crates passphrase = .ok material := by
  obtain ⟨c, op, hin, hop, hopens⟩ := run_opens hw (run_keys hrun) hi
  have hpub : op.isPublic = false := by
    obtain ⟨_, hasks, -⟩ := hopens
    cases op with
    | unlock | unlockKeyring => rfl
    | _ => exact hasks.elim
  obtain ⟨request, harrived, hcheck⟩ := asked_of_call hrun hop hpub
  obtain ⟨key, passphrase, hopened⟩ := opens_of_check hw hcheck hopens
  exact ⟨c, request, key, passphrase, hin, harrived, hopened⟩

/-- **Which request has unlocked a key.** In every run, whatever the interleaving and whichever
clients disconnect: the material of a key was installed by exactly one request. It has arrived, it
names the key, which is active, and the passphrase in its body decrypts the PEM of that very key to
that material. -/
theorem unlocked_by_request {keys : List KeyMaterial}
    (hstore : KeyStore.fromKeys keys keyrings = .ok store)
    (hrun : (adminSys crates store fromSlice).run .new as = some t) {i : Nat}
    {material : UnlockedKeyMaterial P S R} (hi : (t.keys.cells i).unlocked = some material) :
    ∃ c request key passphrase,
      (∀ d, Installed crates store .fresh d (keyActions crates store fromSlice as) i ↔ d = c) ∧
      .arrive c request ∈ as ∧ store.keys[i]? = some key ∧ key.state = .active ∧
      request.names keyrings key ∧ fromSlice request.body = some ⟨passphrase⟩ ∧ passphrase ≠ "" ∧
      key.decrypt crates passphrase = .ok material := by
  obtain ⟨c, request, key, passphrase, hin, hopened⟩ :=
    opened_by_request (KeyStore.wellFormed_of_ok hstore) hrun hi
  refine ⟨c, request, key, passphrase, fun d => ⟨fun hd => ?_, ?_⟩, hopened⟩
  · exact installed_unique (run_keys hrun) hd hin
  · rintro rfl
    exact hin

/-- A keyring whose client disconnects before its keys are unlocked. -/
def exampleDepartedRun : List AdminAct :=
  [.arrive 0 ⟨"01J", .unlockKeyring "firmware-prod", jsonHeaders, unlockBody "correct horse"⟩,
    .acquire 0, .start 0, .work 0, .disconnect 0, .work 0, .work 0, .work 0, .work 0, .work 0,
    .work 0, .work 0, .work 0, .work 0]

theorem departed_client_unlocks : ∃ t material,
    (adminSys exampleCrates exampleKeyStore (readUnlockBody "correct horse")).run .new
      exampleDepartedRun = some t ∧
    t.handlers 0 = .gone ∧ (t.keys.cells 1).unlocked = some material ∧
    ∃ c request key passphrase, .arrive c request ∈ exampleDepartedRun ∧
      exampleKeyStore.keys[1]? = some key ∧ request.names exampleKeyrings key ∧
      key.decrypt exampleCrates passphrase = .ok material := by
  obtain ⟨t, material, hrun, hgone, hi⟩ : ∃ t material,
      (adminSys exampleCrates exampleKeyStore (readUnlockBody "correct horse")).run .new
        exampleDepartedRun = some t ∧
      t.handlers 0 = .gone ∧ (t.keys.cells 1).unlocked = some material :=
    ⟨_, _, rfl, rfl, rfl⟩
  obtain ⟨c, request, key, passphrase, -, harrived, hk, -, hnames, -, -, hd⟩ :=
    unlocked_by_request exampleKeyStore_ok hrun hi
  exact ⟨t, material, hrun, hgone, hi, c, request, key, passphrase, harrived, hk, hnames, hd⟩

end Runs

end MicrotunSigner
