import MicrotunSigner.Api.Audit
import MicrotunSigner.Config
import MicrotunSigner.Key.UnlockFailures

/-!
# Unlocking a keyring (`api.rs`, `main.rs`)

The handler `unlock_keyring` of the admin API, from the answer of the key store to the error that
the command prints (`response_error`). A failure on members that the passphrase did not open names
them if it opened another one, and `invalid-key-passphrase`, the answer to a passphrase that opens
none, names nobody (`unlock_keyring_names_iff`).

`fromSlice` is the JSON parser of the `serde_json` crate. An error body that arrives is read as it was
written: the writer leaves out the field `keys` if it is empty, and the reader takes an empty list
for it.
-/

namespace MicrotunSigner

open Lib Lib.Text

structure UnlockRequest where
  passphrase : String

/-- The body of an error response. -/
structure ErrorBody where
  error : String
  requestId : String
  keys : List String
  deriving DecidableEq

structure KeyringUnlockKey where
  keyId : String
  result : String

structure KeyringUnlockResponse where
  keyring : String
  keys : List KeyringUnlockKey

def KeyringMemberResult.asStr : KeyringMemberResult → String
  | .unlocked => "unlocked"
  | .alreadyUnlocked => "already-unlocked"
  | .skippedInactive => "skipped-inactive"

def KeyringUnlockKey.ofOutcome (outcome : KeyringMemberOutcome) : KeyringUnlockKey :=
  ⟨outcome.keyId, outcome.result.asStr⟩

namespace ApiError

def withKeys (self : ApiError) (keys : List String) : ApiError := { self with keys }

/-- The body of `into_response`. -/
def body (self : ApiError) : ErrorBody := ⟨self.slug, self.requestId, self.keys⟩

end ApiError

/-! ## The handler -/

def requireJsonUnlockRequest (headers : HeaderMap) (requestId : String) : Except ApiError Unit :=
  bailIf (!isJsonContentType headers) (.new .unsupportedMediaType "unsupported-content-type"
    "Unsupported content type" "Unlock requests must use Content-Type: application/json." requestId)

def parseUnlockRequest (fromSlice : List UInt8 → Option UnlockRequest) (body : List UInt8)
    (requestId : String) : Except ApiError String := do
  let request ← okOr (fromSlice body) (.new .badRequest "malformed-json"
    "Malformed unlock request"
    "The request body must contain a JSON string field named passphrase." requestId)
  bailIf (isEmpty request.passphrase) (.new .badRequest "empty-passphrase"
    "Signing key passphrase is empty" "The unlock passphrase must not be empty." requestId)
  return request.passphrase

def unknownKeyringError (requestId : String) : ApiError :=
  .new .notFound "unknown-keyring" "Unknown keyring"
    "No configured signing key belongs to the requested keyring." requestId

def keyringUnlockTaskFailed (requestId : String) : ApiError :=
  .new .internalServerError "key-unlock-failure" "Keyring unlock failed"
    "The keyring could not be unlocked due to an internal error." requestId

/-- The answer to each error of the key store. -/
def keyringUnlockError (error : KeyringUnlockError) (requestId : String) : ApiError :=
  match error with
  | .unknownKeyring => unknownKeyringError requestId
  | .noActiveKeys => .new .conflict "keyring-has-no-active-keys" "Keyring has no active keys"
      "Only active signing keys can be unlocked, and this keyring has none." requestId
  | .invalidPassphrase => .new .forbidden "invalid-key-passphrase" "Keyring unlock failed"
      "The supplied passphrase did not unlock any key in the keyring." requestId
  | .passphraseMismatch _ failed =>
    (ApiError.new .conflict "keyring-passphrase-mismatch" "Keyring passphrase mismatch"
      "The passphrase unlocked some keys in the keyring but not others, so none were unlocked."
      requestId).withKeys failed
  | .lockPoisoned => .new .internalServerError "key-lock-failure" "Signing key lock failed"
      "The keyring could not be unlocked due to an internal state error." requestId

/-- `task` is the blocking task that runs the store's `unlock_keyring` with a passphrase; `none` if
it is not run to its end. -/
def unlockKeyring (fromSlice : List UInt8 → Option UnlockRequest) (store : KeyStore)
    (requestId keyring : String) (headers : HeaderMap) (body : List UInt8)
    (task : String → Option (Except KeyringUnlockError (List KeyringMemberOutcome))) :
    Except ApiError KeyringUnlockResponse := do
  requireJsonUnlockRequest headers requestId
  bailIf (!validKeyringName keyring || !store.hasKeyring keyring) (unknownKeyringError requestId)
  let passphrase ← parseUnlockRequest fromSlice body requestId
  let unlockResult ← okOr (task passphrase) (keyringUnlockTaskFailed requestId)
  let outcomes ← unlockResult.mapError fun error => keyringUnlockError error requestId
  return ⟨keyring, outcomes.map .ofOutcome⟩

/-- What the command prints of an error response: its body, if it is an error body, or the error in
reading it. -/
def responseError (status : String) (body : Except String (Option ErrorBody)) (action : String) :
    String :=
  match body with
  | .ok (some problem) =>
    let keys := ", ".intercalate problem.keys
    if !problem.keys.isEmpty then
      s!"{action} failed: {problem.error} for key(s) {keys} (request {problem.requestId})"
    else s!"{action} failed: {problem.error} (request {problem.requestId})"
  | .ok none => s!"{action} failed with HTTP status {status}"
  | .error error => s!"{action} failed with HTTP status {status}: {error}"

/-! ## Whom an error names -/

section Names

variable {P S R : Type} {keyCrates : KeyCrates P S R} {store : KeyStore}
  {keyrings : List KeyringConfig} {s t : KeySt P S R} {as : List KeyAct} {c : Nat}
  {name passphrase requestId status : String} {fromSlice : List UInt8 → Option UnlockRequest}

/-- The error and what the command prints of it name exactly the members with the property
`unopened`, in the order of the keyring. -/
structure NamesMembers (store : KeyStore) (name : String) (unopened : Nat → Prop) (status : String)
    (error : ApiError) : Prop where
  keys : error.keys = store.idsWhere unopened (store.keyringMembers name)
  mem_iff : ∀ i ∈ store.keyringMembers name, store.idAt i ∈ error.keys ↔ unopened i
  printed : responseError status (.ok (some error.body)) "unlock" =
    "unlock failed: " ++ error.slug ++ " for key(s) " ++ ", ".intercalate error.keys ++
      " (request " ++ error.requestId ++ ")"

/-- The refusal of a passphrase that opens nothing, and what the command prints of it. -/
structure NamesNobody (status : String) (error : ApiError) : Prop where
  forbidden : error.status = .forbidden
  slug : error.slug = "invalid-key-passphrase"
  keys : error.keys = []
  printed : responseError status (.ok (some error.body)) "unlock" =
    "unlock failed: " ++ error.slug ++ " (request " ++ error.requestId ++ ")"

theorem mem_idsWhere (hw : store.WellFormed keyrings) {p : Nat → Prop} {i : Nat}
    (hi : i ∈ store.keyringMembers name) :
    store.idAt i ∈ store.idsWhere p (store.keyringMembers name) ↔ p i := by
  unfold KeyStore.idsWhere
  rw [List.mem_map]
  constructor
  · rintro ⟨j, hj, he⟩
    obtain ⟨hj, hp⟩ := List.mem_filter.mp hj
    rw [← List.inj_on_of_nodup_map (memberIds_nodup hw name) hj hi he]
    simpa using hp
  · intro hp
    exact ⟨i, List.mem_filter.mpr ⟨hi, by simpa using hp⟩, rfl⟩

/-- The ids that the response carries are those that the command prints. -/
theorem responseError_keys {error : ApiError} (hk : error.keys ≠ []) :
    responseError status (.ok (some error.body)) "unlock" =
      "unlock failed: " ++ error.slug ++ " for key(s) " ++ ", ".intercalate error.keys ++
        " (request " ++ error.requestId ++ ")" := by
  unfold responseError
  dsimp only
  rw [if_pos (by simpa [ApiError.body] using hk)]
  rfl

/-- A request that reaches the store is answered by what the store returns. -/
theorem unlockKeyring_error {headers : HeaderMap} {body : List UInt8}
    (hjson : isJsonContentType headers = true) (hname : validKeyringName name = true)
    (hmem : store.keyringMembers name ≠ []) (hbody : fromSlice body = some ⟨passphrase⟩)
    (hne : passphrase ≠ "") (e : KeyringUnlockError) :
    unlockKeyring fromSlice store requestId name headers body (fun _ => some (.error e)) =
      .error (keyringUnlockError e requestId) := by
  have hhas : store.hasKeyring name = true := by
    unfold KeyStore.hasKeyring
    unfold KeyStore.keyringMembers at hmem
    cases hl : store.keyrings.lookup name with
    | none => simp [hl] at hmem
    | some members => rfl
  have hparse : parseUnlockRequest fromSlice body requestId = .ok passphrase := by
    unfold parseUnlockRequest
    simp only [Except.bind_eq_ok, okOr_eq_ok, bailIf_eq_ok, hbody, isEmpty_eq_false]
    exact ⟨_, rfl, (), hne, rfl⟩
  unfold unlockKeyring requireJsonUnlockRequest
  simp only [hjson, hname, hhas, hparse]
  rfl

/-- What the store answers to a call that has found a locked, active member it did not open. -/
theorem unopened_error (hw : store.WellFormed keyrings) (h0 : s.Rested)
    (hrun : (store.sys keyCrates).run s as = some t)
    {result : Except KeyringUnlockError (List KeyringMemberOutcome)}
    (hdone : t.calls c = .done (.unlockKeyring name passphrase) (.unlockKeyring result))
    (hfail : ∃ i ∈ store.keyringMembers name,
      Found keyCrates store s c as i ∧ store.opens keyCrates passphrase i = false) :
    (result = .error .invalidPassphrase ∧ ¬ ∃ i ∈ store.keyringMembers name,
      Found keyCrates store s c as i ∧ store.opens keyCrates passphrase i = true) ∨
    ∃ opened, result = .error (.passphraseMismatch opened (store.idsWhere
        (fun i => Found keyCrates store s c as i ∧ store.opens keyCrates passphrase i = false)
        (store.keyringMembers name))) ∧
      ∃ i ∈ store.keyringMembers name,
        Found keyCrates store s c as i ∧ store.opens keyCrates passphrase i = true := by
  have hret := keyring_failure hw h0 hrun hdone
  obtain ⟨i, hi, hfound, hclosed⟩ := hfail
  -- A call that returned anything else has opened all that it found locked.
  have hopen : ¬ ∀ i, Found keyCrates store s c as i → store.opens keyCrates passphrase i = true :=
    fun h => by
      have ho := h i hfound
      rw [hclosed] at ho
      cases ho
  cases result with
  | ok outcomes => exact absurd hret hopen
  | error e =>
    cases e with
    | unknownKeyring => exact absurd hret hopen
    | noActiveKeys => exact absurd hret hopen
    | lockPoisoned => exact absurd hret hopen
    | invalidPassphrase =>
      refine .inl ⟨rfl, ?_⟩
      rintro ⟨j, hj, hp⟩
      exact idsWhere_eq_nil.mp hret.1 j hj hp
    | passphraseMismatch opened failed =>
      obtain ⟨hopened, -, rfl, rfl⟩ := hret
      exact .inr ⟨_, rfl, idsWhere_ne_nil.mp hopened⟩

/-- **The members that did not match.** When a request fails since a locked, active member was not
opened, its error names exactly these members iff the passphrase opened another one. If it opened
none, the passphrase is invalid and the error names nobody. -/
theorem unlock_keyring_names_iff {keys : List KeyMaterial}
    (hstore : KeyStore.fromKeys keys keyrings = .ok store) (h0 : s.Rested)
    (hrun : (store.sys keyCrates).run s as = some t)
    {result : Except KeyringUnlockError (List KeyringMemberOutcome)}
    (hdone : t.calls c = .done (.unlockKeyring name passphrase) (.unlockKeyring result))
    (hfail : ∃ i ∈ store.keyringMembers name,
      Found keyCrates store s c as i ∧ store.opens keyCrates passphrase i = false)
    {headers : HeaderMap} {body : List UInt8} (hjson : isJsonContentType headers = true)
    (hname : validKeyringName name = true) (hbody : fromSlice body = some ⟨passphrase⟩)
    (hne : passphrase ≠ "") :
    ((∃ error, unlockKeyring fromSlice store requestId name headers body (fun _ => some result) =
        .error error ∧
      NamesMembers store name (fun i => Found keyCrates store s c as i ∧
        store.opens keyCrates passphrase i = false) status error) ↔
    ∃ i ∈ store.keyringMembers name,
      Found keyCrates store s c as i ∧ store.opens keyCrates passphrase i = true) ∧
    ((¬ ∃ i ∈ store.keyringMembers name,
        Found keyCrates store s c as i ∧ store.opens keyCrates passphrase i = true) →
      ∃ error, unlockKeyring fromSlice store requestId name headers body (fun _ => some result) =
        .error error ∧ NamesNobody status error) := by
  have hw := KeyStore.wellFormed_of_ok hstore
  obtain ⟨i, hi, hunopened⟩ := hfail
  have hmem : store.keyringMembers name ≠ [] := List.ne_nil_of_mem hi
  have hfailed : store.idsWhere (fun i => Found keyCrates store s c as i ∧
      store.opens keyCrates passphrase i = false) (store.keyringMembers name) ≠ [] :=
    idsWhere_ne_nil.mpr ⟨i, hi, hunopened⟩
  rcases unopened_error hw h0 hrun hdone ⟨i, hi, hunopened⟩ with
    ⟨rfl, hnone⟩ | ⟨opened, rfl, hsome⟩
  · rw [unlockKeyring_error hjson hname hmem hbody hne]
    refine ⟨⟨?_, fun hsome => absurd hsome hnone⟩, fun _ => ⟨_, rfl, rfl, rfl, rfl, rfl⟩⟩
    rintro ⟨error, he, hnames⟩
    cases he
    exact absurd hnames.keys.symm hfailed
  · rw [unlockKeyring_error hjson hname hmem hbody hne]
    refine ⟨⟨fun _ => hsome, fun _ => ⟨_, rfl, ⟨rfl, fun j hj => mem_idsWhere hw hj, ?_⟩⟩⟩,
      fun hnone => absurd hsome hnone⟩
    exact responseError_keys hfailed

/-! ## Two passphrases -/

/-- A crate that opens each key with its PEM text. -/
def ownCrate : SigningCrate String where
  fromPkcs8EncryptedPem pem passphrase :=
    if passphrase = pem.toByteArray.data.toList then some pem else none
  toPublicKeyPem key := some key
  signPrehash _ _ digest := some digest.toList

def ownCrates : KeyCrates String String String := ⟨ownCrate, ownCrate, ownCrate⟩

/-- One call on the keyring of the example store, of which two members are active. -/
def unlockRun (passphrase : String) : List KeyAct :=
  .start 0 (.unlockKeyring "firmware-prod" passphrase) :: List.replicate 6 (.run 0)

def jsonHeaders : HeaderMap := ⟨none, some "application/json".toByteArray.data.toList⟩

/-- The request with the passphrase, and a parser that reads it. -/
def unlockBody (passphrase : String) : List UInt8 :=
  ("\x7b\"passphrase\":\"" ++ passphrase ++ "\"\x7d").toByteArray.data.toList

def readUnlockBody (passphrase : String) (body : List UInt8) : Option UnlockRequest :=
  if body = unlockBody passphrase then some ⟨passphrase⟩ else none

theorem readUnlockBody_ok (passphrase : String) :
    readUnlockBody passphrase (unlockBody passphrase) = some ⟨passphrase⟩ := if_pos rfl

theorem jsonHeaders_ok : isJsonContentType jsonHeaders = true := by decide

/-- The passphrase of one member names the other. -/
theorem unlock_keyring_names_next : ∃ t result error,
    (exampleKeyStore.sys ownCrates).run .fresh (unlockRun "PEM1") = some t ∧
    t.calls 0 = .done (.unlockKeyring "firmware-prod" "PEM1") (.unlockKeyring result) ∧
    unlockKeyring (readUnlockBody "PEM1") exampleKeyStore "01J" "firmware-prod" jsonHeaders
      (unlockBody "PEM1") (fun _ => some result) = .error error ∧
    NamesMembers exampleKeyStore "firmware-prod"
      (fun i => Found ownCrates exampleKeyStore .fresh 0 (unlockRun "PEM1") i ∧
        exampleKeyStore.opens ownCrates "PEM1" i = false) "409 Conflict" error := by
  obtain ⟨t, hrun, hdone⟩ : ∃ t, (exampleKeyStore.sys ownCrates).run .fresh (unlockRun "PEM1") =
      some t ∧ t.calls 0 = .done (.unlockKeyring "firmware-prod" "PEM1") (.unlockKeyring
        (.error (.passphraseMismatch ["microtun-firmware-prod"] ["microtun-firmware-next"]))) :=
    ⟨_, rfl, rfl⟩
  obtain ⟨hopened, hfailed, ho, hf⟩ :=
    keyring_failure (KeyStore.wellFormed_of_ok exampleKeyStore_ok) fresh_rested hrun hdone
  rw [ho] at hopened
  rw [hf] at hfailed
  obtain ⟨error, he, hnames⟩ := (unlock_keyring_names_iff exampleKeyStore_ok fresh_rested hrun hdone
    (idsWhere_ne_nil.mp hfailed) jsonHeaders_ok (by decide) (readUnlockBody_ok _)
    (by decide)).1.mpr
    (idsWhere_ne_nil.mp hopened)
  exact ⟨t, _, error, hrun, hdone, he, hnames⟩

/-- A passphrase of no member: two locked, active members did not match, and the error names none. -/
theorem wrong_passphrase_unnamed : ∃ t result,
    (exampleKeyStore.sys ownCrates).run .fresh (unlockRun "PEM0") = some t ∧
    t.calls 0 = .done (.unlockKeyring "firmware-prod" "PEM0") (.unlockKeyring result) ∧
    (∃ i ∈ exampleKeyStore.keyringMembers "firmware-prod",
      Found ownCrates exampleKeyStore .fresh 0 (unlockRun "PEM0") i ∧
        exampleKeyStore.opens ownCrates "PEM0" i = false) ∧
    ¬ ∃ error, unlockKeyring (readUnlockBody "PEM0") exampleKeyStore "01J" "firmware-prod"
        jsonHeaders (unlockBody "PEM0") (fun _ => some result) = .error error ∧
      NamesMembers exampleKeyStore "firmware-prod"
        (fun i => Found ownCrates exampleKeyStore .fresh 0 (unlockRun "PEM0") i ∧
          exampleKeyStore.opens ownCrates "PEM0" i = false) "403 Forbidden" error := by
  obtain ⟨t, hrun, hdone⟩ : ∃ t, (exampleKeyStore.sys ownCrates).run .fresh (unlockRun "PEM0") =
      some t ∧ t.calls 0 = .done (.unlockKeyring "firmware-prod" "PEM0") (.unlockKeyring
        (.error .invalidPassphrase)) := ⟨_, rfl, rfl⟩
  obtain ⟨-, hfailed⟩ :=
    keyring_failure (KeyStore.wellFormed_of_ok exampleKeyStore_ok) fresh_rested hrun hdone
  refine ⟨t, _, hrun, hdone, idsWhere_ne_nil.mp hfailed, ?_⟩
  rintro ⟨error, he, hnames⟩
  have hne : ("PEM0" : String) ≠ "" := by decide
  rw [unlockKeyring_error jsonHeaders_ok (by decide) (by decide) (readUnlockBody_ok _) hne] at he
  cases he
  exact hfailed hnames.keys.symm

end Names

end MicrotunSigner
