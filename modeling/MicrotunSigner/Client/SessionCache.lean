import MicrotunSigner.Auth.SessionHistory

/-!
# The session cache of the client (`session_cache.rs`)

One file for each signer URL, under the SHA-256 digest of the URL, that holds the last session of
that signer and its expiry. `load`, `store` and `remove` are functions on the files: the cache
directory is there, no file operation fails, and nothing else writes the files.

`Holds` couples the file of a URL with the last write on that URL. A file is missing also after a
`load` that found its session close to its end; it would not be returned later either. So a load
answers by the last write alone (`load_iff`), and the session it returns is one that the server
still holds (`server_holds`): the margin covers the time that the response took, and the seconds
that both ends round.
-/

namespace MicrotunSigner

open Lib Lib.Text

def cacheVersion : Nat := 1
def maxSessionTokenBytes : Nat := 16 * 1024
def expirySafetyMarginSeconds : Nat := 30

/-- The timeout of a request (`public_api_client`). -/
def requestTimeout : Nat := Duration.fromSecs 30

structure CachedSession where
  version : Nat
  accessToken : String
  expiresAt : Nat
  deriving DecidableEq

structure CacheMetadata where
  isFile : Bool
  uid : Nat
  /-- The permission bits. -/
  mode : Nat

structure CacheFile where
  metadata : CacheMetadata
  body : String

/-- The files, by their path. -/
abbrev CacheFiles := Map String CacheFile

/-- The environment of the client: the directory of the cache, its user, SHA-256 and the JSON of a
cached session. -/
structure CacheEnv where
  cacheRoot : Option String
  geteuid : Nat
  sha256 : List UInt8 → Sha256Digest
  toJson : CachedSession → String
  fromJson : String → Option CachedSession

def validSessionToken (token : String) : Bool :=
  startsWith token sessionTokenPrefix && len token ≤ maxSessionTokenBytes &&
    !token.toList.any isWhitespace

def unixTimeSeconds (wall : Int) : Except String Nat :=
  if wall < 0 then .error "system clock is before the Unix epoch" else .ok (unixSeconds wall)

namespace CacheEnv

variable (env : CacheEnv)

/-- The path of the file under the directory `root`. -/
def pathIn (root signerBaseUrl : String) : String :=
  root ++ "/" ++ hexEncode (env.sha256 signerBaseUrl.toByteArray.data.toList).toList ++ ".json"

def sessionPath (signerBaseUrl : String) : Option String :=
  env.cacheRoot.map fun root => env.pathIn root signerBaseUrl

def cacheFileIsPrivate (metadata : CacheMetadata) : Bool :=
  metadata.isFile && metadata.uid == env.geteuid && metadata.mode &&& 0x3f == 0

def load (wall : Int) (signerBaseUrl : String) (files : CacheFiles) :
    Except String (Option String) × CacheFiles :=
  match env.sessionPath signerBaseUrl with
  | none => (.ok none, files)
  | some path =>
    match files.lookup path with
    | none => (.ok none, files)
    | some file =>
      if !env.cacheFileIsPrivate file.metadata then (.ok none, files.erase path)
      else match env.fromJson file.body with
      | none => (.ok none, files.erase path)
      | some cached =>
        match unixTimeSeconds wall with
        | .error e => (.error e, files)
        | .ok now =>
          if cached.version ≠ cacheVersion ∨ !validSessionToken cached.accessToken ∨
              cached.expiresAt ≤ saturatingAdd now expirySafetyMarginSeconds then
            (.ok none, files.erase path)
          else (.ok (some cached.accessToken), files)

/-- The file that `store` commits, with the mode `0600`. -/
def newFile (accessToken : String) (expiresAt : Nat) : CacheFile where
  metadata := ⟨true, env.geteuid, 0x180⟩
  body := env.toJson ⟨cacheVersion, accessToken, expiresAt⟩

def store (wall : Int) (signerBaseUrl accessToken : String) (expiresIn : Nat) (files : CacheFiles) :
    Except String Bool × CacheFiles :=
  if !validSessionToken accessToken ∨ expiresIn = 0 then (.ok false, files)
  else match env.sessionPath signerBaseUrl with
  | none => (.ok false, files)
  | some path =>
    match unixTimeSeconds wall with
    | .error e => (.error e, files)
    | .ok now =>
      (.ok true, files.insert path (env.newFile accessToken (saturatingAdd now expiresIn)))

def remove (signerBaseUrl : String) (files : CacheFiles) : Except String Unit × CacheFiles :=
  match env.sessionPath signerBaseUrl with
  | none => (.ok (), files)
  | some path => (.ok (), files.erase path)

end CacheEnv

/-! ## Sequences of operations -/

/-- An operation, with the reading of the wall clock. -/
inductive CacheOp where
  | load (wall : Int) (url : String)
  | store (wall : Int) (url token : String) (expiresIn : Nat)
  | remove (wall : Int) (url : String)

namespace CacheOp

def wall : CacheOp → Int
  | .load wall _ | .store wall _ _ _ | .remove wall _ => wall

def url : CacheOp → String
  | .load _ url | .store _ url _ _ | .remove _ url => url

end CacheOp

/-- A session that was stored. -/
structure StoredSession where
  token : String
  wall : Int
  expiresIn : Nat
  deriving DecidableEq

def CacheEnv.applyOp (env : CacheEnv) (files : CacheFiles) : CacheOp → CacheFiles
  | .load wall url => (env.load wall url files).2
  | .store wall url token expiresIn => (env.store wall url token expiresIn files).2
  | .remove _ url => (env.remove url files).2

/-- The files after the operations, from an empty cache. -/
def CacheEnv.filesAfter (env : CacheEnv) (ops : List CacheOp) : CacheFiles :=
  ops.foldl env.applyOp Map.empty

/-- What an operation writes on `url`: a session (of a valid token, for a time, by a clock after the
epoch), or none. -/
def CacheOp.writes (url : String) : CacheOp → Option (Option StoredSession)
  | .load _ _ => none
  | .store wall url' token expiresIn =>
    if url' = url ∧ validSessionToken token = true ∧ expiresIn ≠ 0 ∧ 0 ≤ wall then
      some (some ⟨token, wall, expiresIn⟩)
    else none
  | .remove _ url' => if url' = url then some none else none

/-- The session of the last store on `url`, if no later operation removed it. -/
def lastStored (url : String) (ops : List CacheOp) : Option StoredSession :=
  (ops.filterMap (CacheOp.writes url)).getLast?.join

/-- The entry that a store writes. -/
def StoredSession.cached (w : StoredSession) : CachedSession :=
  ⟨cacheVersion, w.token, saturatingAdd (unixSeconds w.wall) w.expiresIn⟩

/-- The wall clock does not decrease and shows times that it can represent, SHA-256 tells the URLs of
the sequence apart, and the JSON of a session that is stored is read back. -/
structure CacheEnv.Assumed (env : CacheEnv) (ops : List CacheOp) : Prop where
  clock : ops.Pairwise fun a b => a.wall ≤ b.wall
  range : ∀ op ∈ ops, op.wall < 2 ^ 63 * (nanos : Int)
  collisionFree : ∀ a ∈ ops, ∀ b ∈ ops, env.sha256 a.url.toByteArray.data.toList =
    env.sha256 b.url.toByteArray.data.toList → a.url = b.url
  json : ∀ wall url token expiresIn, CacheOp.store wall url token expiresIn ∈ ops →
    env.fromJson (env.toJson (StoredSession.cached ⟨token, wall, expiresIn⟩)) =
      some (StoredSession.cached ⟨token, wall, expiresIn⟩)

section Sequences

variable {env : CacheEnv} {root path url url' token : String} {wall now : Int}
  {files files' : CacheFiles} {ops : List CacheOp} {op : CacheOp} {last : Option StoredSession}
  {w : StoredSession}

theorem filesAfter_snoc (env : CacheEnv) (ops : List CacheOp) (op : CacheOp) :
    env.filesAfter (ops ++ [op]) = env.applyOp (env.filesAfter ops) op := by
  unfold CacheEnv.filesAfter
  rw [List.foldl_append]
  rfl

theorem lastStored_snoc (url : String) (ops : List CacheOp) (op : CacheOp) :
    lastStored url (ops ++ [op]) = match op.writes url with
      | none => lastStored url ops
      | some written => written := by
  unfold lastStored
  rw [List.filterMap_append]
  cases hw : op.writes url with
  | none => simp [hw]
  | some written => simp [hw]

/-! ## Seconds -/

theorem unixSeconds_lt (h : wall < 2 ^ 63 * (nanos : Int)) : unixSeconds wall < 2 ^ 63 := by
  unfold unixSeconds nanos at *
  omega

/-- Far from the end of the 64-bit seconds, the sums that saturate compare like sums. -/
theorem expired_iff (h : wall < 2 ^ 63 * (nanos : Int)) (s expiresIn : Nat) :
    saturatingAdd s expiresIn ≤ saturatingAdd (unixSeconds wall) expirySafetyMarginSeconds ↔
      s + expiresIn ≤ unixSeconds wall + expirySafetyMarginSeconds := by
  have hlt := unixSeconds_lt h
  unfold saturatingAdd u64Max expirySafetyMarginSeconds
  omega

/-! ## The files of the URLs -/

/-- Different digests, different files. -/
theorem pathIn_inj (h : env.pathIn root url = env.pathIn root url') :
    env.sha256 url.toByteArray.data.toList = env.sha256 url'.toByteArray.data.toList := by
  unfold CacheEnv.pathIn at h
  have hhex : hexEncode (env.sha256 url.toByteArray.data.toList).toList =
      hexEncode (env.sha256 url'.toByteArray.data.toList).toList := by simpa using h
  exact Vector.toList_inj.mp (hexEncode_inj hhex)

theorem sessionPath_eq (hroot : env.cacheRoot = some root) (url : String) :
    env.sessionPath url = some (env.pathIn root url) := by
  unfold CacheEnv.sessionPath
  rw [hroot, Option.map_some]

/-- A store that succeeds writes the file of its URL; else it leaves the files. -/
theorem store_files (hroot : env.cacheRoot = some root) (wall : Int) (url token : String)
    (expiresIn : Nat) (files : CacheFiles) :
    (env.store wall url token expiresIn files).2 =
      if validSessionToken token = true ∧ expiresIn ≠ 0 ∧ 0 ≤ wall then
        files.insert (env.pathIn root url)
          (env.newFile token (saturatingAdd (unixSeconds wall) expiresIn))
      else files := by
  unfold CacheEnv.store unixTimeSeconds
  rw [sessionPath_eq hroot]
  by_cases hv : validSessionToken token = true <;> by_cases he : expiresIn = 0 <;>
    by_cases hw : wall < 0 <;> simp [hv, he, hw, Int.not_le.mpr, Int.not_lt.mp]

theorem remove_files (hroot : env.cacheRoot = some root) (url : String) (files : CacheFiles) :
    (env.remove url files).2 = files.erase (env.pathIn root url) := by
  unfold CacheEnv.remove
  rw [sessionPath_eq hroot]

/-- A load leaves the files, or removes the file of its URL: which, and what it answers, depends on
that file alone. -/
theorem load_cases (hroot : env.cacheRoot = some root) (wall : Int) (url : String)
    (files files' : CacheFiles)
    (h : files.lookup (env.pathIn root url) = files'.lookup (env.pathIn root url)) :
    (env.load wall url files).1 = (env.load wall url files').1 ∧
    ((env.load wall url files).2 = files ∧ (env.load wall url files').2 = files' ∨
      (env.load wall url files).2 = files.erase (env.pathIn root url) ∧
      (env.load wall url files').2 = files'.erase (env.pathIn root url)) := by
  unfold CacheEnv.load
  rw [sessionPath_eq hroot]
  dsimp only
  rw [← h]
  split
  · exact ⟨rfl, .inl ⟨rfl, rfl⟩⟩
  split
  · exact ⟨rfl, .inr ⟨rfl, rfl⟩⟩
  split
  · exact ⟨rfl, .inr ⟨rfl, rfl⟩⟩
  split
  · exact ⟨rfl, .inl ⟨rfl, rfl⟩⟩
  split
  · exact ⟨rfl, .inr ⟨rfl, rfl⟩⟩
  · exact ⟨rfl, .inl ⟨rfl, rfl⟩⟩

/-- An operation on another file leaves a file alone. -/
theorem lookup_applyOp_other (hroot : env.cacheRoot = some root)
    (h : path ≠ env.pathIn root op.url) :
    (env.applyOp files op).lookup path = files.lookup path := by
  cases op with
  | load wall url =>
    dsimp only [CacheEnv.applyOp, CacheOp.url] at h ⊢
    rcases (load_cases hroot wall url files files rfl).2 with ⟨he, -⟩ | ⟨he, -⟩
    · rw [he]
    · rw [he, Map.lookup_erase, if_neg h]
  | store wall url token expiresIn =>
    dsimp only [CacheEnv.applyOp, CacheOp.url] at h ⊢
    rw [store_files hroot]
    split
    · rw [Map.lookup_insert, if_neg h]
    · rfl
  | remove wall url =>
    dsimp only [CacheEnv.applyOp, CacheOp.url] at h ⊢
    rw [remove_files hroot, Map.lookup_erase, if_neg h]

/-- What an operation does to the file of its URL depends on that file alone. -/
theorem lookup_applyOp_congr (hroot : env.cacheRoot = some root) (hpath : path = env.pathIn root op.url)
    (h : files.lookup path = files'.lookup path) :
    (env.applyOp files op).lookup path = (env.applyOp files' op).lookup path := by
  subst hpath
  cases op with
  | load wall url =>
    dsimp only [CacheEnv.applyOp, CacheOp.url] at h ⊢
    rcases (load_cases hroot wall url files files' h).2 with ⟨he, he'⟩ | ⟨he, he'⟩
    · rw [he, he', h]
    · rw [he, he', Map.lookup_erase, Map.lookup_erase, if_pos rfl, if_pos rfl]
  | store wall url token expiresIn =>
    dsimp only [CacheEnv.applyOp, CacheOp.url] at h ⊢
    rw [store_files hroot, store_files hroot]
    split
    · rw [Map.lookup_insert, Map.lookup_insert, if_pos rfl, if_pos rfl]
    · exact h
  | remove wall url =>
    dsimp only [CacheEnv.applyOp, CacheOp.url] at h ⊢
    rw [remove_files hroot, remove_files hroot, Map.lookup_erase, Map.lookup_erase, if_pos rfl,
      if_pos rfl]

/-- The file of a URL is what the operations on that URL left. -/
theorem lookup_filesAfter_filter (hroot : env.cacheRoot = some root)
    (h : ∀ op ∈ ops, env.pathIn root op.url = env.pathIn root url → op.url = url) :
    (env.filesAfter ops).lookup (env.pathIn root url) =
      (env.filesAfter (ops.filter fun op => op.url == url)).lookup (env.pathIn root url) := by
  induction ops using List.reverseRecOn with
  | nil => rfl
  | append_singleton ops op ih =>
    have ih := ih fun op hm => h op (List.mem_append_left _ hm)
    rw [filesAfter_snoc, List.filter_append]
    by_cases hu : op.url = url
    · rw [List.filter_cons_of_pos (by simpa using hu), List.filter_nil, filesAfter_snoc]
      exact lookup_applyOp_congr hroot (by rw [hu]) ih
    · have hne : env.pathIn root url ≠ env.pathIn root op.url := fun he =>
        hu (h op (List.mem_append_right _ (List.mem_singleton_self _)) he.symm)
      rw [List.filter_cons_of_neg (by simpa using hu), List.filter_nil, List.append_nil,
        lookup_applyOp_other hroot hne, ih]

/-! ## The coupling -/

/-- The file of a URL, at the time `now`, when `last` is the last session stored: it has that
session, or there is none, and the session is too close to its end. -/
def Holds (env : CacheEnv) (path : String) (files : CacheFiles) (last : Option StoredSession)
    (now : Int) : Prop :=
  (∃ w, last = some w ∧ files.lookup path =
    some (env.newFile w.token (saturatingAdd (unixSeconds w.wall) w.expiresIn))) ∨
  (files.lookup path = none ∧ ∀ w, last = some w →
    unixSeconds w.wall + w.expiresIn ≤ unixSeconds now + expirySafetyMarginSeconds)

/-- What a load makes of a file that a store wrote. -/
theorem load_newFile (hroot : env.cacheRoot = some root) (hrange : wall < 2 ^ 63 * (nanos : Int))
    (hv : validSessionToken w.token = true)
    (hjson : env.fromJson (env.toJson w.cached) = some w.cached)
    (hl : files.lookup (env.pathIn root url) =
      some (env.newFile w.token (saturatingAdd (unixSeconds w.wall) w.expiresIn))) :
    env.load wall url files =
      if wall < 0 then (.error "system clock is before the Unix epoch", files)
      else if unixSeconds w.wall + w.expiresIn ≤ unixSeconds wall + expirySafetyMarginSeconds then
        (.ok none, files.erase (env.pathIn root url))
      else (.ok (some w.token), files) := by
  have hprivate : env.cacheFileIsPrivate ⟨true, env.geteuid, 0x180⟩ = true := by
    unfold CacheEnv.cacheFileIsPrivate
    simp
  have hcached : (⟨cacheVersion, w.token, saturatingAdd (unixSeconds w.wall) w.expiresIn⟩ :
      CachedSession) = w.cached := rfl
  unfold CacheEnv.load unixTimeSeconds
  rw [sessionPath_eq hroot]
  dsimp only
  rw [hl]
  dsimp only [CacheEnv.newFile]
  rw [hprivate, hcached, hjson, if_neg (by simp)]
  dsimp only [StoredSession.cached]
  by_cases hw : wall < 0
  · rw [if_pos hw, if_pos hw]
  · rw [if_neg hw, if_neg hw]
    simp only [hv, expired_iff hrange, ne_eq, not_true, Bool.not_true, Bool.false_eq_true, false_or]

/-- A session that was stored is one of a store in the sequence. -/
theorem lastStored_mem (h : lastStored url ops = some w) :
    CacheOp.store w.wall url w.token w.expiresIn ∈ ops ∧ validSessionToken w.token = true ∧
      0 ≤ w.wall := by
  have hw : some w ∈ ops.filterMap (CacheOp.writes url) :=
    List.mem_of_getLast? (Option.join_eq_some_iff.mp h)
  obtain ⟨op, hop, hwrites⟩ := List.mem_filterMap.mp hw
  cases op with
  | load wall url' => cases hwrites
  | remove wall url' =>
    simp only [CacheOp.writes] at hwrites
    split at hwrites <;> cases hwrites
  | store wall url' token expiresIn =>
    simp only [CacheOp.writes] at hwrites
    split at hwrites
    · rename_i hc
      cases hwrites
      exact ⟨hc.1 ▸ hop, hc.2.1, hc.2.2.2⟩
    · cases hwrites

theorem load_missing (hroot : env.cacheRoot = some root)
    (hl : files.lookup (env.pathIn root url) = none) : env.load wall url files = (.ok none, files) := by
  unfold CacheEnv.load
  rw [sessionPath_eq hroot]
  dsimp only
  rw [hl]

theorem writes_other (h : op.url ≠ url) : op.writes url = none := by
  cases op with
  | load wall url' => rfl
  | store wall url' token expiresIn => exact if_neg fun hc => h hc.1
  | remove wall url' => exact if_neg h

theorem Holds.later {now' : Int} (h : Holds env path files last now) (hle : now ≤ now') :
    Holds env path files last now' := by
  refine h.imp_right fun ⟨hl, hw⟩ => ⟨hl, fun w hlast => ?_⟩
  have hw := hw w hlast
  unfold unixSeconds nanos at hw ⊢
  omega

theorem CacheEnv.Assumed.init (h : env.Assumed (ops ++ [op])) : env.Assumed ops where
  clock := (List.pairwise_append.mp h.clock).1
  range := fun a ha => h.range a (List.mem_append_left _ ha)
  collisionFree := fun a ha b hb =>
    h.collisionFree a (List.mem_append_left _ ha) b (List.mem_append_left _ hb)
  json := fun wall url token expiresIn hm =>
    h.json wall url token expiresIn (List.mem_append_left _ hm)

theorem CacheEnv.Assumed.le (h : env.Assumed (ops ++ [op])) : ∀ a ∈ ops, a.wall ≤ op.wall :=
  fun a ha => (List.pairwise_append.mp h.clock).2.2 a ha op (List.mem_singleton_self _)

/-- An operation on the URL keeps the coupling, with the session that it writes. -/
theorem Holds.step (hroot : env.cacheRoot = some root) (hrange : op.wall < 2 ^ 63 * (nanos : Int))
    (hlast : ∀ w, last = some w → validSessionToken w.token = true ∧
      env.fromJson (env.toJson w.cached) = some w.cached)
    (h : Holds env (env.pathIn root op.url) files last op.wall) :
    Holds env (env.pathIn root op.url) (env.applyOp files op)
      (match op.writes op.url with | none => last | some written => written) op.wall := by
  cases op with
  | load wall url =>
    dsimp only [CacheEnv.applyOp, CacheOp.writes, CacheOp.wall, CacheOp.url] at hrange h ⊢
    rcases h with ⟨w, hw, hl⟩ | ⟨hl, hdead⟩
    · obtain ⟨hv, hjson⟩ := hlast w hw
      rw [load_newFile hroot hrange hv hjson hl]
      split
      · exact .inl ⟨w, hw, hl⟩
      split
      · rename_i hend
        refine .inr ⟨by rw [Map.lookup_erase, if_pos rfl], fun w' hw' => ?_⟩
        cases hw.symm.trans hw'
        exact hend
      · exact .inl ⟨w, hw, hl⟩
    · rw [load_missing hroot hl]
      exact .inr ⟨hl, hdead⟩
  | store wall url token expiresIn =>
    dsimp only [CacheEnv.applyOp, CacheOp.writes, CacheOp.wall, CacheOp.url] at h ⊢
    rw [store_files hroot]
    by_cases hc : validSessionToken token = true ∧ expiresIn ≠ 0 ∧ 0 ≤ wall
    · rw [if_pos hc, if_pos ⟨rfl, hc⟩]
      refine .inl ⟨⟨token, wall, expiresIn⟩, rfl, ?_⟩
      rw [Map.lookup_insert, if_pos rfl]
    · rw [if_neg hc, if_neg fun hc' => hc hc'.2]
      exact h
  | remove wall url =>
    dsimp only [CacheEnv.applyOp, CacheOp.writes, CacheOp.wall, CacheOp.url] at h ⊢
    rw [remove_files hroot, if_pos rfl]
    refine .inr ⟨by rw [Map.lookup_erase, if_pos rfl], fun w hw => nomatch hw⟩

/-- **The coupling holds after every sequence.** -/
theorem filesAfter_holds (hroot : env.cacheRoot = some root) (h : env.Assumed ops)
    (hurl : ∀ op ∈ ops, env.pathIn root op.url = env.pathIn root url → op.url = url)
    (hnow : ∀ op ∈ ops, op.wall ≤ now) :
    Holds env (env.pathIn root url) (env.filesAfter ops) (lastStored url ops) now := by
  induction ops using List.reverseRecOn generalizing now with
  | nil => exact .inr ⟨rfl, fun w hw => nomatch hw⟩
  | append_singleton ops op ih =>
    have hop : op ∈ ops ++ [op] := List.mem_append_right _ (List.mem_singleton_self _)
    have ih := ih h.init (fun a ha => hurl a (List.mem_append_left _ ha)) h.le
    refine Holds.later ?_ (hnow op hop)
    rw [filesAfter_snoc, lastStored_snoc]
    by_cases hu : op.url = url
    · subst hu
      refine ih.step hroot (h.range op hop) fun w hw => ?_
      obtain ⟨hm, hv, -⟩ := lastStored_mem hw
      exact ⟨hv, h.json _ _ _ _ (List.mem_append_left _ hm)⟩
    · have hne : env.pathIn root url ≠ env.pathIn root op.url := fun he =>
        hu (hurl op hop he.symm)
      rw [writes_other hu]
      unfold Holds
      rw [lookup_applyOp_other hroot hne]
      exact ih

/-- A load answers by the last write on its URL. -/
theorem load_iff (hroot : env.cacheRoot = some root) (h : env.Assumed (ops ++ [.load wall url])) :
    (env.load wall url (env.filesAfter ops)).1 = .ok (some token) ↔
      ∃ w, lastStored url ops = some w ∧ w.token = token ∧ 0 ≤ wall ∧
        unixSeconds wall + expirySafetyMarginSeconds < unixSeconds w.wall + w.expiresIn := by
  have hload : CacheOp.load wall url ∈ ops ++ [.load wall url] :=
    List.mem_append_right _ (List.mem_singleton_self _)
  have hurl : ∀ op ∈ ops, env.pathIn root op.url = env.pathIn root url → op.url = url :=
    fun op hop he => h.collisionFree op (List.mem_append_left _ hop) _ hload (pathIn_inj he)
  rcases filesAfter_holds hroot h.init hurl h.le with ⟨w, hw, hl⟩ | ⟨hl, hdead⟩
  · obtain ⟨hm, hv, -⟩ := lastStored_mem hw
    have hrange : wall < 2 ^ 63 * (nanos : Int) := h.range _ hload
    rw [load_newFile hroot hrange hv (h.json _ _ _ _ (List.mem_append_left _ hm)) hl, hw]
    by_cases hneg : wall < 0
    · rw [if_pos hneg]
      constructor
      · intro he
        cases he
      · rintro ⟨-, -, -, hpos, -⟩
        omega
    rw [if_neg hneg]
    by_cases hend : unixSeconds w.wall + w.expiresIn ≤ unixSeconds wall + expirySafetyMarginSeconds
    · rw [if_pos hend]
      constructor
      · intro he
        cases he
      · rintro ⟨w', hw', -, -, hlt⟩
        cases hw'
        omega
    · rw [if_neg hend]
      constructor
      · intro he
        cases he
        exact ⟨w, rfl, rfl, by omega, by omega⟩
      · rintro ⟨w', hw', rfl, -, -⟩
        cases hw'
        rfl
  · rw [load_missing hroot hl]
    constructor
    · intro he
      cases he
    · rintro ⟨w, hw, -, -, hlt⟩
      have hle := hdead w hw
      dsimp only [CacheOp.wall] at hle
      omega

/-! ## The server's session -/

/-- A session that is still loaded has not expired on the server, if the client read its clock at
most the timeout of a request after the server had read its own. `storedAt` and `loadedAt` are the
server's clock at the moments of the store and of the load. -/
theorem loaded_lt_expiry {at_ storedAt loadedAt : Int} (hpos : 0 ≤ wall)
    (hlt : unixSeconds wall + expirySafetyMarginSeconds < unixSeconds w.wall + w.expiresIn)
    (hwpos : 0 ≤ w.wall) (hstored : storedAt ≤ at_ + (requestTimeout : Int))
    (hrate : wall - w.wall = loadedAt - storedAt) :
    loadedAt < at_ + (Duration.fromSecs w.expiresIn : Int) := by
  unfold unixSeconds expirySafetyMarginSeconds at hlt
  unfold requestTimeout Duration.fromSecs at hstored
  unfold Duration.fromSecs
  unfold nanos at *
  omega

/-- An unexpired session of the history is held by the server. -/
theorem server_holds {Key : Type} {server : Authenticator Key} {sops : List SessionOp}
    {x : Minted} {loadedAt : Int} (hs : server.Assumed sops) (hx : x ∈ server.history sops)
    (hnow : ∀ op ∈ sops, op.now ≤ loadedAt)
    (hlt : loadedAt < x.at_ + (Duration.fromSecs server.github.oauthSessionTtlSeconds : Int)) :
    authenticateGithubAccountSession server.sha256 server.github loadedAt x.token
      (server.applyOps sops).oauthSessions = .ok (sessionPrincipal server.github
        (newSession server.github x.at_ x.identityId x.user)) := by
  obtain ⟨random, he⟩ := history_sessionToken hx
  rw [authenticateGithubAccountSession_eq_ok]
  refine ⟨he ▸ sessionToken_prefix random, _, ?_, rfl⟩
  exact ((applyOps_reflects hs loadedAt hnow).1.live_iff (le_refl _)).mpr
    ⟨List.mem_map_of_mem hx, hlt⟩

/-- **The cache.** After any sequence of operations a load returns the token that was last stored on
its URL, if its time is not nearly over, and depends on the operations on that URL alone. The
session that it returns is one that the server still holds, if the server minted it with the same
lifetime, at most the timeout of a request before the client stored it. -/
theorem session_cache_exact (env : CacheEnv) (root : String) (hroot : env.cacheRoot = some root)
    (ops : List CacheOp) (wall : Int) (url : String)
    (h : env.Assumed (ops ++ [.load wall url])) :
    (∀ token, (env.load wall url (env.filesAfter ops)).1 = .ok (some token) ↔
      ∃ w, lastStored url ops = some w ∧ w.token = token ∧ 0 ≤ wall ∧
        unixSeconds wall + expirySafetyMarginSeconds < unixSeconds w.wall + w.expiresIn) ∧
    (env.load wall url (env.filesAfter ops)).1 =
      (env.load wall url (env.filesAfter (ops.filter fun op => op.url == url))).1 ∧
    ∀ token w, (env.load wall url (env.filesAfter ops)).1 = .ok (some token) →
      lastStored url ops = some w →
      ∀ (Key : Type) (server : Authenticator Key) (sops : List SessionOp) (x : Minted)
        (storedAt loadedAt : Int),
        server.Assumed sops → x ∈ server.history sops → x.token = token →
        w.expiresIn = server.github.oauthSessionTtlSeconds →
        storedAt ≤ x.at_ + (requestTimeout : Int) → wall - w.wall = loadedAt - storedAt →
        (∀ op ∈ sops, op.now ≤ loadedAt) →
        authenticateGithubAccountSession server.sha256 server.github loadedAt token
          (server.applyOps sops).oauthSessions = .ok (sessionPrincipal server.github
            (newSession server.github x.at_ x.identityId x.user)) := by
  refine ⟨fun token => load_iff hroot h, ?_, ?_⟩
  · have hurl : ∀ op ∈ ops, env.pathIn root op.url = env.pathIn root url → op.url = url :=
      fun op hop he => h.collisionFree op (List.mem_append_left _ hop) (.load wall url)
        (List.mem_append_right _ (List.mem_singleton_self _)) (pathIn_inj he)
    exact (load_cases hroot wall url _ _ (lookup_filesAfter_filter hroot hurl)).1
  · intro token w hload hlast Key server sops x storedAt loadedAt hs hx htoken httl hstored hrate hnow
    obtain ⟨w', hw', -, hpos, hlt⟩ := (load_iff hroot h).mp hload
    cases hlast.symm.trans hw'
    obtain ⟨-, -, hwpos⟩ := lastStored_mem hlast
    have hexp := loaded_lt_expiry hpos hlt hwpos hstored hrate
    rw [httl] at hexp
    rw [← htoken]
    exact server_holds hs hx hnow hexp

end Sequences

/-! ## Two signers -/

/-- The cache of a user, with SHA-256 of two URLs and the JSON of one session. -/
def exampleCacheEnv : CacheEnv where
  cacheRoot := some "/run/user/1000/microtun-signer/sessions"
  geteuid := 1000
  sha256 bytes :=
    if bytes = "https://signer.example/".toByteArray.data.toList then
      #v[81, 230, 44, 249, 243, 163, 122, 138, 131, 49, 247, 51, 57, 226, 190, 48,
        236, 154, 34, 139, 240, 244, 223, 122, 203, 36, 234, 180, 89, 152, 171, 235]
    else
      #v[198, 238, 16, 103, 66, 108, 144, 65, 97, 175, 109, 192, 197, 124, 205, 199,
        102, 168, 117, 161, 184, 200, 95, 44, 41, 47, 1, 160, 71, 204, 23, 45]
  toJson session := "\x7b\"version\":" ++ toString session.version ++ ",\"access_token\":\"" ++
    session.accessToken ++ "\",\"expires_at\":" ++ toString session.expiresAt ++ "\x7d"
  fromJson body :=
    if body = "\x7b\"version\":1,\"access_token\":\"" ++ exampleSessionToken ++
      "\",\"expires_at\":1700000902\x7d" then some ⟨1, exampleSessionToken, 1700000902⟩
    else none

/-- A login, and a logout of the other signer. -/
def exampleCacheOps : List CacheOp :=
  [.store 1700000002000000000 "https://signer.example/" exampleSessionToken 900,
    .remove 1700000005000000000 "https://other.example/"]

/-- The session is loaded ten seconds after it was stored; the server minted it two seconds before
that. -/
theorem session_cache_exact_ten_seconds :
    (exampleCacheEnv.load 1700000012000000000 "https://signer.example/"
      (exampleCacheEnv.filesAfter exampleCacheOps)).1 = .ok (some exampleSessionToken) ∧
    authenticateGithubAccountSession exampleAuthenticator.sha256 exampleAuthenticator.github
      12000000000 exampleSessionToken (exampleAuthenticator.applyOps [exampleMint]).oauthSessions =
      .ok (sessionPrincipal exampleAuthenticator.github (newSession exampleAuthenticator.github 0
        "firmware-maintainer" ⟨"maintainer-login", 24681012, some true⟩)) := by
  have hassumed : exampleCacheEnv.Assumed
      (exampleCacheOps ++ [.load 1700000012000000000 "https://signer.example/"]) := {
    clock := by decide
    range := by decide
    collisionFree := by decide
    json := by
      intro wall url token expiresIn hm
      simp only [exampleCacheOps, List.cons_append, List.nil_append, List.mem_cons,
        CacheOp.store.injEq, reduceCtorEq, List.not_mem_nil, or_false] at hm
      obtain ⟨rfl, -, rfl, rfl⟩ := hm
      decide }
  have hserver : exampleAuthenticator.Assumed [exampleMint] := {
    clock := by decide
    distinct := by decide
    collisionFree := by decide }
  have hexact := session_cache_exact exampleCacheEnv "/run/user/1000/microtun-signer/sessions" rfl
    exampleCacheOps 1700000012000000000 "https://signer.example/" hassumed
  have hload := (hexact.1 exampleSessionToken).mpr
    ⟨⟨exampleSessionToken, 1700000002000000000, 900⟩, by decide, rfl, by decide, by decide⟩
  exact ⟨hload, hexact.2.2 exampleSessionToken ⟨exampleSessionToken, 1700000002000000000, 900⟩ hload
    (by decide) Unit exampleAuthenticator [exampleMint]
    ⟨exampleSessionToken, 0, "firmware-maintainer", ⟨"maintainer-login", 24681012, some true⟩⟩
    2000000000 12000000000 hserver (by decide) rfl rfl (by decide) (by decide) (by decide)⟩

end MicrotunSigner
