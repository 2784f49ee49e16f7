import MicrotunSigner.Config
import MicrotunSigner.Lib.UrlPath
import MicrotunSigner.Lib.Result

/-!
# The endpoints of the client (`client.rs`, `main.rs`)

The URLs to which the commands `sign`, `public-key` and `unlock` send their requests: the id of a
key or a keyring is the last segment of the path. `valid_key_id` allows dots, and a parser of URLs
removes dot segments, so `.` and `..` reach no key (`dotdot_unreachable`); every other id does
(`key_id_addressed_iff`).

`UrlLib` is what the client uses of the URL library, `UrlLib.Lawful` what is documented of it.
-/

namespace MicrotunSigner

open Lib Lib.Text Lib.UrlPath

/-- The path of a URL: of a URL that cannot be a base, or in segments. -/
inductive UrlPath where
  | whole (path : String)
  | segments (path : List String)
  deriving DecidableEq

/-- A parsed URL; the authority is its host with the port. -/
structure ReqwestUrl where
  scheme : String
  authority : String
  path : UrlPath
  query : Option String
  fragment : Option String
  deriving DecidableEq

namespace ReqwestUrl

/-- `path()`. -/
def pathText (url : ReqwestUrl) : String :=
  match url.path with
  | .whole path => path
  | .segments path => serialize path

def IsHttp (url : ReqwestUrl) : Prop := url.scheme = "http" ∨ url.scheme = "https"

def cannotBeABase (url : ReqwestUrl) : Bool :=
  match url.path with
  | .whole _ => true
  | .segments _ => false

end ReqwestUrl

/-- `reqwest::Url`, and how the server's router decodes a parameter of a path. -/
structure UrlLib where
  parse : String → Option ReqwestUrl
  join : ReqwestUrl → String → Option ReqwestUrl
  setPath : ReqwestUrl → String → ReqwestUrl
  /-- The characters that a path keeps as they are. -/
  pathChar : Char → Bool
  decodeParam : String → Option String

/-! ## The commands -/

def validateKeyId (value : String) : Except String Unit :=
  bailIf (!validKeyId value) "--key-id must match [A-Za-z0-9._-]\x7b1,128\x7d"

def signerBaseUrl (lib : UrlLib) (value : String) : Except String ReqwestUrl := do
  let baseUrl ← okOr (lib.parse value) "--url must be a valid URL"
  bailIf (!(baseUrl.scheme == "http" || baseUrl.scheme == "https")) "--url must use http or https"
  bailIf baseUrl.cannotBeABase "--url must be a hierarchical http(s) URL"
  if endsWith baseUrl.pathText "/" then return baseUrl
  else return lib.setPath baseUrl (baseUrl.pathText ++ "/")

/-- The endpoint of `sign`. -/
def signEndpoint (lib : UrlLib) (url keyId : String) : Except String ReqwestUrl := do
  validateKeyId keyId
  let baseUrl ← signerBaseUrl lib url
  okOr (lib.join baseUrl ("v1/sign/" ++ keyId)) "failed to construct signing API URL"

/-- The endpoint of `public_key`. -/
def publicKeyEndpoint (lib : UrlLib) (url keyId : String) : Except String ReqwestUrl := do
  validateKeyId keyId
  let baseUrl ← signerBaseUrl lib url
  okOr (lib.join baseUrl ("v1/public-key/" ++ keyId)) "failed to construct public-key API URL"

inductive UnlockTarget where
  | key (keyId : String)
  | keyring (keyring : String)

/-- The target of `unlock`. -/
def unlockTarget (keyId keyring : Option String) : Except String UnlockTarget :=
  match keyId, keyring with
  | some keyId, none => do
    bailIf (!validKeyId keyId) "--key-id must match [A-Za-z0-9._-]\x7b1,128\x7d"
    return .key keyId
  | none, some keyring => do
    bailIf (!validKeyringName keyring) "--keyring must match [A-Za-z0-9._-]\x7b1,128\x7d"
    return .keyring keyring
  | _, _ => .error "exactly one of --key-id or --keyring is required"

def unlockUrl : UnlockTarget → String
  | .key keyId => "http://localhost/v1/unlock/" ++ keyId
  | .keyring keyring => "http://localhost/v1/unlock-keyring/" ++ keyring

/-- The endpoint of `unlock`, behind the admin socket. -/
def unlockEndpoint (lib : UrlLib) (socket : String) (keyId keyring : Option String) :
    Except String ReqwestUrl := do
  let target ← unlockTarget keyId keyring
  okOr (lib.parse (unlockUrl target)) s!"failed to call admin API over Unix socket {socket}"

/-! ## What is documented of the URL library -/

/-- The characters of `valid_key_id`; to a parser of URLs only the dot among them means something. -/
def isIdChar (c : Char) : Bool := isAsciiAlphanumeric c || c == '.' || c == '_' || c == '-'

/-- Segments of such characters. -/
def Plain (ref : String) : Prop := ∀ c ∈ ref.toList, isIdChar c = true ∨ c = '/'

/-- Parsing and joining follow the URL standard. A path is of the characters that need no encoding
(`pathChar`), and the path state is `resolve`. -/
structure UrlLib.Lawful (lib : UrlLib) : Prop where
  slash : lib.pathChar '/' = false
  /-- The path of an HTTP URL is hierarchical and normal. -/
  parse_path : ∀ value url, lib.parse value = some url → url.IsHttp →
    ∃ path, url.path = .segments path ∧ Normal lib.pathChar path
  parse_localhost : ∀ ref, Plain ref → lib.parse ("http://localhost/" ++ ref) =
    some ⟨"http", "localhost", .segments (resolve [] (split '/' ref)), none, none⟩
  setPath : ∀ url text, url.IsHttp → (∀ c ∈ text.toList, lib.pathChar c = true ∨ c = '/') →
    lib.setPath url ("/" ++ text) = { url with path := .segments (resolve [] (split '/' text)) }
  /-- A reference without a scheme replaces the last segment, the query and the fragment. -/
  join : ∀ url path ref, url.IsHttp → url.path = .segments path → Plain ref → ref ≠ "" →
    ref.toList.head? ≠ some '/' → lib.join url ref = some { url with
      path := .segments (resolve path.dropLast (split '/' ref)), query := none, fragment := none }
  /-- Without a `%` there is nothing to decode. -/
  decodeParam : ∀ param, (∀ c ∈ param.toList, isIdChar c = true) → lib.decodeParam param = some param

/-! ## Ids as segments -/

section Ids

variable {id id' root kind : String} {dir : List String}

theorem validKeyId_iff : validKeyId id = true ↔
    id ≠ "" ∧ len id ≤ 128 ∧ ∀ c ∈ id.toList, isIdChar c = true := by
  unfold validKeyId
  rw [Bool.and_eq_true, Bool.and_eq_true, Bool.not_eq_true', isEmpty_eq_false, decide_eq_true_eq,
    and_assoc]
  exact and_congr_right fun _ => and_congr_right fun _ => List.all_eq_true

/-- An id has no character that a path gives a meaning, but dots. -/
theorem not_mem_of_validKeyId {c : Char} (h : validKeyId id = true) (hc : isIdChar c = false) :
    c ∉ id.toList := fun hm => by
  rw [(validKeyId_iff.mp h).2.2 c hm] at hc
  cases hc

/-- The path to which a request for `id` goes. -/
def reached (root kind id : String) : String :=
  if id = ".." then root ++ "v1/"
  else if id = "." then root ++ "v1/" ++ kind ++ "/"
  else root ++ "v1/" ++ kind ++ "/" ++ id

/-- A reference that ends in `id`, resolved. -/
theorem serialize_reached (hk : Ordinary kind) (hs : '/' ∉ kind.toList)
    (hid : validKeyId id = true) :
    serialize (resolve dir (split '/' ("v1/" ++ kind ++ "/" ++ id))) =
      reached (serialize dir ++ "/") kind id := by
  have hv : "v1/" = "v1" ++ "/" := rfl
  have hsplit : split '/' ("v1/" ++ kind ++ "/" ++ id) = ["v1", kind] ++ [id] := by
    rw [split_slash, hv, split_slash, split_of_not_mem (by decide), split_of_not_mem hs,
      split_of_not_mem (not_mem_of_validKeyId hid (by decide))]
    rfl
  have hord : ∀ segment ∈ ["v1", kind], Ordinary segment := by
    intro segment hm
    rcases List.mem_cons.mp hm with rfl | hm
    · decide
    · rw [List.mem_singleton.mp hm]
      exact hk
  have hdrop : (dir ++ ["v1", kind]).dropLast = dir ++ ["v1"] := by
    rw [List.dropLast_append_of_ne_nil (by simp)]
    rfl
  rw [hsplit, resolve_snoc hord (not_mem_of_validKeyId hid (by decide)), hdrop]
  unfold reached
  split
  · simp only [serialize_append, serialize, hv, String.append_assoc, String.append_empty]
  · split <;> simp only [serialize_append, serialize, hv, String.append_assoc, String.append_empty]

/-- Distinct ids lead to distinct paths. -/
theorem reached_inj (h0 : id ≠ "") (h0' : id' ≠ "") (h : reached root kind id = reached root kind id') :
    id = id' := by
  have hlen : ∀ s : String, s ≠ "" → 0 < s.length := fun s hs => by
    rw [Nat.pos_iff_ne_zero, ne_eq, String.length_eq_zero_iff]
    exact hs
  have h0 := hlen id h0
  have h0' := hlen id' h0'
  have hslash : ("/" : String).length = 1 := rfl
  have hl := congrArg String.length h
  unfold reached at h hl
  by_cases h1 : id = ".." <;> by_cases h1' : id' = ".."
  · exact h1.trans h1'.symm
  · rw [if_pos h1, if_neg h1'] at hl
    split at hl <;> simp only [String.length_append, hslash] at hl <;> omega
  · rw [if_neg h1, if_pos h1'] at hl
    split at hl <;> simp only [String.length_append, hslash] at hl <;> omega
  rw [if_neg h1, if_neg h1'] at h hl
  by_cases h2 : id = "." <;> by_cases h2' : id' = "."
  · exact h2.trans h2'.symm
  · rw [if_pos h2, if_neg h2', String.length_append _ id'] at hl
    omega
  · rw [if_neg h2, if_pos h2', String.length_append _ id] at hl
    omega
  · rw [if_neg h2, if_neg h2'] at h
    simpa using h

/-- Where the id names a key: its request goes to the route `root`, `stem` with the parameter `id`,
and no other id's request goes there. -/
structure Reaches (lib : UrlLib) (endpoint : String → Except String ReqwestUrl)
    (root stem id : String) : Prop where
  path : ∃ url, endpoint id = .ok url ∧ url.pathText = root ++ stem ++ id ∧
    (routeParam (root ++ stem) url.pathText).bind lib.decodeParam = some id
  distinct : ∀ other, validKeyId other = true → other ≠ id → endpoint other ≠ endpoint id

/-- Only the dot segments are not reached. -/
theorem reaches_iff {lib : UrlLib} (hl : lib.Lawful) (kind : String)
    {endpoint : String → Except String ReqwestUrl}
    (he : ∀ id, validKeyId id = true →
      ∃ url, endpoint id = .ok url ∧ url.pathText = reached root kind id)
    (hid : validKeyId id = true) :
    Reaches lib endpoint root ("v1/" ++ kind ++ "/") id ↔ id ≠ "." ∧ id ≠ ".." := by
  obtain ⟨hne, -, hchars⟩ := validKeyId_iff.mp hid
  obtain ⟨url, hok, hpath⟩ := he id hid
  constructor
  · rintro ⟨⟨url', hok', hpath', -⟩, -⟩
    cases hok.symm.trans hok'
    rw [hpath, ← String.append_assoc, ← String.append_assoc] at hpath'
    have hlen := congrArg String.length hpath'
    unfold reached at hlen
    constructor
    · rintro rfl
      simp at hlen
    · rintro rfl
      have hdots : (".." : String).length = 2 := rfl
      simp only [if_true, String.length_append, hdots] at hlen
      omega
  · rintro ⟨hdot, hdots⟩
    refine ⟨⟨url, hok, ?_, ?_⟩, fun other ho hne' heq => ?_⟩
    · rw [hpath, reached, if_neg hdots, if_neg hdot, ← String.append_assoc, ← String.append_assoc]
    · rw [hpath, reached, if_neg hdots, if_neg hdot, ← String.append_assoc, ← String.append_assoc,
        routeParam_append hne (not_mem_of_validKeyId hid (by decide)), Option.bind_some,
        hl.decodeParam id hchars]
    · obtain ⟨url', hok', hpath'⟩ := he other ho
      rw [hok, hok', Except.ok.injEq] at heq
      rw [heq, hpath] at hpath'
      exact hne' (reached_inj (validKeyId_iff.mp ho).1 hne hpath'.symm)

end Ids

/-! ## The endpoints -/

section Endpoints

variable {lib : UrlLib} {value id : String} {base : ReqwestUrl}

theorem pathText_segments {url : ReqwestUrl} {path : List String} (h : url.path = .segments path) :
    url.pathText = serialize path := by
  unfold ReqwestUrl.pathText
  rw [h]

theorem slash_notMem {path : List String} (hn : Normal lib.pathChar path) (hl : lib.Lawful) :
    ∀ segment ∈ path, '/' ∉ segment.toList := fun segment hs hm => by
  have hc := hn.chars segment hs _ hm
  rw [hl.slash] at hc
  cases hc

/-- The parser reads a path that it wrote, with a `/` behind it. -/
theorem setPath_slash (hl : lib.Lawful) {url : ReqwestUrl} (hhttp : url.IsHttp) {path : List String}
    (hp : url.path = .segments path) (hn : Normal lib.pathChar path) :
    lib.setPath url (url.pathText ++ "/") = { url with path := .segments (path ++ [""]) } := by
  have hslash := slash_notMem hn hl
  obtain ⟨first, rest, rfl⟩ := List.exists_cons_of_ne_nil hn.ne_nil
  have hrest : ∀ segment ∈ rest ++ [""], '/' ∉ segment.toList := fun segment hm => by
    rcases List.mem_append.mp hm with hm | hm
    · exact hslash segment (List.mem_cons_of_mem _ hm)
    · rw [List.mem_singleton.mp hm]
      simp
  have hord : ∀ segment ∈ first :: (rest ++ [""]), Ordinary segment := fun segment hm => by
    rw [← List.cons_append] at hm
    rcases List.mem_append.mp hm with hm | hm
    · exact hn.ordinary segment hm
    · rw [List.mem_singleton.mp hm]
      exact ordinary_empty
  have htext : url.pathText ++ "/" = "/" ++ (first ++ serialize (rest ++ [""])) := by
    rw [pathText_segments hp, serialize_append]
    simp only [serialize, String.append_assoc, String.append_empty]
  rw [htext, hl.setPath url _ hhttp, split_serialize (hslash first List.mem_cons_self) hrest,
    resolve_ordinary hord]
  · rfl
  · intro c hc
    rw [String.toList_append, List.mem_append] at hc
    rcases hc with hc | hc
    · exact .inl (hn.chars first List.mem_cons_self c hc)
    rcases mem_serialize hc with rfl | ⟨segment, hs, hc⟩
    · exact .inr rfl
    rcases List.mem_append.mp hs with hs | hs
    · exact .inl (hn.chars segment (List.mem_cons_of_mem _ hs) c hc)
    · rw [List.mem_singleton.mp hs] at hc
      cases hc

/-- The base URL: that of the command line, with a path that ends in `/`. -/
theorem signerBaseUrl_spec (hl : lib.Lawful) (h : signerBaseUrl lib value = .ok base) :
    base.IsHttp ∧ (∃ dir, base.path = .segments (dir ++ [""])) ∧
    ∃ url, lib.parse value = some url ∧ base.pathText =
      if endsWith url.pathText "/" then url.pathText else url.pathText ++ "/" := by
  simp only [signerBaseUrl, Except.bind_eq_ok, okOr_eq_ok, bailIf_eq_ok] at h
  obtain ⟨url, hparse, -, hscheme, -, -, h⟩ := h
  have hhttp : url.IsHttp := by
    rw [Bool.not_eq_false', Bool.or_eq_true, beq_iff_eq, beq_iff_eq] at hscheme
    exact hscheme
  obtain ⟨path, hp, hn⟩ := hl.parse_path value url hparse hhttp
  have htext := pathText_segments hp
  by_cases hend : endsWith url.pathText "/" = true
  · rw [if_pos hend] at h
    cases h
    rw [htext] at hend
    obtain ⟨dir, rfl⟩ := eq_snoc_of_endsWith hn.ne_nil (slash_notMem hn hl) hend
    exact ⟨hhttp, ⟨dir, hp⟩, base, hparse, by rw [htext, if_pos hend]⟩
  · rw [if_neg hend] at h
    cases h
    rw [setPath_slash hl hhttp hp hn]
    refine ⟨hhttp, ⟨path, rfl⟩, url, hparse, ?_⟩
    rw [if_neg hend, htext, pathText_segments rfl, serialize_append]
    rfl

/-- A reference of the client is plain, and has no scheme. -/
theorem plain_append {stem : String} (hs : Plain stem) (hid : validKeyId id = true) :
    Plain (stem ++ id) := fun c hc => by
  rw [String.toList_append, List.mem_append] at hc
  rcases hc with hc | hc
  · exact hs c hc
  · exact .inl ((validKeyId_iff.mp hid).2.2 c hc)

/-- A reference `v1/kind/id`, joined to the base URL. -/
theorem join_reached (hl : lib.Lawful) (kind : String) (h : signerBaseUrl lib value = .ok base)
    (hk : Ordinary kind) (hs : '/' ∉ kind.toList) (hp : Plain ("v1/" ++ kind ++ "/"))
    (hid : validKeyId id = true) :
    ∃ url, lib.join base ("v1/" ++ kind ++ "/" ++ id) = some url ∧
      url.pathText = reached base.pathText kind id := by
  obtain ⟨hhttp, ⟨dir, hdir⟩, -⟩ := signerBaseUrl_spec hl h
  have hhead : ("v1/" ++ kind ++ "/" ++ id).toList.head? = some 'v' := by
    simp only [String.toList_append]
    rfl
  refine ⟨_, hl.join base _ _ hhttp hdir (plain_append hp hid) (fun he => ?_) ?_, ?_⟩
  · rw [he] at hhead
    cases hhead
  · rw [hhead]
    decide
  · have hroot : base.pathText = serialize dir ++ "/" := by
      rw [pathText_segments hdir, serialize_append]
      rfl
    rw [pathText_segments rfl, List.dropLast_concat, serialize_reached hk hs hid, hroot]

/-- A path `v1/kind/id` behind the admin socket. -/
theorem localhost_reached (hl : lib.Lawful) (kind : String) (hk : Ordinary kind)
    (hs : '/' ∉ kind.toList) (hp : Plain ("v1/" ++ kind ++ "/")) (hid : validKeyId id = true) :
    ∃ url, lib.parse ("http://localhost/" ++ ("v1/" ++ kind ++ "/" ++ id)) = some url ∧
      url.pathText = reached "/" kind id := by
  refine ⟨_, hl.parse_localhost _ (plain_append hp hid), ?_⟩
  rw [pathText_segments rfl, serialize_reached hk hs hid]
  rfl

instance (ref : String) : Decidable (Plain ref) :=
  List.decidableBAll (fun c => isIdChar c = true ∨ c = '/') ref.toList

theorem signEndpoint_reached (hl : lib.Lawful) (hb : signerBaseUrl lib value = .ok base)
    (hid : validKeyId id = true) :
    ∃ url, signEndpoint lib value id = .ok url ∧ url.pathText = reached base.pathText "sign" id := by
  obtain ⟨url, hjoin, hpath⟩ :=
    join_reached hl "sign" hb (by decide) (by decide) (by decide) hid
  refine ⟨url, ?_, hpath⟩
  simp only [signEndpoint, validateKeyId, Except.bind_eq_ok, bailIf_eq_ok, okOr_eq_ok, hid, hb]
  exact ⟨(), rfl, base, rfl, hjoin⟩

theorem publicKeyEndpoint_reached (hl : lib.Lawful) (hb : signerBaseUrl lib value = .ok base)
    (hid : validKeyId id = true) : ∃ url, publicKeyEndpoint lib value id = .ok url ∧
      url.pathText = reached base.pathText "public-key" id := by
  obtain ⟨url, hjoin, hpath⟩ :=
    join_reached hl "public-key" hb (by decide) (by decide) (by decide) hid
  refine ⟨url, ?_, hpath⟩
  simp only [publicKeyEndpoint, validateKeyId, Except.bind_eq_ok, bailIf_eq_ok, okOr_eq_ok, hid, hb]
  exact ⟨(), rfl, base, rfl, hjoin⟩

theorem unlockEndpoint_reached (hl : lib.Lawful) (socket : String) (hid : validKeyId id = true) :
    (∃ url, unlockEndpoint lib socket (some id) none = .ok url ∧
      url.pathText = reached "/" "unlock" id) ∧
    ∃ url, unlockEndpoint lib socket none (some id) = .ok url ∧
      url.pathText = reached "/" "unlock-keyring" id := by
  obtain ⟨url, hparse, hpath⟩ :=
    localhost_reached hl "unlock" (by decide) (by decide) (by decide) hid
  obtain ⟨url', hparse', hpath'⟩ :=
    localhost_reached hl "unlock-keyring" (by decide) (by decide) (by decide) hid
  rw [← String.append_assoc] at hparse hparse'
  constructor
  · refine ⟨url, ?_, hpath⟩
    simp only [unlockEndpoint, unlockTarget, Except.bind_eq_ok, bailIf_eq_ok, okOr_eq_ok, hid]
    exact ⟨.key id, ⟨(), rfl, rfl⟩, hparse⟩
  · refine ⟨url', ?_, hpath'⟩
    simp only [unlockEndpoint, unlockTarget, validKeyringName, Except.bind_eq_ok, bailIf_eq_ok,
      okOr_eq_ok, hid]
    exact ⟨.keyring id, ⟨(), rfl, rfl⟩, hparse'⟩

/-- The id addresses its key, or its keyring, by each of the commands. -/
structure Addressed (lib : UrlLib) (value socket : String) (base : ReqwestUrl) (id : String) :
    Prop where
  base_slash : endsWith base.pathText "/" = true
  sign : Reaches lib (signEndpoint lib value) base.pathText "v1/sign/" id
  publicKey : Reaches lib (publicKeyEndpoint lib value) base.pathText "v1/public-key/" id
  unlock : Reaches lib (fun id => unlockEndpoint lib socket (some id) none) "/" "v1/unlock/" id
  unlockKeyring : Reaches lib (fun id => unlockEndpoint lib socket none (some id)) "/"
    "v1/unlock-keyring/" id

/-- **Addressing.** An accepted id addresses its own key iff it is not a dot segment. -/
theorem key_id_addressed_iff (lib : UrlLib) (hl : lib.Lawful) (value socket : String)
    (base : ReqwestUrl) (hb : signerBaseUrl lib value = .ok base) (id : String)
    (hid : validKeyId id = true) :
    Addressed lib value socket base id ↔ id ≠ "." ∧ id ≠ ".." := by
  have hslash : endsWith base.pathText "/" = true := by
    obtain ⟨-, ⟨dir, hdir⟩, -⟩ := signerBaseUrl_spec hl hb
    unfold endsWith
    rw [pathText_segments hdir, serialize_append, String.toList_append, List.isSuffixOf_iff_suffix]
    exact ⟨_, rfl⟩
  have hsign := reaches_iff hl "sign" (fun _ => signEndpoint_reached hl hb) hid
  have hpublic := reaches_iff hl "public-key" (fun _ => publicKeyEndpoint_reached hl hb) hid
  have hunlock := reaches_iff hl "unlock" (fun _ hid => (unlockEndpoint_reached hl socket hid).1) hid
  have hkeyring := reaches_iff hl "unlock-keyring"
    (fun _ hid => (unlockEndpoint_reached hl socket hid).2) hid
  exact ⟨fun h => hsign.mp h.sign,
    fun h => ⟨hslash, hsign.mpr h, hpublic.mpr h, hunlock.mpr h, hkeyring.mpr h⟩⟩

/-! ## URLs of plain characters -/

/-- The URL library on `http` URLs with a path of plain characters. -/
def plainUrls : UrlLib where
  parse value := do
    let rest ← stripPrefix value "http://"
    let (authority, path) ← splitOnce '/' rest
    if all path fun c => isIdChar c || c == '/' then
      some ⟨"http", authority, .segments (resolve [] (split '/' path)), none, none⟩
    else none
  join url ref := match url.path with
    | .segments path => some { url with
        path := .segments (resolve path.dropLast (split '/' ref)), query := none, fragment := none }
    | .whole _ => none
  setPath url text := { url with path := .segments (resolve [] (split '/' text).tail) }
  pathChar := isIdChar
  decodeParam := some

theorem plainUrls_lawful : plainUrls.Lawful where
  slash := by decide
  parse_path := fun value url h _ => by
    simp only [plainUrls, Option.bind_eq_bind, Option.bind_eq_some_iff] at h
    obtain ⟨rest, -, ⟨authority, path⟩, -, h⟩ := h
    split at h
    · rename_i hplain
      cases h
      refine ⟨_, rfl, normal_resolve ?_ (by simp) (chars_split fun c hc => ?_)⟩
      · simp [split, List.splitOn_ne_nil]
      · have hc := List.all_eq_true.mp hplain c hc
        rw [Bool.or_eq_true, beq_iff_eq] at hc
        exact hc
    · cases h
  parse_localhost := fun ref h => by
    have hlocal : ("http://localhost/" : String) = "http://" ++ "localhost/" := rfl
    have hsplit : splitOnce '/' ("localhost/" ++ ref) = some ("localhost", ref) := by
      unfold splitOnce
      rw [String.toList_append]
      have hspan : ("localhost/".toList ++ ref.toList).span (fun c => decide (c ≠ '/')) =
          ("localhost".toList, '/' :: ref.toList) := by
        simp [List.span, List.span.loop]
      rw [hspan]
      simp
    have hplain : all ref (fun c => isIdChar c || c == '/') = true :=
      List.all_eq_true.mpr fun c hc => by simpa using h c hc
    simp only [plainUrls, hlocal, String.append_assoc, stripPrefix_append, hsplit, hplain,
      Option.bind_eq_bind, Option.bind_some, if_true]
  setPath := fun url text _ _ => by
    have htext : "/" ++ text = "" ++ "/" ++ text := by rw [String.empty_append]
    simp only [plainUrls, htext, split_slash, split_of_not_mem (s := "") (by simp : '/' ∉ "".toList)]
    rfl
  join := fun url path ref _ hp _ _ _ => by
    simp only [plainUrls, hp]
  decodeParam := fun _ _ => rfl

/-- The accepted id `..`: the request to sign goes to `/v1/`. -/
theorem dotdot_unreachable : plainUrls.Lawful ∧ validKeyId ".." = true ∧
    ∃ base, signerBaseUrl plainUrls "http://signer.example/" = .ok base ∧
      ¬ Addressed plainUrls "http://signer.example/" "/run/admin.sock" base ".." := by
  refine ⟨plainUrls_lawful, by decide,
    ⟨"http", "signer.example", .segments [""], none, none⟩, by decide, fun h => ?_⟩
  obtain ⟨url, hok, hpath, -⟩ := h.sign.path
  have hv1 : signEndpoint plainUrls "http://signer.example/" ".." =
      .ok ⟨"http", "signer.example", .segments ["v1", ""], none, none⟩ := by decide
  cases hv1.symm.trans hok
  exact absurd hpath (by decide)

/-- The key `fw.prod` of a signer under `/api`. -/
theorem key_id_addressed_prod : Addressed plainUrls "http://signer.example/api" "/run/admin.sock"
    ⟨"http", "signer.example", .segments ["api", ""], none, none⟩ "fw.prod" :=
  (key_id_addressed_iff plainUrls plainUrls_lawful "http://signer.example/api" "/run/admin.sock" _
    (by decide) "fw.prod" (by decide)).mpr ⟨by decide, by decide⟩

end Endpoints

end MicrotunSigner
