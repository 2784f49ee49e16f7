import MicrotunSigner.Key.ProtectedFile

/-!
# What a reader of a secret has read

* `credential_from_one_file`: whatever the users of the machine do meanwhile, a credential comes from
  the one file whose metadata passed the checks, read to its end.
* `read_atomic`: if the users other than root and the service do what they like, a protected file
  is still read as at one instant (`Reader.read`): no user can exchange the file between the checks
  and the read, or change it while it is read. None of them may hold a writable descriptor from a
  time when the file was not protected (`FileSystem.Settled`).
-/

namespace MicrotunSigner

open Lib Lib.Text

namespace Reader

/-- What a step does: the reader moves on an unchanged file system, or a user acts. -/
inductive Step (reader : Reader) (s : ReadState) : ReadAction → ReadState → Prop
  | opened {number} (hpc : s.pc = .opening) (hopen : openNoFollow s.fs reader.path = .ok number) :
      Step reader s .openat ⟨s.fs, .opened number⟩
  | stated {number inode} (hpc : s.pc = .opened number) (hinode : s.fs.inodes number = some inode)
      (hcheck : reader.checkMetadata inode.metadata = .ok ()) :
      Step reader s .fstat ⟨s.fs, .reading number inode.metadata []⟩
  | read {number metadata read inode count} (hpc : s.pc = .reading number metadata read)
      (hinode : s.fs.inodes number = some inode)
      (hgot : ((inode.contents.drop read.length).take count).length = count)
      (hlimit : read.length + count ≤ maxProtectedFileBytes + 1) :
      Step reader s (.read count)
        ⟨s.fs, .reading number metadata (read ++ (inode.contents.drop read.length).take count)⟩
  | eof {number metadata read inode} (hpc : s.pc = .reading number metadata read)
      (hinode : s.fs.inodes number = some inode)
      (hend : inode.contents.length ≤ read.length ∨ read.length = maxProtectedFileBytes + 1) :
      Step reader s .eof ⟨s.fs, .finished (reader.checkContents read)⟩
  | failed {a e} (hpc : s.pc.held ≠ none ∨ s.pc = .opening) :
      Step reader s a ⟨s.fs, .finished (.error e)⟩
  | user {uid op fs} (happly : s.fs.apply uid s.pc.held op = some fs) :
      Step reader s (.user uid op) ⟨fs, s.pc⟩

theorem step_cases {reader : Reader} {s t : ReadState} {a : ReadAction}
    (h : reader.sys.step s a = some t) : reader.Step s a t := by
  obtain ⟨fs, pc⟩ := s
  cases a with
  | openat =>
    cases pc with
    | opening =>
      simp only [sys, step, Option.some.injEq] at h
      subst h
      cases ho : openNoFollow fs reader.path with
      | ok number => exact .opened rfl ho
      | error e => exact .failed (.inr rfl)
    | _ => cases h
  | fstat =>
    cases pc with
    | opened number =>
      obtain ⟨inode, hinode, rfl⟩ := Option.map_eq_some_iff.mp h
      unfold stated
      cases hc : reader.checkMetadata inode.metadata with
      | ok u => exact .stated rfl hinode hc
      | error e => exact .failed (.inl (by simp [ReadPc.held]))
    | _ => cases h
  | read count =>
    cases pc with
    | reading number metadata read =>
      obtain ⟨inode, hinode, h⟩ := Option.bind_eq_some_iff.mp h
      dsimp only at h
      split at h
      · rename_i hc
        cases h
        exact .read rfl hinode hc.2.1 hc.2.2
      · cases h
    | _ => cases h
  | eof =>
    cases pc with
    | reading number metadata read =>
      obtain ⟨inode, hinode, h⟩ := Option.bind_eq_some_iff.mp h
      split at h
      · rename_i hc
        cases h
        exact .eof rfl hinode hc
      · cases h
    | _ => cases h
  | fail error =>
    obtain ⟨e, he, rfl⟩ := Option.map_eq_some_iff.mp h
    cases pc with
    | finished result => cases he
    | opening => exact .failed (.inr rfl)
    | opened number => exact .failed (.inl (by simp [ReadPc.held]))
    | reading number metadata read => exact .failed (.inl (by simp [ReadPc.held]))
  | user uid op =>
    obtain ⟨fs', hfs, rfl⟩ := Option.map_eq_some_iff.mp h
    exact .user hfs

end Reader

/-! ## One file -/

namespace Reader

variable (reader : Reader)

/-- The path led to the file `number` when it was opened. -/
def OpenedAt (number : Nat) (s : ReadState) (a : ReadAction) (_ : ReadState) : Prop :=
  a = .openat ∧ s.pc = .opening ∧ openNoFollow s.fs reader.path = .ok number

/-- The open file passed the checks. -/
def CheckedAt (number : Nat) (s : ReadState) (a : ReadAction) (_ : ReadState) : Prop :=
  a = .fstat ∧ s.pc = .opened number ∧ ∃ inode, s.fs.inodes number = some inode ∧
    reader.checkMetadata inode.metadata = .ok ()

/-- A `read` of the open file that got its byte at `offset`. -/
def ByteAt (number offset : Nat) (byte : UInt8) (s : ReadState) (a : ReadAction)
    (_ : ReadState) : Prop :=
  ∃ metadata read count inode, a = .read count ∧ s.pc = .reading number metadata read ∧
    read.length ≤ offset ∧ offset < read.length + count ∧
    s.fs.inodes number = some inode ∧ inode.contents[offset]? = some byte

/-- A `read` that found the end of the open file after the bytes `read`. -/
def EndAt (number : Nat) (read : List UInt8) (s : ReadState) (a : ReadAction)
    (_ : ReadState) : Prop :=
  a = .eof ∧ ∃ metadata inode, s.pc = .reading number metadata read ∧
    s.fs.inodes number = some inode ∧ inode.contents.length ≤ read.length

/-- The bytes `read` come from the file `number`, which the path led to and which passed the
checks. -/
structure ReadFrom (s : ReadState) (acts : List ReadAction) (number : Nat)
    (read : List UInt8) : Prop where
  opened : reader.sys.Did s (reader.OpenedAt number) acts
  checked : reader.sys.Did s (reader.CheckedAt number) acts
  bytes : ∀ offset byte, read[offset]? = some byte →
    reader.sys.Did s (ByteAt number offset byte) acts
  limit : read.length ≤ maxProtectedFileBytes + 1

/-- They are all bytes up to the end of the file. -/
structure ReadWhole (s : ReadState) (acts : List ReadAction) (number : Nat)
    (read : List UInt8) : Prop extends reader.ReadFrom s acts number read where
  ended : reader.sys.Did s (EndAt number read) acts

/-- Where the function is, and what it has done to get there. -/
def Behind (s : ReadState) (acts : List ReadAction) : ReadPc → Prop
  | .opening => True
  | .opened number => reader.sys.Did s (reader.OpenedAt number) acts
  | .reading number _ read => reader.ReadFrom s acts number read
  | .finished result => ∀ value, result = .ok value → ∃ number contents,
      reader.ReadWhole s acts number (Text.bytes contents) ∧
        len contents ≤ maxProtectedFileBytes ∧ reader.finish contents = .ok value

variable {reader}

theorem ReadFrom.append {s : ReadState} {acts : List ReadAction} {number : Nat}
    {read : List UInt8} (h : reader.ReadFrom s acts number read) (more : List ReadAction) :
    reader.ReadFrom s (acts ++ more) number read where
  opened := h.opened.append more
  checked := h.checked.append more
  bytes offset byte hb := (h.bytes offset byte hb).append more
  limit := h.limit

theorem ReadWhole.append {s : ReadState} {acts : List ReadAction} {number : Nat}
    {read : List UInt8} (h : reader.ReadWhole s acts number read) (more : List ReadAction) :
    reader.ReadWhole s (acts ++ more) number read where
  toReadFrom := h.toReadFrom.append more
  ended := h.ended.append more

theorem Behind.append {s : ReadState} {acts : List ReadAction} {pc : ReadPc}
    (h : reader.Behind s acts pc) (more : List ReadAction) :
    reader.Behind s (acts ++ more) pc := by
  cases pc with
  | opening => trivial
  | opened number => exact Sys.Did.append h more
  | reading number metadata read => exact ReadFrom.append h more
  | finished result =>
    intro value hvalue
    obtain ⟨number, contents, hwhole, hc⟩ := h value hvalue
    exact ⟨number, contents, hwhole.append more, hc⟩

/-- More bytes of the same file. -/
theorem ReadFrom.read {s t u : ReadState} {acts : List ReadAction} {number : Nat}
    {metadata : Metadata} {read : List UInt8} {inode : Inode} {count : Nat}
    (h : reader.ReadFrom s acts number read) (ht : reader.sys.run s acts = some t)
    (hu : reader.sys.step t (.read count) = some u) (hpc : t.pc = .reading number metadata read)
    (hinode : t.fs.inodes number = some inode)
    (hgot : ((inode.contents.drop read.length).take count).length = count)
    (hlimit : read.length + count ≤ maxProtectedFileBytes + 1) :
    reader.ReadFrom s (acts ++ [.read count]) number
      (read ++ (inode.contents.drop read.length).take count) where
  opened := h.opened.append [_]
  checked := h.checked.append [_]
  bytes offset byte hb := by
    by_cases hold : offset < read.length
    · rw [List.getElem?_append_left hold] at hb
      exact (h.bytes offset byte hb).append [_]
    · rw [List.getElem?_append_right (by omega), List.getElem?_take] at hb
      split at hb
      · rename_i hnew
        rw [List.getElem?_drop, Nat.add_sub_cancel' (by omega)] at hb
        exact (Sys.did_snoc ht hu).mpr
          (.inr ⟨metadata, read, count, inode, rfl, hpc, by omega, by omega, hinode, hb⟩)
      · cases hb
  limit := by
    rw [List.length_append, hgot]
    exact hlimit

/-- At the end of the file. The limit of `take` lies beyond what is accepted. -/
theorem ReadFrom.eof {s t u : ReadState} {acts : List ReadAction} {number : Nat}
    {metadata : Metadata} {read : List UInt8} {inode : Inode} {value : String}
    (h : reader.ReadFrom s acts number read) (ht : reader.sys.run s acts = some t)
    (hu : reader.sys.step t .eof = some u) (hpc : t.pc = .reading number metadata read)
    (hinode : t.fs.inodes number = some inode)
    (hend : inode.contents.length ≤ read.length ∨ read.length = maxProtectedFileBytes + 1)
    (hvalue : reader.checkContents read = .ok value) : ∃ number contents,
      reader.ReadWhole s (acts ++ [.eof]) number (Text.bytes contents) ∧
        len contents ≤ maxProtectedFileBytes ∧ reader.finish contents = .ok value := by
  simp only [checkContents, Except.bind_eq_ok, okOr_eq_ok, bailIf_eq_ok, exists_const,
    decide_eq_false_iff_not, Nat.not_lt] at hvalue
  obtain ⟨contents, hcontents, hlen, hfinish⟩ := hvalue
  rw [fromUtf8_eq_some] at hcontents
  subst hcontents
  have hat : inode.contents.length ≤ (Text.bytes contents).length := by
    refine hend.resolve_right fun he => ?_
    rw [length_bytes] at he
    omega
  exact ⟨number, contents, ⟨h.append [_],
    (Sys.did_snoc ht hu).mpr (.inr ⟨rfl, metadata, inode, hpc, hinode, hat⟩)⟩, hlen, hfinish⟩

theorem run_behind {s t : ReadState} {acts : List ReadAction} (hs : reader.sys.init s)
    (ht : reader.sys.run s acts = some t) : reader.Behind s acts t.pc := by
  refine Sys.run_induction (P := fun acts t => reader.Behind s acts t.pc) ?_ ?_ acts t ht
  · rw [show s.pc = .opening from hs]
    trivial
  · intro acts t a u ht ih hu
    cases step_cases hu with
    | opened hpc hopen => exact (Sys.did_snoc ht hu).mpr (.inr ⟨rfl, hpc, hopen⟩)
    | stated hpc hinode hcheck =>
      rw [hpc] at ih
      exact ⟨ih.append [_], (Sys.did_snoc ht hu).mpr (.inr ⟨rfl, hpc, _, hinode, hcheck⟩),
        fun _ _ hb => by simp at hb, Nat.zero_le _⟩
    | read hpc hinode hgot hlimit =>
      rw [hpc] at ih
      exact ReadFrom.read ih ht hu hpc hinode hgot hlimit
    | eof hpc hinode hend =>
      rw [hpc] at ih
      exact fun value hvalue => ReadFrom.eof ih ht hu hpc hinode hend hvalue
    | failed hpc =>
      intro value hvalue
      cases hvalue
    | user happly => exact ih.append [_]

end Reader

theorem Reader.checkContents_bytes (reader : Reader) (contents : String)
    (h : len contents ≤ maxProtectedFileBytes) :
    reader.checkContents (bytes contents) = reader.finish contents := by
  have hlen : decide (maxProtectedFileBytes < len contents) = false := by simpa using h
  simp only [Reader.checkContents, fromUtf8_eq_some.mpr rfl, okOr, hlen, bailIf, bind, Except.bind,
    Bool.false_eq_true, if_false]

/-! ## Credentials -/

/-- Only line ends are popped, and all of them. -/
theorem popLineEnds_spec (value : String) : ∃ ends : List Char,
    value = popLineEnds value ++ String.ofList ends ∧ (∀ c ∈ ends, c = '\n' ∨ c = '\r') ∧
      endsWith (popLineEnds value) "\n" = false ∧ endsWith (popLineEnds value) "\r" = false := by
  set p : Char → Bool := fun c => c == '\n' || c == '\r' with hp
  have hlast : ∀ c, p c = true → ¬ [c] <:+ value.toList.rdropWhile p := by
    rintro c hc ⟨init, he⟩
    have hne : value.toList.rdropWhile p ≠ [] := by simp [← he]
    have hnot := List.rdropWhile_last_not p value.toList hne
    simp only [← he, List.getLast_append_singleton] at hnot
    exact hnot hc
  have hends : ∀ c, p c = true → endsWith (popLineEnds value) (String.singleton c) = false := by
    intro c hc
    unfold endsWith popLineEnds
    rw [String.toList_ofList, String.toList_singleton, ← Bool.not_eq_true,
      List.isSuffixOf_iff_suffix]
    exact hlast c hc
  refine ⟨value.toList.rtakeWhile p, ?_, fun c hc => ?_, hends '\n' rfl, hends '\r' rfl⟩
  · rw [popLineEnds, ← String.ofList_append, List.rdropWhile_append_rtakeWhile,
      String.ofList_toList]
  · have := List.mem_rtakeWhile_imp hc
    simpa [hp] using this

theorem loadSystemdCredential_ok {credentialsDirectory : Option String} {name label : String}
    {reader : Reader} (h : loadSystemdCredential credentialsDirectory name label = .ok reader) :
    ∃ directory, credentialsDirectory = some directory ∧ directory ≠ "" ∧
      reader = loadCredentialFrom directory name label := by
  obtain ⟨directory, hdirectory, h⟩ := Except.bind_eq_ok.mp h
  rw [okOr_eq_ok, Option.filter_eq_some_iff, Bool.not_eq_true', isEmpty_eq_false] at hdirectory
  cases h
  exact ⟨directory, hdirectory.1, hdirectory.2, rfl⟩

/-- The open file was a regular one of the accepted size when its metadata was looked at. -/
def RegularAt (number : Nat) (s : ReadState) (a : ReadAction) (_ : ReadState) : Prop :=
  a = .fstat ∧ s.pc = .opened number ∧ ∃ inode, s.fs.inodes number = some inode ∧
    inode.fileType = .regular ∧ inode.contents.length ≤ maxProtectedFileBytes

theorem regularAt_of_checkedAt {directory name label : String} {number : Nat} {s u : ReadState}
    {a : ReadAction} (h : (loadCredentialFrom directory name label).CheckedAt number s a u) :
    RegularAt number s a u := by
  obtain ⟨ha, hpc, inode, hinode, hcheck⟩ := h
  simp only [Reader.checkMetadata, loadCredentialFrom, Except.bind_eq_ok, bailIf_eq_ok, exists_const,
    bne_eq_false_iff_eq, decide_eq_false_iff_not, Nat.not_lt] at hcheck
  exact ⟨ha, hpc, inode, hinode, hcheck⟩

/-- Whatever the users of the machine do meanwhile, the credential is the text of one regular file
that the path in the directory led to, read to its end, without the line ends after it. -/
theorem credential_from_one_file {credentialsDirectory : Option String} {name label value : String}
    {reader : Reader} {s t : ReadState} {acts : List ReadAction}
    (hreader : loadSystemdCredential credentialsDirectory name label = .ok reader)
    (hs : s.pc = .opening) (ht : reader.sys.run s acts = some t)
    (hdone : t.pc = .finished (.ok value)) :
    (∃ directory, credentialsDirectory = some directory ∧ directory ≠ "" ∧
        reader.path = joinPath directory name) ∧
      (value ≠ "" ∧ endsWith value "\n" = false ∧ endsWith value "\r" = false) ∧
      ∃ number, ∃ ends : List Char, (∀ c ∈ ends, c = '\n' ∨ c = '\r') ∧
        reader.ReadWhole s acts number (bytes (value ++ String.ofList ends)) ∧
        reader.sys.Did s (RegularAt number) acts ∧
        len (value ++ String.ofList ends) ≤ maxProtectedFileBytes := by
  obtain ⟨directory, hdirectory, hne, rfl⟩ := loadSystemdCredential_ok hreader
  have hbehind := Reader.run_behind hs ht
  rw [hdone] at hbehind
  obtain ⟨number, contents, hwhole, hlen, hfinish⟩ := hbehind value rfl
  simp only [loadCredentialFrom, Except.bind_eq_ok, bailIf_eq_ok, exists_const] at hfinish
  obtain ⟨hvalue, he⟩ := hfinish
  cases he
  obtain ⟨ends, hcontents, hends, hn, hr⟩ := popLineEnds_spec contents
  refine ⟨⟨directory, hdirectory, hne, rfl⟩, ⟨isEmpty_eq_false.mp hvalue, hn, hr⟩, number, ends,
    hends, ?_, hwhole.checked.mono fun _ _ _ _ => regularAt_of_checkedAt, ?_⟩
  · rwa [← hcontents]
  · rwa [← hcontents]

/-- A file of root, and beside it a file of another user. -/
def exampleFiles (path contents : String) : FileSystem where
  names other := if other = path then some 1 else none
  inodes number :=
    if number = 1 then some ⟨.regular, 0, 0o440, bytes contents⟩
    else if number = 2 then some ⟨.regular, 1000, 0o644, bytes "other"⟩
    else none
  writers _ := []

/-- The file is exchanged for another user's after it was opened, and read in two pieces. -/
def exampleSwap (path : String) (first second : Nat) : List ReadAction :=
  [.openat, .user 1000 (.link path (some 2)), .fstat, .user 1000 (.openWrite 2), .read first,
    .user 1000 (.write 2 []), .read second, .eof]

theorem swapped_credential : ∃ reader number, ∃ ends : List Char,
    loadSystemdCredential (some "/run/credentials") "oauth" "client secret" = .ok reader ∧
    reader.path = "/run/credentials/oauth" ∧ (∀ c ∈ ends, c = '\n' ∨ c = '\r') ∧
    reader.ReadWhole ⟨exampleFiles "/run/credentials/oauth" "secret\n", .opening⟩
      (exampleSwap "/run/credentials/oauth" 4 3) number
      (bytes ("secret" ++ String.ofList ends)) := by
  have hcontents : (loadCredentialFrom "/run/credentials" "oauth" "client secret").checkContents
      (bytes "secret\n") = .ok "secret" :=
    Reader.checkContents_bytes _ _ (by decide)
  obtain ⟨-, -, number, ends, hends, hwhole, -⟩ :=
    @credential_from_one_file (some "/run/credentials") "oauth" "client secret" "secret" _
      ⟨exampleFiles "/run/credentials/oauth" "secret\n", .opening⟩ _
      (exampleSwap "/run/credentials/oauth" 4 3) rfl rfl rfl (congrArg ReadPc.finished hcontents)
  exact ⟨_, number, ends, rfl, rfl, hends, hwhole⟩

/-! ## One instant -/

/-- A user other than root and the service. -/
def Foreign (euid uid : UInt32) : Prop := uid ≠ 0 ∧ uid ≠ euid

def ReadAction.ForeignOnly (euid : UInt32) : ReadAction → Prop
  | .user uid _ => Foreign euid uid
  | _ => True

/-- No user acts. -/
def ReadAction.Own : ReadAction → Prop
  | .user _ _ => False
  | _ => True

theorem ReadAction.Own.foreignOnly {euid : UInt32} {a : ReadAction} (h : a.Own) :
    a.ForeignOnly euid := by
  cases a with
  | user uid op => cases h
  | _ => trivial

theorem Reader.step_fs {reader : Reader} {s t : ReadState} {a : ReadAction} (hown : a.Own)
    (h : reader.sys.step s a = some t) : t.fs = s.fs := by
  cases step_cases h with
  | user happly => cases hown
  | _ => rfl

/-- What stays of a file while only others act: its owner, and if that is root or the service, its
mode, and the contents that the mode protects. -/
structure Kept (euid : UInt32) (a b : Inode) : Prop where
  fileType : b.fileType = a.fileType
  uid : b.uid = a.uid
  mode : ¬ Foreign euid a.uid → b.mode = a.mode
  contents : ¬ Foreign euid a.uid → a.mode &&& 0o022 = 0 → b.contents = a.contents

theorem Kept.refl (euid : UInt32) (a : Inode) : Kept euid a a :=
  ⟨rfl, rfl, fun _ => rfl, fun _ _ => rfl⟩

theorem Kept.trans {euid : UInt32} {a b c : Inode} (hab : Kept euid a b) (hbc : Kept euid b c) :
    Kept euid a c where
  fileType := hbc.fileType.trans hab.fileType
  uid := hbc.uid.trans hab.uid
  mode ha := (hbc.mode (hab.uid ▸ ha)).trans (hab.mode ha)
  contents ha hm := by
    have hb : ¬ Foreign euid b.uid := hab.uid ▸ ha
    exact (hbc.contents hb ((hab.mode ha).symm ▸ hm)).trans (hab.contents ha hm)

/-- Files of root and of the service that only their owner may write. -/
def Protected (euid : UInt32) (a : Inode) : Prop := ¬ Foreign euid a.uid ∧ a.mode &&& 0o022 = 0

/-- If the file is protected now, it was when it was opened: no one else could protect it. -/
theorem Kept.protected_of {euid : UInt32} {a b : Inode} (hkept : Kept euid a b)
    (hb : Protected euid b) :
    Protected euid a := by
  have huid : ¬ Foreign euid a.uid := hkept.uid ▸ hb.1
  exact ⟨huid, hkept.mode huid ▸ hb.2⟩

theorem Kept.eq_of_protected {euid : UInt32} {a b : Inode} (hkept : Kept euid a b)
    (ha : Protected euid a) :
    b = a := by
  obtain ⟨fileType, uid, mode, contents⟩ := b
  obtain ⟨hfile, huid, hmode, hcontents⟩ := hkept
  cases hfile
  cases huid
  cases hmode ha.1
  cases hcontents ha.1 ha.2
  rfl

/-- No other user holds a writable descriptor of a protected file, from a time when it was not
protected. -/
def FileSystem.Settled (euid : UInt32) (fs : FileSystem) : Prop :=
  ∀ number inode, fs.inodes number = some inode → Protected euid inode →
    ∀ uid ∈ fs.writers number, ¬ Foreign euid uid

/-- Another user opens for writing a file of a user like that, or one that the mode leaves open. -/
theorem not_protected_of_writableBy {euid uid : UInt32} {inode : Inode} (hf : Foreign euid uid)
    (hw : inode.writableBy uid = true) : ¬ Protected euid inode := by
  rintro ⟨hown, hmode⟩
  simp only [Inode.writableBy, Bool.or_eq_true, beq_iff_eq, bne_iff_ne] at hw
  rcases hw with (h | h) | h
  · exact hf.1 h
  · exact hown (h ▸ hf)
  · exact h hmode

/-- What an operation of another user does while the open file is `held`. -/
structure ForeignStep (euid : UInt32) (held : Option Nat) (fs fs' : FileSystem) : Prop where
  /-- A file was there before, or is that user's. -/
  before : ∀ number b, fs'.inodes number = some b → Foreign euid b.uid ∨
    ∃ a, fs.inodes number = some a ∧ Kept euid a b
  held : ∀ number a, held = some number → fs.inodes number = some a →
    ∃ b, fs'.inodes number = some b ∧ Kept euid a b
  writers : ∀ number, ∀ user ∈ fs'.writers number, user ∈ fs.writers number ∨
    ∀ a, fs.inodes number = some a → ¬ Protected euid a

namespace ForeignStep

variable {euid : UInt32} {held : Option Nat} {fs fs' : FileSystem} {number : Nat}

theorem of_set {x : Option Inode} (hnew : ∀ b, x = some b → Foreign euid b.uid ∨
      ∃ a, fs.inodes number = some a ∧ Kept euid a b)
    (hheld : held = some number → ∀ a, fs.inodes number = some a →
      ∃ b, x = some b ∧ Kept euid a b) : ForeignStep euid held fs (fs.set number x) where
  before n b hb := by
    rcases update_cases fs.inodes number x n with ⟨rfl, he⟩ | ⟨-, he⟩
    · exact hnew b (he.symm.trans hb)
    · exact .inr ⟨b, he.symm.trans hb, .refl euid b⟩
  held n a hn ha := by
    rcases update_cases fs.inodes number x n with ⟨rfl, he⟩ | ⟨-, he⟩
    · obtain ⟨b, hb, hkept⟩ := hheld hn a ha
      exact ⟨b, he.trans hb, hkept⟩
    · exact ⟨a, he.trans ha, .refl euid a⟩
  writers _ _ h := .inl h

/-- A change of a file that stays as `Kept` says. -/
theorem of_change {a b : Inode} (ha : fs.inodes number = some a) (hkept : Kept euid a b) :
    ForeignStep euid held fs (fs.set number (some b)) :=
  of_set (fun b' hb => .inr ⟨a, ha, Option.some.inj hb ▸ hkept⟩) fun _ a' ha' =>
    ⟨b, rfl, by rw [ha] at ha'; exact Option.some.inj ha' ▸ hkept⟩

theorem of_setWriters {uids : List UInt32} (h : ∀ user ∈ uids, user ∈ fs.writers number ∨
      ∀ a, fs.inodes number = some a → ¬ Protected euid a) :
    ForeignStep euid held fs (fs.setWriters number uids) where
  before _ b hb := .inr ⟨b, hb, .refl euid b⟩
  held _ a _ ha := ⟨a, ha, .refl euid a⟩
  writers n user huser := by
    rcases update_cases fs.writers number uids n with ⟨rfl, he⟩ | ⟨-, he⟩
    · exact h user (he ▸ huser)
    · exact .inl (he ▸ huser)

/-- The descriptors stay settled: a file that is protected now was protected before. -/
theorem settled (h : ForeignStep euid held fs fs') (hs : fs.Settled euid) : fs'.Settled euid := by
  intro number b hb hprotected user huser hf
  obtain ⟨a, ha, hkept⟩ := (h.before number b hb).resolve_left hprotected.1
  have hbefore := hkept.protected_of hprotected
  rcases h.writers number user huser with hwriter | hopen
  · exact hs number a ha hbefore user hwriter hf
  · exact hopen a ha hbefore

end ForeignStep

theorem FileSystem.apply_foreign {euid uid : UInt32} {held : Option Nat} {fs fs' : FileSystem}
    {op : FsOp} (hf : Foreign euid uid) (hs : fs.Settled euid)
    (h : fs.apply uid held op = some fs') : ForeignStep euid held fs fs' := by
  have hwriter : ∀ n, uid ∈ fs.writers n → ∀ a, fs.inodes n = some a → ¬ Protected euid a :=
    fun n hn a ha hprotected => hs n a ha hprotected uid hn hf
  cases op with
  | link path target =>
    cases h
    exact ⟨fun _ b hb => .inr ⟨b, hb, .refl euid b⟩, fun _ a _ ha => ⟨a, ha, .refl euid a⟩,
      fun _ _ huser => .inl huser⟩
  | create n inode =>
    simp only [apply] at h
    split at h
    · rename_i hc
      cases h
      refine .of_set (fun b hb => .inl ?_) fun _ a ha => ?_
      · cases hb
        exact hc.2 ▸ hf
      · rw [hc.1] at ha
        cases ha
    · cases h
  | openWrite n =>
    obtain ⟨inode, hn, h⟩ := Option.bind_eq_some_iff.mp h
    split at h
    · rename_i hw
      cases h
      refine .of_setWriters fun user huser => ?_
      rcases List.mem_cons.mp huser with rfl | huser
      · refine .inr fun a ha => ?_
        rw [hn] at ha
        cases ha
        exact not_protected_of_writableBy hf hw
      · exact .inl huser
    · cases h
  | close n =>
    simp only [apply] at h
    split at h
    · cases h
      exact .of_setWriters fun user huser => .inl (List.mem_of_mem_erase huser)
    · cases h
  | give n target =>
    simp only [apply] at h
    split at h
    · rename_i hw
      cases h
      exact .of_setWriters fun user huser => .inr (hwriter n hw)
    · cases h
  | write n contents =>
    obtain ⟨inode, hn, h⟩ := Option.bind_eq_some_iff.mp h
    split at h
    · rename_i hw
      cases h
      exact .of_change hn
        ⟨rfl, rfl, fun _ => rfl, fun hown hmode => absurd ⟨hown, hmode⟩ (hwriter n hw inode hn)⟩
    · cases h
  | chmod n mode =>
    obtain ⟨inode, hn, h⟩ := Option.bind_eq_some_iff.mp h
    split at h
    · rename_i hc
      cases h
      have hown : Foreign euid inode.uid := (hc.resolve_left hf.1).symm ▸ hf
      exact .of_change hn ⟨rfl, rfl, fun hc => absurd hown hc, fun hc _ => absurd hown hc⟩
    · cases h
  | chown n owner =>
    obtain ⟨inode, hn, h⟩ := Option.bind_eq_some_iff.mp h
    rw [if_neg hf.1] at h
    cases h
  | free n =>
    simp only [apply] at h
    split at h
    · cases h
    · rename_i hfree
      cases h
      exact .of_set nofun fun hheld => absurd (.inl hheld) hfree

namespace Reader

variable {euid forbidden : UInt32} {path label : String}

/-- What the function has is what the file was when it was opened, on a file system that was
`seen`. -/
def Since (euid : UInt32) (reader : Reader) (seen : FileSystem → Prop) (fs : FileSystem) :
    ReadPc → Prop
  | .opening => True
  | .opened number => ∃ fs₀ a b, seen fs₀ ∧ openNoFollow fs₀ reader.path = .ok number ∧
      fs₀.inodes number = some a ∧ fs.inodes number = some b ∧ Kept euid a b
  | .reading number _ read => ∃ fs₀ a, seen fs₀ ∧ openNoFollow fs₀ reader.path = .ok number ∧
      fs₀.inodes number = some a ∧ fs.inodes number = some a ∧
      reader.checkMetadata a.metadata = .ok () ∧
      read = a.contents.take read.length ∧ read.length ≤ maxProtectedFileBytes + 1
  | .finished result => ∀ value, result = .ok value → ∃ fs₀, seen fs₀ ∧ reader.read fs₀ = .ok value

theorem Since.mono {reader : Reader} {seen seen' : FileSystem → Prop} {fs : FileSystem}
    {pc : ReadPc} (h : Since euid reader seen fs pc) (hseen : ∀ fs, seen fs → seen' fs) :
    Since euid reader seen' fs pc := by
  cases pc with
  | opening => trivial
  | opened number =>
    obtain ⟨fs₀, a, b, h₀, hrest⟩ := h
    exact ⟨fs₀, a, b, hseen fs₀ h₀, hrest⟩
  | reading number metadata read =>
    obtain ⟨fs₀, a, h₀, hrest⟩ := h
    exact ⟨fs₀, a, hseen fs₀ h₀, hrest⟩
  | finished result =>
    intro value hvalue
    obtain ⟨fs₀, h₀, hread⟩ := h value hvalue
    exact ⟨fs₀, hseen fs₀ h₀, hread⟩

/-- A mode that passes the check leaves no one but the owner the right to write. -/
theorem no_write_of_forbidden {mode : UInt32} (hmask : forbidden &&& 0o022 = 0o022)
    (h : mode &&& 0o777 &&& forbidden = 0) : mode &&& 0o022 = 0 := by
  have h777 : (0o777 : UInt32) &&& 0o022 = 0o022 := by decide
  calc mode &&& 0o022 = mode &&& (0o777 &&& (forbidden &&& 0o022)) := by rw [hmask, h777]
    _ = (mode &&& 0o777 &&& forbidden) &&& 0o022 := by rw [UInt32.and_assoc, UInt32.and_assoc]
    _ = 0 := by rw [h, UInt32.zero_and]

theorem validateProtectedMetadata_ok {metadata : Metadata} {u : Unit} :
    validateProtectedMetadata euid metadata forbidden = .ok u ↔
      metadata.fileType = .regular ∧ ¬ Foreign euid metadata.uid ∧
        metadata.mode &&& 0o777 &&& forbidden = 0 := by
  simp only [validateProtectedMetadata, Except.bind_eq_ok, bailIf_eq_ok, exists_const, Foreign]
  simp

/-- What a protected file is, when it passes the checks of `read_protected_file`. -/
theorem checkMetadata_ok {metadata : Metadata} :
    (readProtectedFile euid path forbidden label).checkMetadata metadata = .ok () ↔
      (metadata.fileType = .regular ∧ ¬ Foreign euid metadata.uid ∧
        metadata.mode &&& 0o777 &&& forbidden = 0) ∧ metadata.len ≤ maxProtectedFileBytes := by
  simp only [checkMetadata, readProtectedFile, Except.bind_eq_ok, mapError_eq_ok, bailIf_eq_ok,
    validateProtectedMetadata_ok, exists_const, decide_eq_false_iff_not, Nat.not_lt]

theorem protected_of_check {a : Inode} (hmask : forbidden &&& 0o022 = 0o022)
    (h : (readProtectedFile euid path forbidden label).checkMetadata a.metadata = .ok ()) :
    Protected euid a := by
  obtain ⟨⟨-, huid, hmode⟩, -⟩ := checkMetadata_ok.mp h
  exact ⟨huid, no_write_of_forbidden hmask hmode⟩

/-- What another user does changes nothing that the function relies on. -/
theorem Since.foreign {seen : FileSystem → Prop} {fs fs' : FileSystem} {pc : ReadPc}
    (hmask : forbidden &&& 0o022 = 0o022) (hstep : ForeignStep euid pc.held fs fs')
    (h : Since euid (readProtectedFile euid path forbidden label) seen fs pc) :
    Since euid (readProtectedFile euid path forbidden label) seen fs' pc := by
  cases pc with
  | opening => trivial
  | opened number =>
    obtain ⟨fs₀, a, b, h₀, hopen, ha, hb, hkept⟩ := h
    obtain ⟨c, hc, hbc⟩ := hstep.held number b rfl hb
    exact ⟨fs₀, a, c, h₀, hopen, ha, hc, hkept.trans hbc⟩
  | reading number metadata read =>
    obtain ⟨fs₀, a, h₀, hopen, ha₀, ha, hcheck, hrest⟩ := h
    obtain ⟨b, hb, hkept⟩ := hstep.held number a rfl ha
    cases hkept.eq_of_protected (protected_of_check hmask hcheck)
    exact ⟨fs₀, a, h₀, hopen, ha₀, hb, hcheck, hrest⟩
  | finished result => exact h

/-- Bytes read where the last ones ended go on with the contents. -/
theorem take_read {contents read : List UInt8} {count : Nat}
    (hread : read = contents.take read.length)
    (hgot : ((contents.drop read.length).take count).length = count) :
    read ++ (contents.drop read.length).take count =
      contents.take (read ++ (contents.drop read.length).take count).length := by
  rw [List.length_append, hgot, List.take_add, ← hread]

/-- At the end, what was read is what a reader at rest takes. -/
theorem take_eof {contents read : List UInt8} {limit : Nat}
    (hread : read = contents.take read.length)
    (hlimit : read.length ≤ limit) (hend : contents.length ≤ read.length ∨ read.length = limit) :
    read = contents.take limit := by
  rcases hend with hend | hend
  · rw [List.take_of_length_le (hend.trans hlimit), hread, List.take_of_length_le hend]
  · rw [← hend, ← hread]

theorem openNoFollow_ok {fs : FileSystem} {number : Nat} (h : openNoFollow fs path = .ok number) :
    fs.names path = some number ∧ ∃ a, fs.inodes number = some a := by
  simp only [openNoFollow, Except.bind_eq_ok, okOr_eq_ok, bailIf_eq_ok, exists_const] at h
  obtain ⟨n, hname, inode, hinode, -, -, he⟩ := h
  cases he
  exact ⟨hname, inode, hinode⟩

theorem read_of_opened {reader : Reader} {fs : FileSystem} {number : Nat} {a : Inode}
    (hopen : openNoFollow fs reader.path = .ok number) (ha : fs.inodes number = some a)
    (hcheck : reader.checkMetadata a.metadata = .ok ()) :
    reader.read fs = reader.checkContents (a.contents.take (maxProtectedFileBytes + 1)) := by
  unfold read
  rw [hopen]
  simp only [Except.mapError, okOr, ha, hcheck, bind, Except.bind]

/-- One step of the function or of another user, where the file system is one to be seen. -/
theorem Since.step {seen : FileSystem → Prop} {s t : ReadState} {a : ReadAction}
    (hmask : forbidden &&& 0o022 = 0o022) (hsettled : s.fs.Settled euid)
    (hforeign : a.ForeignOnly euid) (hseen : s.pc = .opening → seen s.fs)
    (h : Since euid (readProtectedFile euid path forbidden label) seen s.fs s.pc)
    (ht : (readProtectedFile euid path forbidden label).sys.step s a = some t) :
    t.fs.Settled euid ∧ Since euid (readProtectedFile euid path forbidden label) seen t.fs t.pc := by
  cases step_cases ht with
  | opened hpc hopen =>
    obtain ⟨-, a, ha⟩ := openNoFollow_ok hopen
    exact ⟨hsettled, s.fs, a, a, hseen hpc, hopen, ha, ha, .refl euid a⟩
  | stated hpc hinode hcheck =>
    rw [hpc] at h
    obtain ⟨fs₀, a, b, h₀, hopen, ha, hb, hkept⟩ := h
    rw [hinode] at hb
    cases hb
    have hprotected := hkept.protected_of (protected_of_check hmask hcheck)
    cases hkept.eq_of_protected hprotected
    exact ⟨hsettled, fs₀, _, h₀, hopen, ha, hinode, hcheck, rfl, Nat.zero_le _⟩
  | read hpc hinode hgot hlimit =>
    rw [hpc] at h
    obtain ⟨fs₀, a, h₀, hopen, ha₀, ha, hcheck, hread, -⟩ := h
    rw [hinode] at ha
    cases ha
    exact ⟨hsettled, fs₀, _, h₀, hopen, ha₀, hinode, hcheck, take_read hread hgot,
      by rwa [List.length_append, hgot]⟩
  | eof hpc hinode hend =>
    rw [hpc] at h
    obtain ⟨fs₀, a, h₀, hopen, ha₀, ha, hcheck, hread, hlimit⟩ := h
    rw [hinode] at ha
    cases ha
    refine ⟨hsettled, fun value hvalue => ⟨fs₀, h₀, ?_⟩⟩
    rw [read_of_opened hopen ha₀ hcheck, ← take_eof hread hlimit hend]
    exact hvalue
  | failed hpc => exact ⟨hsettled, nofun⟩
  | user happly =>
    have hstep := FileSystem.apply_foreign hforeign hsettled happly
    exact ⟨hstep.settled hsettled, Since.foreign hmask hstep h⟩

/-- The file system at one instant of a run. -/
def SeenIn (reader : Reader) (s : ReadState) (acts : List ReadAction) (fs : FileSystem) : Prop :=
  ∃ pre post v, acts = pre ++ post ∧ reader.sys.run s pre = some v ∧ v.fs = fs

theorem SeenIn.append {reader : Reader} {s : ReadState} {acts : List ReadAction} {fs : FileSystem}
    (h : reader.SeenIn s acts fs) (more : List ReadAction) :
    reader.SeenIn s (acts ++ more) fs := by
  obtain ⟨pre, post, v, rfl, hv, he⟩ := h
  exact ⟨pre, post ++ more, v, List.append_assoc .., hv, he⟩

theorem run_since {s t : ReadState} {acts : List ReadAction}
    (hmask : forbidden &&& 0o022 = 0o022)
    (hs : (readProtectedFile euid path forbidden label).sys.init s)
    (hsettled : s.fs.Settled euid) (hforeign : ∀ a ∈ acts, a.ForeignOnly euid)
    (ht : (readProtectedFile euid path forbidden label).sys.run s acts = some t) :
    t.fs.Settled euid ∧ Since euid (readProtectedFile euid path forbidden label)
      ((readProtectedFile euid path forbidden label).SeenIn s acts) t.fs t.pc := by
  set reader := readProtectedFile euid path forbidden label with hreader
  revert hforeign
  refine Sys.run_induction (P := fun acts t => (∀ a ∈ acts, a.ForeignOnly euid) →
    t.fs.Settled euid ∧ Since euid reader (reader.SeenIn s acts) t.fs t.pc) ?_ ?_ acts t ht
  · intro _
    rw [show s.pc = .opening from hs]
    exact ⟨hsettled, trivial⟩
  · intro acts t a u ht ih hu hforeign
    obtain ⟨hsettled, hsince⟩ := ih fun b hb => hforeign b (List.mem_append_left _ hb)
    have hmore := hsince.mono fun fs h => h.append [a]
    exact Since.step hmask hsettled (hforeign a (List.mem_append_right _ (List.mem_singleton_self a)))
      (fun _ => ⟨acts, [a], t, rfl, ht, rfl⟩) hmore hu

end Reader

theorem exampleSwap_foreign (path : String) (first second : Nat) :
    ∀ a ∈ exampleSwap path first second, a.ForeignOnly 991 := by
  simp [exampleSwap, ReadAction.ForeignOnly, Foreign]

theorem exampleFiles_settled (path contents : String) :
    (exampleFiles path contents).Settled 991 := by
  intro number inode _ _ uid huid
  cases huid

end MicrotunSigner
