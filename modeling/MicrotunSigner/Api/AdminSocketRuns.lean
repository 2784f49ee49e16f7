import MicrotunSigner.Api.AdminSocket
import MicrotunSigner.Config.Accepted

/-!
# Who can reach the admin socket

In every execution of the listeners of `run_server` among the other users of the machine, whichever
calls fail: the socket that the service listens on admits root, the service and the group of the
configuration (without one, the group that a new socket gets), and the service removes and changes
no file but a socket at its path (`admin_socket_private`). The directory of the socket belongs to
root or the service, which does not check it, and the umask takes away the write permission of group
and others.
-/

namespace MicrotunSigner

open Lib Lib.Text

namespace AdminProcess

variable {process : AdminProcess} {server : ServerConfig} {fs fs' : AdminFs} {number : Nat}
  {gid mode : UInt32} {parent : Option AdminNode}

/-- The group of the configuration, or the one that a new socket gets. -/
def OfGroup (process : AdminProcess) (server : ServerConfig) (parent : Option AdminNode)
    (gid : UInt32) : Prop :=
  match server.adminSocketGroup with
  | some name => process.groups (bytes name) gid = true
  | none => gid = process.newGid parent

/-- The socket that the service listens on is closed to all others. -/
def Private (process : AdminProcess) (server : ServerConfig) (fs : AdminFs) : Prop :=
  ∀ number, fs.listening = some number → ∃ node, fs.nodes number = some node ∧
    node.fileType = .socket ∧ ∀ user groups, node.connectableBy user groups = true →
      user = 0 ∨ user = process.euid ∨ ∃ gid ∈ groups, process.OfGroup server fs.parent gid

/-- What a call acts on when it is made. -/
def MayCall (process : AdminProcess) (server : ServerConfig) (fs : AdminFs) : SocketOp → Prop
  | .getgrnamR name bufferLen => server.adminSocketGroup = some name ∧
      ∃ doublings ≤ 6, bufferLen = 16 * 1024 * 2 ^ doublings
  | .removeFile => ∃ node, fs.node? = some node ∧ node.fileType = .socket
  | .chown _ | .setPermissions _ => ∃ number, fs.listening = some number ∧ fs.follow = some number
  | .serve listener => fs.listening = some listener ∧ fs.entry = some listener ∧
      ∃ gid, process.OfGroup server fs.parent gid ∧ fs.nodes listener =
        some ⟨.socket, process.euid, gid, server.adminSocketMode, none⟩
  | _ => True

def Guarantee (process : AdminProcess) (server : ServerConfig) (fs : AdminFs) (op : SocketOp) :
    Prop :=
  process.Private server fs ∧ process.MayCall server fs op

/-- What a part of the service does and leaves behind, whatever the others do meanwhile. -/
abbrev Guards (process : AdminProcess) (server : ServerConfig) {α : Type}
    (post : Except String α → AdminFs → Prop) (P : AdminFs → Prop) (p : SocketProg α) : Prop :=
  process.adminWorld.Triple (process.Guarantee server) post P p

/-! ## The other users -/

/-- The directory of the socket, which belongs to root or the service. -/
structure Owned (process : AdminProcess) (parent : Option AdminNode) (fs : AdminFs) : Prop where
  same : fs.parent = parent
  owner : ∀ node, parent = some node → node.uid = 0 ∨ node.uid = process.euid

/-- What the others leave as it is. -/
structure OtherStep (process : AdminProcess) (fs fs' : AdminFs) : Prop where
  parent : fs'.parent = fs.parent
  listening : fs'.listening = fs.listening
  entry : ∀ parent, fs.parent = some parent → parent.mode &&& 0o022 = 0 → fs'.entry = fs.entry
  nodes : ∀ number node, fs.nodes number = some node → ∃ node', fs'.nodes number = some node' ∧
    node'.fileType = node.fileType ∧ (node.uid = process.euid → node' = node)

/-- A change of a file that is not the service's. -/
theorem OtherStep.of_set {changed : AdminNode} (hchanged : ∀ node, fs.nodes number = some node →
    changed.fileType = node.fileType ∧ node.uid ≠ process.euid) :
    process.OtherStep fs (fs.set number changed) where
  parent := rfl
  listening := rfl
  entry _ _ _ := rfl
  nodes n node hnode := by
    by_cases hn : n = number
    · subst hn
      obtain ⟨htype, huid⟩ := hchanged node hnode
      exact ⟨changed, Function.update_self .., htype, fun h => absurd h huid⟩
    · refine ⟨node, ?_, rfl, fun _ => rfl⟩
      rw [AdminFs.set]
      dsimp only
      rw [Function.update_of_ne hn, hnode]

theorem Owned.ne_owner {node : AdminNode} {user : UInt32} (h : process.Owned parent fs)
    (hother : process.Other user) (hnode : fs.parent = some node) : node.uid ≠ user := by
  rintro rfl
  rcases h.owner node (h.same ▸ hnode) with hroot | hservice
  · exact hother.1 hroot
  · exact hother.2 hservice

theorem other_step {act : UInt32 × AdminFsOp} (howned : process.Owned parent fs)
    (h : process.adminWorld.other fs act = some fs') : process.OtherStep fs fs' := by
  obtain ⟨user, op⟩ := act
  dsimp only [adminWorld] at h
  split at h
  swap
  · cases h
  rename_i hother
  have howner : ∀ node, fs.parent = some node → node.uid ≠ user :=
    fun node hnode => howned.ne_owner hother hnode
  obtain ⟨hroot, hservice⟩ := hother
  cases op with
  | relink target =>
    obtain ⟨parent, hparent, h⟩ := Option.bind_eq_some_iff.mp h
    split at h
    · rename_i hwrite
      cases h
      refine ⟨rfl, rfl, fun parent' hparent' hmode => ?_, fun n node hnode =>
        ⟨node, hnode, rfl, fun _ => rfl⟩⟩
      rw [hparent] at hparent'
      cases hparent'
      simp [AdminNode.writableBy, hroot, howner parent hparent, hmode] at hwrite
    · cases h
  | create n node =>
    dsimp only [AdminFs.apply] at h
    split at h
    · rename_i hc
      cases h
      exact .of_set fun node hnode => by rw [hc.1] at hnode; cases hnode
    · cases h
  | chmod n mode =>
    obtain ⟨node, hnode, h⟩ := Option.bind_eq_some_iff.mp h
    split at h
    · rename_i hc
      cases h
      refine .of_set fun node' hnode' => ?_
      rw [hnode] at hnode'
      cases hnode'
      exact ⟨rfl, (hc.resolve_left hroot).symm ▸ hservice⟩
    · cases h
  | chgrp n gid =>
    obtain ⟨node, hnode, h⟩ := Option.bind_eq_some_iff.mp h
    split at h
    · rename_i hc
      cases h
      refine .of_set fun node' hnode' => ?_
      rw [hnode] at hnode'
      cases hnode'
      exact ⟨rfl, (hc.resolve_left hroot).symm ▸ hservice⟩
    · cases h
  | chmodParent mode =>
    obtain ⟨parent, hparent, h⟩ := Option.bind_eq_some_iff.mp h
    split at h
    · rename_i hc
      exact absurd (hc.resolve_left hroot) (howner parent hparent)
    · cases h

/-! ## Assertions -/

/-- Before the service listens. -/
structure Unbound (process : AdminProcess) (parent : Option AdminNode) (fs : AdminFs) : Prop
    extends process.Owned parent fs where
  listening : fs.listening = none

/-- Only its owner may change the directory. -/
def ParentSafe (parent : Option AdminNode) : Prop :=
  ∃ node, parent = some node ∧ node.mode &&& 0o022 = 0

/-- A socket is at the path. -/
def Stale (fs : AdminFs) : Prop := ∃ node, fs.node? = some node ∧ node.fileType = .socket

/-- The service listens on a socket of its own, which may be gone from the path. -/
structure Listening (process : AdminProcess) (parent : Option AdminNode) (number : Nat)
    (gid mode : UInt32) (fs : AdminFs) : Prop extends process.Owned parent fs where
  safe : ParentSafe parent
  listening : fs.listening = some number
  node : fs.nodes number = some ⟨.socket, process.euid, gid, mode, none⟩

/-- The socket is at the path. -/
structure Bound (process : AdminProcess) (parent : Option AdminNode) (number : Nat)
    (gid mode : UInt32) (fs : AdminFs) : Prop
    extends process.Listening parent number gid mode fs where
  entry : fs.entry = some number

theorem OtherStep.owned (h : process.OtherStep fs fs') (howned : process.Owned parent fs) :
    process.Owned parent fs' := ⟨h.parent.trans howned.same, howned.owner⟩

theorem OtherStep.entry_eq (h : process.OtherStep fs fs') (howned : process.Owned parent fs)
    (hsafe : ParentSafe parent) : fs'.entry = fs.entry := by
  obtain ⟨node, hnode, hmode⟩ := hsafe
  exact h.entry node (howned.same.trans hnode) hmode

theorem stable_unbound : process.adminWorld.Stable (process.Unbound parent) := by
  rintro fs act fs' ⟨howned, hlistening⟩ hother
  have hstep := other_step howned hother
  exact ⟨hstep.owned howned, hstep.listening.trans hlistening⟩

theorem stable_safe :
    process.adminWorld.Stable fun fs => process.Unbound parent fs ∧ ParentSafe parent :=
  stable_unbound.and fun _ _ _ h _ => h

theorem stable_stale : process.adminWorld.Stable fun fs =>
    (process.Unbound parent fs ∧ ParentSafe parent) ∧ Stale fs := by
  rintro fs act fs' ⟨hsafe, node, hnode, htype⟩ hother
  refine ⟨stable_safe fs act fs' hsafe hother, ?_⟩
  have hstep := other_step hsafe.1.toOwned hother
  obtain ⟨number, hentry, hnode⟩ := Option.bind_eq_some_iff.mp hnode
  obtain ⟨node', hnode', htype', -⟩ := hstep.nodes number node hnode
  refine ⟨node', ?_, htype'.trans htype⟩
  rw [AdminFs.node?, hstep.entry_eq hsafe.1.toOwned hsafe.2, hentry]
  exact hnode'

theorem stable_listening :
    process.adminWorld.Stable (process.Listening parent number gid mode) := by
  rintro fs act fs' ⟨howned, hsafe, hlistening, hnode⟩ hother
  have hstep := other_step howned hother
  obtain ⟨node', hnode', -, heq⟩ := hstep.nodes number _ hnode
  cases heq rfl
  exact ⟨hstep.owned howned, hsafe, hstep.listening.trans hlistening, hnode'⟩

theorem stable_bound : process.adminWorld.Stable (process.Bound parent number gid mode) := by
  rintro fs act fs' ⟨hl, hentry⟩ hother
  have hstep := other_step hl.toOwned hother
  exact ⟨stable_listening fs act fs' hl hother, (hstep.entry_eq hl.toOwned hl.safe).trans hentry⟩

/-! ## Modes -/

/-- Who may connect: root, the owner, the group or all, as the mode says. -/
theorem connectableBy_cases {user : UInt32} {groups : List UInt32} {node : AdminNode}
    (h : node.connectableBy user groups = true) : user = 0 ∨ user = node.uid ∨
      (node.gid ∈ groups ∧ node.mode &&& 0o020 ≠ 0) ∨ node.mode &&& 0o002 ≠ 0 := by
  simp only [AdminNode.connectableBy, Bool.or_eq_true, beq_iff_eq] at h
  rcases h with h | h
  · exact .inl h
  · split at h
    · rename_i huser
      exact .inr (.inl huser)
    · split at h
      · rename_i hgroup
        exact .inr (.inr (.inl ⟨by simpa using hgroup, by simpa using h⟩))
      · exact .inr (.inr (.inr (by simpa using h)))

/-- The mode of a socket whose group, if it admits one, is the right one. -/
def Closed (process : AdminProcess) (server : ServerConfig) (parent : Option AdminNode)
    (gid mode : UInt32) : Prop :=
  mode &&& 0o002 = 0 ∧ (mode &&& 0o020 = 0 ∨ process.OfGroup server parent gid)

theorem Listening.isPrivate (h : process.Listening parent number gid mode fs)
    (hmode : process.Closed server parent gid mode) : process.Private server fs := by
  intro n hn
  rw [h.listening] at hn
  cases hn
  refine ⟨_, h.node, rfl, fun user groups hconnect => ?_⟩
  rcases connectableBy_cases hconnect with h0 | huser | ⟨hgroup, hbit⟩ | hbit
  · exact .inl h0
  · exact .inr (.inl huser)
  · exact .inr (.inr ⟨gid, hgroup, h.same ▸ hmode.2.resolve_left hbit⟩)
  · exact absurd hmode.1 hbit

theorem Unbound.isPrivate (h : process.Unbound parent fs) : process.Private server fs := by
  intro n hn
  rw [h.listening] at hn
  cases hn

/-- Bits that the umask of the service takes away. -/
theorem newSocket_mode {bits : UInt32} (humask : process.umask &&& 0o022 = 0o022)
    (hbits : 0o022 &&& bits = bits) : (process.newSocket parent).mode &&& bits = 0 := by
  have hnot : ~~~process.umask &&& process.umask = 0 := by
    rw [UInt32.and_comm, UInt32.and_not_self]
  calc (process.newSocket parent).mode &&& bits
      = 0o777 &&& ~~~process.umask &&& ((process.umask &&& 0o022) &&& bits) := by
        rw [humask, hbits, newSocket]
    _ = 0o777 &&& (~~~process.umask &&& process.umask) &&& (0o022 &&& bits) := by
        simp only [UInt32.and_assoc]
    _ = 0 := by rw [hnot, UInt32.and_zero, UInt32.zero_and]

theorem newSocket_closed (humask : process.umask &&& 0o022 = 0o022) :
    process.Closed server parent gid (process.newSocket parent).mode :=
  ⟨newSocket_mode humask (by decide), .inl (newSocket_mode humask (by decide))⟩

theorem configured_closed (hserver : validateServer server = .ok ())
    (hgid : process.OfGroup server parent gid) :
    process.Closed server parent gid server.adminSocketMode := by
  simp only [validateServer, Except.bind_eq_ok, bailIf_eq_ok, exists_const, Bool.or_eq_false_iff,
    bne_eq_false_iff_eq] at hserver
  obtain ⟨-, -, -, -, hothers⟩ := hserver
  refine ⟨?_, .inr hgid⟩
  calc server.adminSocketMode &&& 0o002
      = server.adminSocketMode &&& 0o007 &&& 0o002 := by rw [UInt32.and_assoc]; rfl
    _ = 0 := by rw [hothers, UInt32.zero_and]

/-! ## The calls -/

section Calls

variable {process : AdminProcess} {fs fs' : AdminFs}

theorem call_getgrnamR {name : String} {bufferLen : Nat} {ans : GroupAnswer}
    (h : process.call fs ⟨.getgrnamR name bufferLen, ans⟩ = some fs') :
    fs' = fs ∧ ∀ grName grGid, ans = .found grName grGid → process.groups grName grGid = true := by
  cases ans with
  | error rc text =>
    cases h
    exact ⟨rfl, nofun⟩
  | missing =>
    cases h
    exact ⟨rfl, nofun⟩
  | found grName grGid =>
    dsimp only [call] at h
    split at h
    · rename_i hgroup
      cases h
      refine ⟨rfl, fun grName' grGid' he => ?_⟩
      cases he
      exact hgroup
    · cases h

theorem call_metadata {ans : Except String Metadata}
    (h : process.call fs ⟨.metadata, ans⟩ = some fs') :
    fs' = fs ∧ ∀ metadata, ans = .ok metadata →
      fs.parent.map AdminNode.metadata = some metadata := by
  cases ans with
  | error e =>
    cases h
    exact ⟨rfl, nofun⟩
  | ok metadata =>
    dsimp only [call] at h
    split at h
    · rename_i hparent
      cases h
      refine ⟨rfl, fun metadata' he => ?_⟩
      cases he
      exact hparent
    · cases h

theorem call_symlinkMetadata {ans : Except IoError Metadata}
    (h : process.call fs ⟨.symlinkMetadata, ans⟩ = some fs') :
    fs' = fs ∧ ∀ metadata, ans = .ok metadata →
      fs.node?.map AdminNode.metadata = some metadata := by
  cases ans with
  | error e =>
    cases h
    exact ⟨rfl, nofun⟩
  | ok metadata =>
    dsimp only [call] at h
    split at h
    · rename_i hnode
      cases h
      refine ⟨rfl, fun metadata' he => ?_⟩
      cases he
      exact hnode
    · cases h

theorem call_removeFile {ans : Except String Unit}
    (h : process.call fs ⟨.removeFile, ans⟩ = some fs') :
    fs' = fs ∨ fs' = { fs with entry := none } := by
  cases ans with
  | error e =>
    cases h
    exact .inl rfl
  | ok u =>
    dsimp only [call] at h
    split at h
    · cases h
      exact .inr rfl
    · cases h

theorem call_bind {number : Nat} (h : process.call fs ⟨.bind, .ok number⟩ = some fs') :
    fs' = { fs.set number (process.newSocket fs.parent) with
      entry := some number, listening := some number } := by
  dsimp only [call] at h
  split at h
  · cases h
    rfl
  · cases h

end Calls

/-! ## The functions -/

section Functions

variable {path name : String} {P : AdminFs → Prop} {α : Type} {bufferLen : Nat}

/-- `gid` is one of the group database under the name. -/
def Found (process : AdminProcess) (parent : Option AdminNode) (name : String)
    (r : Except String UInt32) (fs : AdminFs) : Prop :=
  process.Unbound parent fs ∧ ∀ gid, r = .ok gid → process.groups (bytes name) gid = true

/-- One lookup, and the loop with a larger buffer if there may be one. -/
theorem triple_lookup_step (hname : server.adminSocketGroup = some name)
    (hlen : ∃ doublings ≤ 6, bufferLen = 16 * 1024 * 2 ^ doublings)
    (hmore : bufferLen < maxGroupBuffer → process.Guards server
      (process.Found parent name) (process.Unbound parent)
      (lookupGroupIdWith name (bufferLen * 2))) :
    process.Guards server (process.Found parent name) (process.Unbound parent)
      (lookupGroupIdWith name bufferLen) := by
  have hfail : ∀ e, process.Guards server (process.Found parent name)
      (process.Unbound parent) (.fail e : SocketProg UInt32) :=
    fun e => World.triple_fail stable_unbound fun fs h => ⟨h, nofun⟩
  rw [lookupGroupIdWith]
  refine World.triple_op_bind (Q := fun ans fs => process.Unbound parent fs ∧ ∀ grName grGid,
    ans = .found grName grGid → process.groups grName grGid = true) stable_unbound
    (fun fs h => ⟨h.isPrivate, hname, hlen⟩) (fun ans fs fs' h hcall => ?_) fun ans => ?_
  · obtain ⟨rfl, hgroup⟩ := call_getgrnamR hcall
    exact ⟨h, hgroup⟩
  cases ans with
  | error rc text =>
    dsimp only
    split
    · rename_i h
      exact (hmore h.2.2).mono fun fs h => h.1
    · exact (hfail _).mono fun fs h => h.1
  | missing => exact (hfail _).mono fun fs h => h.1
  | found grName grGid =>
    have hstable : process.adminWorld.Stable fun fs => process.Unbound parent fs ∧ ∀ grName' grGid',
        GroupAnswer.found grName grGid = .found grName' grGid' →
          process.groups grName' grGid' = true :=
      stable_unbound.and fun _ _ _ h _ => h
    refine World.triple_liftM_bind hstable (fun e _ fs h => ⟨h.1, nofun⟩) fun u hu => ?_
    rw [bailIf_eq_ok, bne_eq_false_iff_eq] at hu
    refine World.triple_pure hstable fun fs h => ⟨h.1, fun gid hgid => ?_⟩
    cases hgid
    rw [← hu]
    exact h.2 _ _ rfl

/-- The buffer doubles at most six times, and a group of another name is refused. -/
theorem triple_lookupGroupIdWith (hname : server.adminSocketGroup = some name) (left : Nat) :
    ∀ doublings, doublings + left = 6 → process.Guards server
      (process.Found parent name) (process.Unbound parent)
      (lookupGroupIdWith name (16 * 1024 * 2 ^ doublings)) := by
  induction left with
  | zero =>
    intro doublings hsum
    obtain rfl : doublings = 6 := by omega
    exact triple_lookup_step hname ⟨6, le_rfl, rfl⟩ fun h => absurd h (by decide)
  | succ left ih =>
    intro doublings hsum
    refine triple_lookup_step hname ⟨doublings, by omega, rfl⟩ fun _ => ?_
    have := ih (doublings + 1) (by omega)
    rwa [pow_succ, ← Nat.mul_assoc] at this

theorem triple_lookupGroupId (hname : server.adminSocketGroup = some name) :
    process.Guards server (process.Found parent name) (process.Unbound parent)
      (lookupGroupId name) := by
  unfold lookupGroupId
  split
  · exact World.triple_fail stable_unbound fun fs h => ⟨h, nofun⟩
  · exact triple_lookupGroupIdWith hname 6 0 rfl

/-- Before the socket is bound, whether or not the parent is checked. -/
def Checked (process : AdminProcess) (parent : Option AdminNode) (r : Except String Unit)
    (fs : AdminFs) : Prop :=
  process.Unbound parent fs ∧ (r = .ok () → ParentSafe parent)

theorem triple_checkParent : process.Guards server
    (process.Checked parent) (process.Unbound parent)
    (checkParent path) := by
  unfold checkParent
  refine World.triple_liftM_bind stable_unbound (fun e _ fs h => ⟨h, nofun⟩) fun directory _ => ?_
  -- The answer is the parent's metadata, which the others leave as it is.
  refine World.triple_op_bind (Q := fun ans fs => process.Unbound parent fs ∧
    ∀ metadata, ans = .ok metadata → fs.parent.map AdminNode.metadata = some metadata) stable_unbound
    (fun fs h => ⟨h.isPrivate, trivial⟩) (fun ans fs fs' h hcall => ?_) fun ans => ?_
  · obtain ⟨rfl, hparent⟩ := call_metadata hcall
    exact ⟨h, hparent⟩
  have hstable : process.adminWorld.Stable fun fs => process.Unbound parent fs ∧
      ∀ metadata, ans = .ok metadata → fs.parent.map AdminNode.metadata = some metadata :=
    fun fs act fs' h hother => ⟨stable_unbound fs act fs' h.1 hother, by
      rw [(other_step h.1.toOwned hother).parent]
      exact h.2⟩
  refine World.triple_liftM_bind hstable (fun e _ fs h => ⟨h.1, nofun⟩) fun metadata hans => ?_
  refine World.triple_liftM_bind hstable (fun e _ fs h => ⟨h.1, nofun⟩) fun _ _ => ?_
  refine World.triple_liftM hstable fun fs h => ⟨h.1, fun hmode => ?_⟩
  obtain ⟨node, hnode, rfl⟩ := Option.map_eq_some_iff.mp
    (h.2 metadata (withContext_eq_ok.mp hans))
  refine ⟨node, h.1.same.symm.trans hnode, ?_⟩
  rw [bailIf_eq_ok, bne_eq_false_iff_eq] at hmode
  rw [show (0o022 : UInt32) = 0o777 &&& 0o022 by decide, ← UInt32.and_assoc]
  exact hmode

theorem triple_removeStaleSocket : process.Guards server (process.Checked parent)
    (fun fs => process.Unbound parent fs ∧ ParentSafe parent) (removeStaleSocket path) := by
  refine World.triple_op_bind (Q := fun ans fs => (process.Unbound parent fs ∧ ParentSafe parent) ∧
    ∀ metadata, ans = .ok metadata → metadata.fileType = .socket → Stale fs) stable_safe
    (fun fs h => ⟨h.1.isPrivate, trivial⟩) (fun ans fs fs' h hcall => ?_) fun ans => ?_
  · obtain ⟨rfl, hnode⟩ := call_symlinkMetadata hcall
    refine ⟨h, fun metadata hans htype => ?_⟩
    obtain ⟨node, hentry, rfl⟩ := Option.map_eq_some_iff.mp (hnode metadata hans)
    exact ⟨node, hentry, htype⟩
  cases ans with
  | error e =>
    exact (World.triple_pure stable_safe fun fs h => ⟨h.1, fun _ => h.2⟩).mono fun fs h => h.1
  | ok metadata =>
    by_cases htype : metadata.fileType = .socket
    · refine World.Triple.mono
        (P := fun fs => (process.Unbound parent fs ∧ ParentSafe parent) ∧ Stale fs) ?_
        fun fs h => ⟨h.1, h.2 metadata rfl htype⟩
      refine World.triple_liftM_bind stable_stale (fun e _ fs h => ⟨h.1.1, nofun⟩) fun _ _ => ?_
      refine World.triple_op_bind
        (Q := fun _ fs => process.Unbound parent fs ∧ ParentSafe parent) stable_stale
        (fun fs h => ⟨h.1.1.isPrivate, h.2⟩) (fun ans fs fs' h hcall => ?_) fun ans => ?_
      · rcases call_removeFile hcall with rfl | rfl
        · exact h.1
        · exact ⟨⟨⟨h.1.1.same, h.1.1.owner⟩, h.1.1.listening⟩, h.1.2⟩
      exact World.triple_liftM stable_safe fun fs h => ⟨h.1, fun _ => h.2⟩
    · have hbail : ∀ e : String, bailIf (metadata.fileType != .socket) e = .error e := fun e => by
        simp [bailIf, htype]
      refine (World.triple_liftM_bind stable_safe (fun e _ fs h => ⟨h.1, nofun⟩)
        fun u hu => ?_).mono fun fs h => h.1
      rw [hbail] at hu
      cases hu

/-- A change through the path is one of the bound socket. -/
theorem Bound.follow (h : process.Bound parent number gid mode fs) : fs.follow = some number := by
  simp [AdminFs.follow, h.entry, h.node]

theorem Bound.node? (h : process.Bound parent number gid mode fs) :
    fs.node? = some ⟨.socket, process.euid, gid, mode, none⟩ := by
  rw [AdminFs.node?, h.entry]
  exact h.node

theorem Bound.change (h : process.Bound parent number gid mode fs) (f : AdminNode → AdminNode) :
    fs.change f = some (fs.set number (f ⟨.socket, process.euid, gid, mode, none⟩)) := by
  rw [AdminFs.change, h.follow, Option.bind_some, h.node, Option.map_some]

theorem Bound.set (h : process.Bound parent number gid mode fs) (gid' mode' : UInt32) :
    process.Bound parent number gid' mode'
      (fs.set number ⟨.socket, process.euid, gid', mode', none⟩) where
  same := h.same
  owner := h.owner
  safe := h.safe
  listening := h.listening
  node := Function.update_self ..
  entry := h.entry

/-- The listener that `bind_admin_socket` returns. -/
def Opened (process : AdminProcess) (parent : Option AdminNode) (server : ServerConfig)
    (gid : UInt32) (r : Except String Nat) (fs : AdminFs) : Prop :=
  process.Private server fs ∧
    ∀ number, r = .ok number → process.Bound parent number gid server.adminSocketMode fs

/-- The last call of `bind_admin_socket`, when the socket has its group. -/
theorem triple_setPermissions (hserver : validateServer server = .ok ())
    (hgid : process.OfGroup server parent gid) (hmode : process.Closed server parent gid mode)
    {context : String} :
    process.Guards server (process.Opened parent server gid)
      (process.Bound parent number gid mode) (do
        withContext (← SocketProg.setPermissions server.adminSocketMode) context
        return number) := by
  refine World.triple_op_bind (Q := fun ans => match ans with
    | .ok _ => process.Bound parent number gid server.adminSocketMode
    | .error _ => process.Bound parent number gid mode) stable_bound
    (fun fs h => ⟨h.isPrivate hmode, number, h.listening, h.follow⟩)
    (fun ans fs fs' h hcall => ?_) fun ans => ?_
  · cases ans with
    | error e =>
      cases hcall
      exact h
    | ok u =>
      dsimp only [adminWorld, call] at hcall
      rw [h.change] at hcall
      cases hcall
      exact h.set _ _
  cases ans with
  | error e => exact World.triple_fail stable_bound fun fs h => ⟨h.isPrivate hmode, nofun⟩
  | ok u =>
    refine World.triple_liftM_bind stable_bound
      (fun e he => nomatch (he : Except.ok u = .error e)) fun u _ => ?_
    refine World.triple_pure stable_bound fun fs h =>
      ⟨h.isPrivate (configured_closed hserver hgid), fun n hn => ?_⟩
    cases hn
    exact h

/-- The group is changed while the mode admits no group. -/
theorem triple_chown (hserver : validateServer server = .ok ())
    (humask : process.umask &&& 0o022 = 0o022) (hgid : process.OfGroup server parent gid)
    {context context' : String} :
    process.Guards server (process.Opened parent server gid)
      (process.Bound parent number (process.newGid parent) (process.newSocket parent).mode) (do
        withContext (← SocketProg.chown gid) context
        withContext (← SocketProg.setPermissions server.adminSocketMode) context'
        return number) := by
  have hclosed : ∀ g, process.Closed server parent g (process.newSocket parent).mode :=
    fun g => newSocket_closed humask
  refine World.triple_op_bind (Q := fun ans => match ans with
    | .ok _ => process.Bound parent number gid (process.newSocket parent).mode
    | .error _ => process.Bound parent number (process.newGid parent) (process.newSocket parent).mode)
    stable_bound
    (fun fs h => ⟨h.isPrivate (hclosed _), number, h.listening, h.follow⟩)
    (fun ans fs fs' h hcall => ?_) fun ans => ?_
  · cases ans with
    | error e =>
      cases hcall
      exact h
    | ok u =>
      dsimp only [adminWorld, call] at hcall
      rw [h.change] at hcall
      cases hcall
      exact h.set _ _
  cases ans with
  | error e => exact World.triple_fail stable_bound fun fs h => ⟨h.isPrivate (hclosed _), nofun⟩
  | ok u =>
    refine World.triple_liftM_bind stable_bound
      (fun e he => nomatch (he : Except.ok u = .error e)) fun u _ => ?_
    exact triple_setPermissions hserver hgid (hclosed gid)

theorem triple_bindAdminSocket (hserver : validateServer server = .ok ())
    (humask : process.umask &&& 0o022 = 0o022) {gid : Option UInt32}
    (hgid : process.OfGroup server parent (gid.getD (process.newGid parent))) :
    process.Guards server
      (process.Opened parent server (gid.getD (process.newGid parent))) (process.Unbound parent)
      (bindAdminSocket path server.adminSocketMode gid) := by
  unfold bindAdminSocket
  refine World.triple_bind triple_checkParent (fun u => ?_) fun e fs h => ⟨h.1.isPrivate, nofun⟩
  refine World.Triple.mono (P := fun fs => process.Unbound parent fs ∧ ParentSafe parent) ?_
    fun fs h => ⟨h.1, h.2 rfl⟩
  refine World.triple_bind triple_removeStaleSocket (fun u => ?_) fun e fs h =>
    ⟨h.1.isPrivate, nofun⟩
  refine World.Triple.mono (P := fun fs => process.Unbound parent fs ∧ ParentSafe parent) ?_
    fun fs h => ⟨h.1, h.2 rfl⟩
  refine World.triple_op_bind (Q := fun ans => match ans with
    | .ok number =>
      process.Bound parent number (process.newGid parent) (process.newSocket parent).mode
    | .error _ => fun fs => process.Unbound parent fs ∧ ParentSafe parent) stable_safe
    (fun fs h => ⟨h.1.isPrivate, trivial⟩) (fun ans fs fs' h hcall => ?_) fun ans => ?_
  · cases ans with
    | error e =>
      cases hcall
      exact h
    | ok number =>
      obtain rfl := call_bind hcall
      rw [h.1.same]
      exact ⟨⟨⟨h.1.same, h.1.owner⟩, h.2, rfl, Function.update_self ..⟩, rfl⟩
  cases ans with
  | error e => exact World.triple_fail stable_safe fun fs h => ⟨h.1.isPrivate, nofun⟩
  | ok number =>
    refine World.triple_liftM_bind stable_bound
      (fun e he => nomatch (he : Except.ok number = .error e)) fun n hn => ?_
    cases hn
    cases gid with
    | none => exact triple_setPermissions hserver hgid (newSocket_closed humask)
    | some g => exact triple_chown hserver humask hgid

theorem triple_drop (hmode : process.Closed server parent gid mode) :
    process.Guards server (fun _ => process.Listening parent number gid mode)
      (process.Bound parent number gid mode) AdminSocketGuard.drop := by
  have hwarn : ∀ text, process.Guards server
      (fun _ => process.Listening parent number gid mode) (process.Listening parent number gid mode)
      (SocketProg.warn text) := fun text =>
    World.triple_op stable_listening (fun fs h => ⟨h.isPrivate hmode, trivial⟩)
      fun ans fs fs' fs'' h hfs hothers => by
        cases hfs
        exact stable_listening.others h hothers
  unfold AdminSocketGuard.drop
  refine World.triple_op_bind (Q := fun _ => process.Bound parent number gid mode) stable_bound
    (fun fs h => ⟨h.isPrivate hmode, trivial⟩) (fun ans fs fs' h hcall => ?_) fun ans => ?_
  · obtain ⟨rfl, -⟩ := call_symlinkMetadata hcall
    exact h
  cases ans with
  | error e =>
    dsimp only
    split
    · exact (World.triple_pure stable_listening fun fs h => h).mono fun fs h => h.toListening
    · exact (hwarn _).mono fun fs h => h.toListening
  | ok metadata =>
    dsimp only
    split
    · exact (hwarn _).mono fun fs h => h.toListening
    · refine World.triple_op_bind (Q := fun _ => process.Listening parent number gid mode)
        stable_bound
        (fun fs h => ⟨h.isPrivate hmode, _, h.node?, rfl⟩) (fun ans fs fs' h hcall => ?_)
        fun ans => ?_
      · rcases call_removeFile hcall with rfl | rfl
        · exact h.toListening
        · exact ⟨⟨h.same, h.owner⟩, h.safe, h.listening, h.node⟩
      cases ans with
      | error e => exact hwarn _
      | ok u => exact World.triple_pure stable_listening fun fs h => h

/-- The socket is bound, served and removed. -/
theorem triple_serve (hserver : validateServer server = .ok ())
    (humask : process.umask &&& 0o022 = 0o022) {gid : Option UInt32}
    (hgid : process.OfGroup server parent (gid.getD (process.newGid parent))) :
    process.Guards server (fun _ => process.Private server) (process.Unbound parent)
      (do
        let listener ← bindAdminSocket path server.adminSocketMode gid
        let served ← SocketProg.serve listener
        AdminSocketGuard.drop
        withContext served "HTTP server failed" : SocketProg Unit) := by
  have hclosed := configured_closed hserver hgid
  refine World.triple_bind (triple_bindAdminSocket hserver humask hgid) (fun listener => ?_)
    fun e fs h => h.1
  refine World.Triple.mono
    (P := process.Bound parent listener (gid.getD (process.newGid parent)) server.adminSocketMode) ?_
    fun fs h => h.2 listener rfl
  refine World.triple_op_bind
    (Q := fun _ =>
      process.Bound parent listener (gid.getD (process.newGid parent)) server.adminSocketMode)
    stable_bound
    (fun fs h => ⟨h.isPrivate hclosed, h.listening, h.entry, _, h.same ▸ hgid, h.node⟩)
    (fun ans fs fs' h hcall => ?_) fun served => ?_
  · cases hcall
    exact h
  refine World.triple_bind (triple_drop hclosed) (fun u => ?_) fun e fs h => h.isPrivate hclosed
  exact World.triple_liftM stable_listening fun fs h => h.isPrivate hclosed

theorem triple_runListeners (hserver : validateServer server = .ok ())
    (humask : process.umask &&& 0o022 = 0o022) :
    process.Guards server (fun _ => process.Private server) (process.Unbound parent)
      (runListeners server) := by
  unfold runListeners
  refine World.triple_op_bind (Q := fun _ => (process.Unbound parent)) stable_unbound
    (fun fs h => ⟨h.isPrivate, trivial⟩) (fun ans fs fs' h hcall => ?_) fun bound => ?_
  · cases hcall
    exact h
  refine World.triple_liftM_bind stable_unbound (fun e _ fs h => h.isPrivate) fun u _ => ?_
  cases hgroup : server.adminSocketGroup with
  | none =>
    have hgid : process.OfGroup server parent (none.getD (process.newGid parent)) := by
      rw [OfGroup, hgroup]
      rfl
    exact triple_serve hserver humask hgid
  | some name =>
    refine World.triple_bind (M := fun r fs => process.Unbound parent fs ∧
      ∀ gid, r = .ok gid → process.OfGroup server parent (gid.getD (process.newGid parent))) ?_ ?_ ?_
    · refine World.triple_bind (triple_lookupGroupId hgroup) (fun gid fs h => ?_)
        fun e fs h => ⟨h.1, nofun⟩
      have hgid : process.OfGroup server parent gid := by
        rw [OfGroup, hgroup]
        exact h.2 gid rfl
      refine World.triple_pure stable_unbound (fun fs h => ⟨h, fun gid' he => ?_⟩) fs h.1
      cases he
      exact hgid
    · exact fun gid fs h => triple_serve hserver humask (h.2 gid rfl) fs h.1
    · exact fun e fs h => h.1.isPrivate

end Functions

end AdminProcess

/-- The user, group and mask of the service's unit. -/
def exampleProcess : AdminProcess where
  euid := 990
  egid := 990
  umask := 0o077
  groups name gid := name == bytes "microtun-signer-operators" && gid == 980

/-- A socket that an earlier run left, in the runtime directory of the unit. -/
def exampleAdminFs : AdminFs where
  parent := some ⟨.directory, 990, 990, 0o751, none⟩
  entry := some 1
  nodes number := if number = 1 then some ⟨.socket, 990, 980, 0o660, none⟩ else none
  listening := none

theorem lookupGroupId_found {name : String} (hname : (bytes name).findIdx? (· == 0) = none) :
    ∃ next, lookupGroupId name = Prog.call (.getgrnamR name (16 * 1024)) next ∧
      ∀ gid, next (.found (bytes name) gid) = Prog.done gid := by
  rw [lookupGroupId, hname]
  dsimp only
  rw [lookupGroupIdWith]
  refine ⟨_, rfl, fun gid => ?_⟩
  have hsame : bailIf (bytes name != bytes name)
      s!"group lookup for {name} returned a different group" = .ok () := by simp
  change Prog.bind (Prog.ofExcept (bailIf _ _)) _ = _
  rw [hsame]
  rfl

end MicrotunSigner
