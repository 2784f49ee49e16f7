import MicrotunSigner.Client.Unlock

/-!
# What the command `unlock` prints

The command and the admin API together, in every interleaving with the requests of others: the
passphrase goes to the target's route once, and what the command prints is so in the key store
(`unlock_prints_truth`).
-/

namespace MicrotunSigner

namespace AdminClient

open Lib Lib.Text Lib.UrlPath

abbrev Event := Prog.Event Op.Ans

/-! ## Routes -/

def routeOf : UnlockTarget → AdminRoute
  | .key keyId => .unlockKey keyId
  | .keyring keyring => .unlockKeyring keyring

section Routes

variable {lib : UrlLib} {id : String} {body : List UInt8} {route : AdminRoute}

theorem adminRoute_unlock (hl : lib.Lawful) (hid : validKeyId id = true)
    (h : adminRoute lib.decodeParam (reached "/" "unlock" id) body = .ok route) :
    route = .unlockKey id := by
  by_cases hdots : id = ".."
  · subst hdots
    cases h
  by_cases hdot : id = "."
  · subst hdot
    cases h
  have hparam : routeParam "/v1/unlock/" (reached "/" "unlock" id) = some id := by
    rw [reached, if_neg hdots, if_neg hdot]
    exact routeParam_append (validKeyId_iff.mp hid).1 (not_mem_of_validKeyId hid (by decide))
  simp only [adminRoute, matchRoute, hparam, hl.decodeParam id (validKeyId_iff.mp hid).2.2, okOr,
    Except.bind_eq_ok] at h
  obtain ⟨_, hroute, -, -, he⟩ := h
  cases hroute
  cases he
  rfl

theorem adminRoute_unlockKeyring (hl : lib.Lawful) (hid : validKeyId id = true)
    (h : adminRoute lib.decodeParam (reached "/" "unlock-keyring" id) body = .ok route) :
    route = .unlockKeyring id := by
  by_cases hdots : id = ".."
  · subst hdots
    cases h
  by_cases hdot : id = "."
  · subst hdot
    cases h
  have hpath : reached "/" "unlock-keyring" id = "/v1/unlock-keyring/" ++ id := by
    rw [reached, if_neg hdots, if_neg hdot]
    rfl
  have hother : routeParam "/v1/unlock/" ("/v1/unlock-keyring/" ++ id) = none := by
    simp [routeParam, stripPrefix, String.toList_append]
  have hparam : routeParam "/v1/unlock-keyring/" ("/v1/unlock-keyring/" ++ id) = some id :=
    routeParam_append (validKeyId_iff.mp hid).1 (not_mem_of_validKeyId hid (by decide))
  simp only [adminRoute, matchRoute, hpath, hother, hparam,
    hl.decodeParam id (validKeyId_iff.mp hid).2.2, okOr, Except.bind_eq_ok] at h
  obtain ⟨_, hroute, -, -, he⟩ := h
  cases hroute
  cases he
  rfl

/-- The request of the command reaches the handler of its target, if any. -/
theorem route_of_target {keyId keyring : Option String} {target : UnlockTarget} {url : ReqwestUrl}
    (hl : lib.Lawful) (htarget : unlockTarget keyId keyring = .ok target)
    (hurl : lib.parse (unlockUrl target) = some url)
    (h : adminRoute lib.decodeParam url.pathText body = .ok route) : route = routeOf target := by
  unfold unlockTarget at htarget
  split at htarget
  · rename_i id
    simp only [Except.bind_eq_ok, bailIf_eq_ok, exists_const, Bool.not_eq_false'] at htarget
    obtain ⟨hid, he⟩ := htarget
    cases he
    obtain ⟨url', hurl', hpath⟩ :=
      localhost_reached hl "unlock" (by decide) (by decide) (by decide) hid
    rw [← String.append_assoc] at hurl'
    cases hurl.symm.trans hurl'
    rw [hpath] at h
    exact adminRoute_unlock hl hid h
  · rename_i id
    simp only [Except.bind_eq_ok, bailIf_eq_ok, exists_const, Bool.not_eq_false'] at htarget
    obtain ⟨hid, he⟩ := htarget
    cases he
    obtain ⟨url', hurl', hpath⟩ :=
      localhost_reached hl "unlock-keyring" (by decide) (by decide) (by decide) hid
    rw [← String.append_assoc] at hurl'
    cases hurl.symm.trans hurl'
    rw [hpath] at h
    exact adminRoute_unlockKeyring hl hid h
  · cases htarget

/-- A request that no handler gets is refused. -/
theorem adminRoute_error {decodeParam : String → Option String} {path : String}
    {status : StatusCode} (h : adminRoute decodeParam path body = .error status) : status.isSuccess = false := by
  simp only [adminRoute, Except.bind_eq_error, bailIf_eq_error] at h
  rcases h with h | ⟨_, -, ⟨-, rfl⟩ | ⟨_, -, h⟩⟩
  · have hdecode : ∀ {param : String} {f : String → AdminRoute},
        (okOr (decodeParam param) StatusCode.badRequest).map f = .error status →
          status.isSuccess = false := by
      intro param f he
      cases hd : decodeParam param with
      | none =>
        rw [hd] at he
        cases he
        rfl
      | some value =>
        rw [hd] at he
        cases he
    unfold matchRoute at h
    split at h
    · exact hdecode h
    · exact hdecode h
    · cases h
      rfl
  · rfl
  · cases h

end Routes

/-! ## What is said of the calls -/

/-- The lines that the command has printed. -/
def lines (h : List Event) : List String := h.filterMap fun e => match e.op with
  | .println line => some line
  | _ => none

def Event.isPost (e : Event) : Bool :=
  match e.op with
  | .post _ _ _ => true
  | _ => false

/-- The operator has typed the passphrase. -/
def Typed (h : List Event) (passphrase : String) : Prop :=
  ∃ prompt, (⟨.promptPassword prompt, .ok passphrase⟩ : Event) ∈ h

/-- The path of the admin socket: that of the arguments or of the configuration, or the default. -/
def SocketPath (args : UnlockArgs) (configPath : Option String) (h : List Event)
    (socket : String) : Prop :=
  match args.socket, configPath with
  | some path, _ => socket = path
  | none, some config => (⟨.loadConfig config, .ok socket⟩ : Event) ∈ h
  | none, none => socket = defaultAdminSocketPath

/-- There is a socket at that path. -/
structure SocketFound (args : UnlockArgs) (configPath : Option String) (h : List Event)
    (socket : String) : Prop where
  path : SocketPath args configPath h socket
  found : ∃ found : Metadata, (⟨.metadata socket, .ok found⟩ : Event) ∈ h ∧
    found.fileType = .socket

theorem lines_append (h more : List Event) : lines (h ++ more) = lines h ++ lines more :=
  List.filterMap_append

theorem Typed.append {h : List Event} {passphrase : String} (ht : Typed h passphrase)
    (more : List Event) : Typed (h ++ more) passphrase :=
  ht.imp fun _ hm => List.mem_append_left _ hm

theorem SocketPath.append {args : UnlockArgs} {configPath : Option String} {h : List Event}
    {socket : String} (hs : SocketPath args configPath h socket) (more : List Event) :
    SocketPath args configPath (h ++ more) socket := by
  unfold SocketPath at hs ⊢
  split at hs
  · exact hs
  · exact List.mem_append_left _ hs
  · exact hs

theorem SocketFound.append {args : UnlockArgs} {configPath : Option String} {h : List Event}
    {socket : String} (hs : SocketFound args configPath h socket) (more : List Event) :
    SocketFound args configPath (h ++ more) socket where
  path := hs.path.append more
  found := hs.found.imp fun _ hm => ⟨List.mem_append_left _ hm.1, hm.2⟩

section Runs

variable {P S R : Type}

/-- The crates of the command read what those of the admin API write, and the reverse. -/
structure Agrees (b : Backend P S R) (lib : UnlockLib) : Prop where
  url : lib.url.Lawful
  decode : b.decodeParam = lib.url.decodeParam
  request : ∀ request read, b.fromSlice (lib.toJson request) = some read → read = request
  response : ∀ answer read, lib.keyringResponse (b.responseJson answer) = .ok read → read = answer

/-- The line is so in the key store. -/
inductive LineTrue (b : Backend P S R) (s : AdminSt P S R) (passphrase : String) :
    UnlockTarget → String → Prop
  | key {keyId : String} {i : Nat} (position : b.store.position keyId = some i)
      (active : b.store.isActive i = true) (unlocked : (s.keys.cells i).unlocked.isSome = true) :
      LineTrue b s passphrase (.key keyId) s!"key {keyId} is unlocked"
  | member {keyring : String} {i : Nat} {result : KeyringMemberResult}
      (member : i ∈ b.store.keyringMembers keyring)
      (told : Told b.crates b.store s.keys.cells passphrase i result) :
      LineTrue b s passphrase (.keyring keyring) (keyLine ⟨b.store.idAt i, result.asStr⟩)

/-- What justifies a call, of the calls before it and the state of the admin API. -/
def Justified (b : Backend P S R) (lib : UnlockLib) (args : UnlockArgs) (configPath : Option String)
    (h : List Event) (s : AdminSt P S R) : Op → Prop
  | .loadConfig path => args.socket = none ∧ configPath = some path
  | .metadata socket => SocketPath args configPath h socket
  | .promptPassword _ => h.countP Event.isPost = 0 ∧ ∃ target socket,
      unlockTarget args.keyId args.keyring = .ok target ∧ SocketFound args configPath h socket
  | .post socket url body => h.countP Event.isPost = 0 ∧ SocketFound args configPath h socket ∧
      ∃ target passphrase, unlockTarget args.keyId args.keyring = .ok target ∧
        lib.url.parse (unlockUrl target) = some url ∧ Typed h passphrase ∧ passphrase ≠ "" ∧
        body = lib.toJson ⟨passphrase⟩ ∧
        ∀ route, adminRoute b.decodeParam url.pathText body = .ok route → route = routeOf target
  | .println line => ∃ target passphrase, unlockTarget args.keyId args.keyring = .ok target ∧
      Typed h passphrase ∧ LineTrue b s passphrase target line
  | _ => True

/-- What the command has printed when it is done: that the key is unlocked, or a line for each
member of the keyring. -/
def Reported (b : Backend P S R) (h : List Event) (s : AdminSt P S R) (passphrase : String) :
    UnlockTarget → Prop
  | .key keyId => lines h = [s!"key {keyId} is unlocked"] ∧
      LineTrue b s passphrase (.key keyId) s!"key {keyId} is unlocked"
  | .keyring keyring => ∃ r : Nat → KeyringMemberResult,
      lines h = (b.store.keyringMembers keyring).map
        (fun i => keyLine ⟨b.store.idAt i, (r i).asStr⟩) ∧
      ∀ i ∈ b.store.keyringMembers keyring,
        Told b.crates b.store s.keys.cells passphrase i (r i)

/-- How the command ends. -/
def Ended (b : Backend P S R) (args : UnlockArgs) (r : Except String Unit)
    (s : AdminSt P S R × List Event) : Prop :=
  match r with
  | .ok () => ∃ target passphrase, unlockTarget args.keyId args.keyring = .ok target ∧
      Typed s.2 passphrase ∧ Reported b s.2 s.1 passphrase target
  | .error _ => lines s.2 = []

/-! ## Before the request -/

/-- The admin API has got here from its start. -/
def Reached (b : Backend P S R) (s : AdminSt P S R) : Prop := ∃ as, b.sys.run .new as = some s

/-- Nothing is sent or printed yet, and `Q` is so of the calls. -/
structure Early (b : Backend P S R) (Q : List Event → Prop) (h : List Event) (s : AdminSt P S R) :
    Prop where
  reached : Reached b s
  lines : lines h = []
  posts : h.countP Event.isPost = 0
  calls : Q h

variable {b : Backend P S R} {lib : UnlockLib} {args : UnlockArgs} {configPath : Option String}
  {s u : AdminSt P S R} {h : List Event} {Q : List Event → Prop} {α : Type}

variable (b lib args configPath) in
/-- The command's part of the world keeps what justifies its calls. -/
abbrev Keeping (post : Except String α → AdminSt P S R × List Event → Prop)
    (P' : AdminSt P S R × List Event → Prop) (p : Command α) : Prop :=
  b.world.recorded.Triple (fun s op => Justified b lib args configPath s.2 s.1 op) post P' p

theorem Reached.step {a : AdminAct} (h : Reached b s) (hu : b.sys.step s a = some u) :
    Reached b u := by
  obtain ⟨as, hrun⟩ := h
  exact ⟨as ++ [a], Sys.run_snoc.mpr ⟨s, hrun, hu⟩⟩

theorem stable_early (h : List Event) : b.world.Stable (Early b Q h) :=
  fun _ _ _ he hu => ⟨he.reached.step hu, he.lines, he.posts, he.calls⟩

/-- A call before the request. -/
theorem early_call {o : Op} {N : o.Ans → List Event → Prop} {f : o.Ans → Command α}
    {post : Except String α → AdminSt P S R × List Event → Prop}
    (hsilent : ∀ s ans, b.call s ⟨o, ans⟩ = some s)
    (hquiet : ∀ ans, lines [⟨o, ans⟩] = [] ∧ Event.isPost ⟨o, ans⟩ = false)
    (hg : ∀ s h, Early b Q h s → Justified b lib args configPath h s o)
    (hN : ∀ ans h, Q h → N ans (h ++ [⟨o, ans⟩]))
    (hf : ∀ ans, Keeping b lib args configPath post (fun s => Early b (N ans) s.2 s.1) (f ans)) :
    Keeping b lib args configPath post (fun s => Early b Q s.2 s.1) (call o >>= f) := by
  refine World.triple_recorded_bind (P := Early b Q) (Q := fun ans => Early b (N ans)) stable_early
    hg ?_ hf
  intro ans s s' h he hcall
  cases (hsilent s ans).symm.trans hcall
  refine ⟨he.reached, ?_, ?_, hN ans h he.calls⟩
  · rw [lines_append, he.lines, (hquiet ans).1]
    rfl
  · rw [List.countP_append, he.posts, List.countP_singleton, (hquiet ans).2]
    rfl

theorem early_pure {a : α} {post : Except String α → AdminSt P S R × List Event → Prop}
    (hpost : ∀ s h, Early b Q h s → post (.ok a) (s, h)) :
    Keeping b lib args configPath post (fun s => Early b Q s.2 s.1) (pure a : Command α) :=
  World.triple_pure (World.stable_recorded stable_early) fun s hs => hpost s.1 s.2 hs

/-- A step without a call: the rest, or its error. -/
theorem early_liftM {β : Type} {x : Except String α} {f : α → Command β}
    {post : Except String β → AdminSt P S R × List Event → Prop}
    (herror : ∀ e s h, Early b Q h s → post (.error e) (s, h))
    (hf : ∀ a, x = .ok a → Keeping b lib args configPath post (fun s => Early b Q s.2 s.1) (f a)) :
    Keeping b lib args configPath post (fun s => Early b Q s.2 s.1) (liftM x >>= f) :=
  World.triple_liftM_bind (World.stable_recorded stable_early)
    (fun e _ s hs => herror e s.1 s.2 hs) hf

/-- What a program that only asks and checks leaves behind. -/
def Asks (b : Backend P S R) (Q : Except String α → List Event → Prop) (r : Except String α)
    (s : AdminSt P S R × List Event) : Prop :=
  Early b (Q r) s.2 s.1

theorem keeping_adminSocketPath : Keeping b lib args configPath
    (Asks b fun r h => ∀ socket, r = .ok socket → SocketPath args configPath h socket)
    (fun s => Early b (fun _ => True) s.2 s.1) (adminSocketPath args.socket configPath) := by
  cases hsocket : args.socket with
  | some path =>
    refine early_pure fun s h he => ⟨he.reached, he.lines, he.posts, fun socket hok => ?_⟩
    cases hok
    simp only [SocketPath, hsocket]
  | none =>
    cases configPath with
    | none =>
      refine early_pure fun s h he => ⟨he.reached, he.lines, he.posts, fun socket hok => ?_⟩
      cases hok
      simp only [SocketPath, hsocket]
    | some config =>
      refine early_call (N := fun ans h => (⟨.loadConfig config, ans⟩ : Event) ∈ h)
        (fun _ _ => rfl) (fun _ => ⟨rfl, rfl⟩) (fun _ _ _ => ⟨hsocket, rfl⟩)
        (fun _ _ _ => List.mem_concat_self ..) fun ans => ?_
      refine World.triple_liftM (World.stable_recorded stable_early) fun s he =>
        ⟨he.reached, he.lines, he.posts, fun socket hok => ?_⟩
      simp only [SocketPath, hsocket]
      exact hok ▸ he.calls

theorem keeping_resolveAdminSocket : Keeping b lib args configPath
    (Asks b fun r h => ∀ socket, r = .ok socket → SocketFound args configPath h socket)
    (fun s => Early b (fun _ => True) s.2 s.1) (resolveAdminSocket args.socket configPath) := by
  refine World.triple_bind keeping_adminSocketPath (fun socket => ?_)
    fun e s he => ⟨he.reached, he.lines, he.posts, nofun⟩
  refine World.Triple.mono (P := fun s => Early b (SocketPath args configPath · socket) s.2 s.1) ?_
    fun s he => ⟨he.reached, he.lines, he.posts, he.calls socket rfl⟩
  refine early_call (N := fun ans h => SocketPath args configPath h socket ∧
      (⟨.metadata socket, ans⟩ : Event) ∈ h) (fun _ _ => rfl) (fun _ => ⟨rfl, rfl⟩)
    (fun _ _ he => he.calls) (fun ans h hp => ⟨hp.append _, List.mem_concat_self ..⟩) fun ans => ?_
  refine early_liftM (fun e s h he => ⟨he.reached, he.lines, he.posts, nofun⟩)
    fun found hfound => ?_
  rw [withContext_eq_ok] at hfound
  refine early_liftM (fun e s h he => ⟨he.reached, he.lines, he.posts, nofun⟩) fun _ htype => ?_
  rw [bailIf_eq_ok, bne_eq_false_iff_eq] at htype
  refine early_pure fun s h he => ⟨he.reached, he.lines, he.posts, fun socket' hsocket => ?_⟩
  cases hsocket
  exact ⟨he.calls.1, found, hfound ▸ he.calls.2, htype⟩

theorem keeping_askPassword {prompt : String} {target : UnlockTarget} (socket : String)
    (htarget : unlockTarget args.keyId args.keyring = .ok target) :
    Keeping b lib args configPath
      (Asks b fun r h => SocketFound args configPath h socket ∧
        ∀ passphrase, r = .ok passphrase → Typed h passphrase)
      (fun s => Early b (SocketFound args configPath · socket) s.2 s.1) (askPassword prompt) := by
  refine early_call (N := fun ans h => SocketFound args configPath h socket ∧
      (⟨.promptPassword (toString prompt ++ " "), ans⟩ : Event) ∈ h) (fun _ _ => rfl)
    (fun _ => ⟨rfl, rfl⟩) (fun s h he => ⟨he.posts, target, socket, htarget, he.calls⟩)
    (fun ans h hs => ⟨hs.append _, List.mem_concat_self ..⟩) fun ans => ?_
  refine World.triple_liftM (World.stable_recorded stable_early) fun s he =>
    ⟨he.reached, he.lines, he.posts, he.calls.1, fun passphrase hans => ?_⟩
  rw [withContext_eq_ok] at hans
  exact ⟨_, hans ▸ he.calls.2⟩

/-! ## The request and its response -/

/-- The body of the request. -/
def bodyOf (lib : UnlockLib) (passphrase : String) : List UInt8 := lib.toJson ⟨passphrase⟩

/-- The request has gone out: it is with the handler of its target, or refused. -/
structure Sent (b : Backend P S R) (lib : UnlockLib) (target : UnlockTarget) (passphrase : String)
    (ans : Except String Connection) (h : List Event) (s : AdminSt P S R) : Prop where
  reached : Reached b s
  lines : lines h = []
  typed : Typed h passphrase
  handler : ∀ c, ans = .ok (.handler c) →
    (s.handlers c).request = some (b.request c (routeOf target) (bodyOf lib passphrase)) ∨
      s.handlers c = .gone
  refused : ∀ status, ans = .ok (.refused status) → status.isSuccess = false

/-- A response, and what a success says of the key store. -/
structure Answered (b : Backend P S R) (lib : UnlockLib) (target : UnlockTarget)
    (passphrase : String) (r : Except String Client.ApiResponse) (h : List Event)
    (s : AdminSt P S R) : Prop where
  reached : Reached b s
  lines : lines h = []
  typed : Typed h passphrase
  success : ∀ answer, r = .ok answer → answer.status.isSuccess = true → ∃ c response,
    AnswerTrue b.crates b.store b.fromSlice s.keys.cells
      (b.request c (routeOf target) (bodyOf lib passphrase)) response ∧
    ∀ body, answer.bytes = .ok body → body = (b.intoResponse (.ok response)).2

variable {target : UnlockTarget} {passphrase socket : String} {url : ReqwestUrl}
  {keys : List KeyMaterial} {keyrings : List KeyringConfig}

theorem stable_sent {ans : Except String Connection} (h : List Event) :
    b.world.Stable (Sent b lib target passphrase ans h) :=
  fun _ _ _ hs hu => ⟨hs.reached.step hu, hs.lines, hs.typed,
    fun c hc => request_step hu (hs.handler c hc), hs.refused⟩

theorem stable_answered {r : Except String Client.ApiResponse} (h : List Event) :
    b.world.Stable (Answered b lib target passphrase r h) :=
  fun _ _ _ hs hu => ⟨hs.reached.step hu, hs.lines, hs.typed, fun answer hr hok => by
    obtain ⟨c, response, htrue, hbody⟩ := hs.success answer hr hok
    exact ⟨c, response, htrue.mono (adminStep_keeps hu), hbody⟩⟩

/-- The request goes to the handler of its target alone. -/
theorem sent_of_post {ans : Except String Connection} {s' : AdminSt P S R} (hb : Agrees b lib)
    (htarget : unlockTarget args.keyId args.keyring = .ok target)
    (hurl : lib.url.parse (unlockUrl target) = some url)
    (he : Early b (fun h => SocketFound args configPath h socket ∧ Typed h passphrase) h s)
    (hcall : b.call s ⟨.post socket url (bodyOf lib passphrase), ans⟩ = some s') :
    Sent b lib target passphrase ans
      (h ++ [⟨.post socket url (bodyOf lib passphrase), ans⟩]) s' := by
  have hlines : ∀ ans, lines (h ++ [⟨.post socket url (bodyOf lib passphrase), ans⟩]) = [] := by
    intro ans
    rw [lines_append, he.lines]
    rfl
  have htyped : ∀ more, Typed (h ++ more) passphrase := he.calls.2.append
  cases ans with
  | error e =>
    cases hcall
    exact ⟨he.reached, hlines _, htyped _, nofun, nofun⟩
  | ok connection =>
    dsimp only [Backend.call] at hcall
    split at hcall
    · rename_i route c hroute
      rw [hb.decode] at hroute
      cases route_of_target hb.url htarget hurl hroute
      refine ⟨he.reached.step hcall, hlines _, htyped _, fun c' hc => .inl ?_, nofun⟩
      cases hc
      cases adminStep hcall with
      | arrive _ _ hout hidle =>
        dsimp only
        rw [Function.update_self]
        exact request_entry _
    · rename_i status status' hroute
      split at hcall
      · rename_i hstatus
        cases hcall
        refine ⟨he.reached, hlines _, htyped _, nofun, fun _ hrefused => ?_⟩
        cases hrefused
        exact hstatus ▸ adminRoute_error hroute
      · cases hcall
    · cases hcall

/-- A success comes from the handler of the target, and is true. -/
theorem answered_of_response {ans : Except String Client.ApiResponse} {connection : Connection}
    {s' : AdminSt P S R} (hw : b.store.WellFormed keyrings)
    (hs : Sent b lib target passphrase (.ok connection) h s)
    (hcall : b.call s ⟨.response connection, ans⟩ = some s') :
    Answered b lib target passphrase ans (h ++ [⟨.response connection, ans⟩]) s' := by
  have hlines : lines (h ++ [⟨.response connection, ans⟩]) = [] := by
    rw [lines_append, hs.lines]
    rfl
  have htyped := hs.typed.append [⟨.response connection, ans⟩]
  cases ans with
  | error e =>
    cases connection <;> cases hcall <;> exact ⟨hs.reached, hlines, htyped, nofun⟩
  | ok answer =>
    cases connection with
    | refused status =>
      dsimp only [Backend.call] at hcall
      split at hcall
      · rename_i hstatus
        cases hcall
        refine ⟨hs.reached, hlines, htyped, fun answer' he hok => ?_⟩
        cases he
        rw [hstatus, hs.refused status rfl] at hok
        cases hok
      · cases hcall
    | handler c =>
      dsimp only [Backend.call] at hcall
      split at hcall
      · rename_i request result hhandler
        split at hcall
        · rename_i hresponse
          cases hcall
          refine ⟨hs.reached, hlines, htyped, fun answer' he hok => ?_⟩
          cases he
          have hrequest := hs.handler c rfl
          rw [hhandler] at hrequest
          obtain hrequest | hgone := hrequest
          · cases hrequest
            obtain ⟨as, hrun⟩ := hs.reached
            obtain ⟨hstatus, hbytes⟩ := Bool.and_eq_true_iff.mp hresponse
            rw [beq_iff_eq] at hstatus
            cases result with
            | error error =>
              rw [hstatus] at hok
              cases hok.symm.trans (answer_error_status hrun hhandler)
            | ok response =>
              refine ⟨c, response, answer_true hw hrun hhandler, fun body hbody => ?_⟩
              rw [hbody] at hbytes
              exact beq_iff_eq.mp hbytes
          · cases hgone
        · cases hcall
      · cases hcall

theorem keeping_sendUnlock (hb : Agrees b lib) (hw : b.store.WellFormed keyrings)
    (htarget : unlockTarget args.keyId args.keyring = .ok target) (hne : passphrase ≠ "") :
    Keeping b lib args configPath (fun r s => Answered b lib target passphrase r s.2 s.1)
      (fun s => Early b (fun h => SocketFound args configPath h socket ∧ Typed h passphrase) s.2 s.1)
      (sendUnlock lib socket target passphrase) := by
  have hfail : ∀ e s h,
      Early b (fun h => SocketFound args configPath h socket ∧ Typed h passphrase) h s →
      Answered b lib target passphrase (.error e) h s :=
    fun e s h he => ⟨he.reached, he.lines, he.calls.2, nofun⟩
  refine early_call (N := fun _ h => SocketFound args configPath h socket ∧ Typed h passphrase)
    (fun _ _ => rfl) (fun _ => ⟨rfl, rfl⟩) (fun _ _ _ => trivial)
    (fun ans h hs => ⟨hs.1.append _, hs.2.append _⟩) fun ans => ?_
  refine early_liftM hfail fun _ _ => early_liftM hfail fun url hurl => ?_
  rw [okOr_eq_ok] at hurl
  have hroute : ∀ route, adminRoute b.decodeParam url.pathText (bodyOf lib passphrase) = .ok route →
      route = routeOf target := fun route h => route_of_target hb.url htarget hurl (hb.decode ▸ h)
  refine World.triple_recorded_bind (Q := Sent b lib target passphrase) stable_early
    (fun s h he =>
      ⟨he.posts, he.calls.1, target, passphrase, htarget, hurl, he.calls.2, hne, rfl, hroute⟩)
    (fun ans s s' h he hcall => sent_of_post hb htarget hurl he hcall) fun ans => ?_
  refine World.triple_liftM_bind (World.stable_recorded stable_sent)
    (fun e _ s hs => ⟨hs.reached, hs.lines, hs.typed, nofun⟩) fun connection hans => ?_
  rw [withContext_eq_ok] at hans
  subst hans
  refine World.triple_recorded_bind (Q := Answered b lib target passphrase) stable_sent
    (fun _ _ _ => trivial) (fun ans s s' h hs hcall => answered_of_response hw hs hcall)
    fun ans => ?_
  refine World.triple_liftM (World.stable_recorded stable_answered) fun s hs =>
    ⟨hs.reached, hs.lines, hs.typed, fun answer he hok => hs.success answer ?_ hok⟩
  exact withContext_eq_ok.mp he

/-! ## The report -/

/-- The line of a member. -/
def memberLine (b : Backend P S R) (r : Nat → KeyringMemberResult) (i : Nat) : String :=
  keyLine ⟨b.store.idAt i, (r i).asStr⟩

/-- The lines of the members `before` are printed, and each of `members` is as its line says. -/
structure Printing (b : Backend P S R) (passphrase : String) (members before : List Nat)
    (r : Nat → KeyringMemberResult) (h : List Event) (s : AdminSt P S R) : Prop where
  typed : Typed h passphrase
  lines : lines h = before.map (memberLine b r)
  told : ∀ i ∈ members, Told b.crates b.store s.keys.cells passphrase i (r i)

theorem stable_printing {members before : List Nat} {r : Nat → KeyringMemberResult}
    (h : List Event) : b.world.Stable (Printing b passphrase members before r h) :=
  fun _ _ _ hs hu => ⟨hs.typed, hs.lines, fun i hi => (hs.told i hi).mono (adminStep_keeps hu)⟩

theorem keeping_printKeys {keyring : String} {r : Nat → KeyringMemberResult}
    (htarget : unlockTarget args.keyId args.keyring = .ok (.keyring keyring)) (rest : List Nat) :
    ∀ before, before ++ rest = b.store.keyringMembers keyring →
      Keeping b lib args configPath (Ended b args)
        (fun s => Printing b passphrase (b.store.keyringMembers keyring) before r s.2 s.1)
        (printKeys (rest.map fun i => ⟨b.store.idAt i, (r i).asStr⟩)) := by
  induction rest with
  | nil =>
    intro before hall
    rw [List.append_nil] at hall
    refine World.triple_pure (World.stable_recorded stable_printing) fun s hs => ?_
    exact ⟨_, passphrase, htarget, hs.typed, r, hall ▸ hs.lines, hs.told⟩
  | cons i rest ih =>
    intro before hall
    have hi : i ∈ b.store.keyringMembers keyring := hall ▸ by simp
    refine World.triple_recorded_bind
      (Q := fun _ => Printing b passphrase (b.store.keyringMembers keyring) (before ++ [i]) r)
      stable_printing
      (fun s h hs => ⟨_, passphrase, htarget, hs.typed, .member hi (hs.told i hi)⟩) ?_
      fun _ => ih (before ++ [i]) (by rw [List.append_assoc]; exact hall)
    intro ans s s' h hs hcall
    cases hcall
    refine ⟨hs.typed.append _, ?_, hs.told⟩
    rw [lines_append, hs.lines, List.map_append]
    rfl

theorem keeping_report {answer : Client.ApiResponse} (hb : Agrees b lib)
    (htarget : unlockTarget args.keyId args.keyring = .ok target) :
    Keeping b lib args configPath (Ended b args)
      (fun s => Answered b lib target passphrase (.ok answer) s.2 s.1)
      (report lib target answer) := by
  refine World.triple_liftM_bind (World.stable_recorded stable_answered)
    (fun e _ s hs => hs.lines) fun _ hok => ?_
  rw [bailIf_eq_ok, Bool.not_eq_false'] at hok
  cases target with
  | key keyId =>
    -- The response has no body: the key of the path is unlocked.
    have hline : ∀ h s, Answered b lib (.key keyId) passphrase (.ok answer) h s →
        LineTrue b s passphrase (.key keyId) s!"key {keyId} is unlocked" := by
      intro h s hs
      obtain ⟨c, response, htrue, -⟩ := hs.success answer rfl hok
      cases response with
      | noContent =>
        obtain ⟨keyId', i, hroute, hposition, hactive, hi⟩ := htrue
        cases hroute
        exact .key hposition hactive hi
      | keyring response =>
        obtain ⟨name, _, _, hroute, -⟩ := htrue
        cases hroute
    refine World.triple_recorded_bind (f := pure)
      (Q := fun _ h s => Typed h passphrase ∧ Reported b h s passphrase (.key keyId))
      stable_answered (fun s h hs => ⟨_, passphrase, htarget, hs.typed, hline h s hs⟩) ?_
      fun _ => ?_
    · intro ans s s' h hs hcall
      cases hcall
      refine ⟨hs.typed.append _, ?_, hline h s hs⟩
      rw [lines_append, hs.lines]
      rfl
    · refine World.triple_pure (World.stable_recorded
        (P := fun h s => Typed h passphrase ∧ Reported b h s passphrase (.key keyId)) ?_)
        fun s hs => ⟨_, passphrase, htarget, hs.1, hs.2⟩
      rintro h s a s' ⟨htyped, hlines, hkey⟩ hu
      refine ⟨htyped, hlines, ?_⟩
      cases hkey with
      | key hposition hactive hi =>
        exact .key hposition hactive ((adminStep_keeps hu).isSome _ hi)
  | keyring keyring =>
    refine World.triple_liftM_bind (World.stable_recorded stable_answered)
      (fun e _ s hs => hs.lines) fun body hbody => ?_
    obtain ⟨bytes, hbytes, hparse⟩ := Except.bind_eq_ok.mp (withContext_eq_ok.mp hbody)
    rintro ⟨s, h⟩ hs
    obtain ⟨c, response, htrue, hsame⟩ := hs.success answer rfl hok
    cases response with
    | noContent =>
      obtain ⟨_, _, hroute, -⟩ := htrue
      cases hroute
    | keyring response =>
      obtain ⟨name, passphrase', r, hroute, hrequest, rfl, htold⟩ := htrue
      cases hroute
      cases hb.request ⟨passphrase⟩ _ hrequest
      rw [hsame bytes hbytes] at hparse
      cases hb.response _ _ hparse
      exact keeping_printKeys htarget _ [] rfl (s, h) ⟨hs.typed, hs.lines, htold⟩

variable (args configPath) in
theorem keeping_unlock (hb : Agrees b lib) (hw : b.store.WellFormed keyrings) :
    Keeping b lib args configPath (Ended b args) (fun s => Early b (fun _ => True) s.2 s.1)
      (unlock lib args configPath) := by
  refine early_liftM (fun e s h he => he.lines) fun target htarget => ?_
  refine World.triple_bind keeping_resolveAdminSocket (fun socket => ?_) fun e s he => he.lines
  refine World.triple_bind ((keeping_askPassword socket htarget).mono ?_)
    (fun passphrase => ?_) fun e s he => he.lines
  · exact fun s he => ⟨he.reached, he.lines, he.posts, he.calls socket rfl⟩
  refine World.Triple.mono
    (P := fun s =>
      Early b (fun h => SocketFound args configPath h socket ∧ Typed h passphrase) s.2 s.1) ?_ ?_
  · refine early_liftM (fun e s h he => he.lines) fun _ hempty => ?_
    rw [bailIf_eq_ok, isEmpty_eq_false] at hempty
    exact World.triple_bind (keeping_sendUnlock hb hw htarget hempty)
      (fun answer => keeping_report hb htarget) fun e s hs => hs.lines
  · exact fun s he => ⟨he.reached, he.lines, he.posts, he.calls.1, he.calls.2 passphrase rfl⟩

/-- **What `unlock` prints is so.** In every execution of the command among the requests of others
at the admin API, each of its calls is justified: the passphrase that the operator has typed goes
once, to the route of the target, and a line is printed when the key store is as it says. If the
command is done it has printed the line of its key, or one of each member of its keyring; if it
fails, it has printed nothing. -/
theorem unlock_prints_truth {as : List AdminAct} {t : List (World.Step Op.Ans AdminAct)}
    {q : Command Unit} (hb : Agrees b lib)
    (hstore : KeyStore.fromKeys keys keyrings = .ok b.store) (hstart : b.sys.run .new as = some s)
    (h : b.world.Exec s (unlock lib args configPath) t u q) :
    (∀ o next, q = .call o next → Justified b lib args configPath (World.calls t) u o) ∧
    (q = .done () → ∃ target passphrase, unlockTarget args.keyId args.keyring = .ok target ∧
      Typed (World.calls t) passphrase ∧ Reported b (World.calls t) u passphrase target) ∧
    ∀ e, q = .fail e → lines (World.calls t) = [] := by
  have hw := KeyStore.wellFormed_of_ok hstore
  have hearly : Early b (fun _ => True) [] s := ⟨⟨as, hstart⟩, rfl, rfl, trivial⟩
  have hsafe := (keeping_unlock args configPath hb hw (s, []) hearly).exec (h.recorded [])
  refine ⟨?_, ?_, ?_⟩
  · rintro o next rfl
    exact (hsafe _ .refl).1
  · rintro rfl
    exact hsafe _ .refl
  · rintro e rfl
    exact hsafe _ .refl

/-- The admin API goes on while the command waits. -/
theorem exec_of_run {s' : AdminSt P S R} {as : List AdminAct} {p q : Command α}
    {t : List (World.Step Op.Ans AdminAct)} (hrun : b.sys.run s as = some s')
    (h : b.world.Exec s' p t u q) : b.world.Exec s p (as.map .other ++ t) u q := by
  induction as generalizing s with
  | nil =>
    cases hrun
    exact h
  | cons a as ih =>
    obtain ⟨s'', hstep, hrest⟩ := Option.bind_eq_some_iff.mp hrun
    exact .other a hstep (ih hrest)

end Runs

deriving instance DecidableEq for KeyringUnlockKey
deriving instance DecidableEq for KeyringUnlockResponse

def exampleReport : KeyringUnlockResponse :=
  ⟨"firmware-prod", [⟨"microtun-firmware-old", "skipped-inactive"⟩,
    ⟨"microtun-firmware-next", "unlocked"⟩, ⟨"microtun-firmware-prod", "unlocked"⟩]⟩

/-- Crates that know one passphrase and one report. -/
def exampleBackend : Backend String String String where
  crates := exampleCrates
  store := exampleKeyStore
  fromSlice := readUnlockBody "correct horse"
  decodeParam := plainUrls.decodeParam
  responseJson response := if response = exampleReport then [1] else []
  errorJson _ := []
  requestIds _ := "01J"

def exampleUnlockLib : UnlockLib where
  url := plainUrls
  toJson request := unlockBody request.passphrase
  statusText _ := ""
  errorBody _ := none
  keyringResponse body := if body = [1] then .ok exampleReport else .error "no report"

theorem unlockBody_inj {passphrase passphrase' : String}
    (h : unlockBody passphrase = unlockBody passphrase') : passphrase = passphrase' := by
  have htext := bytes_inj h
  rw [← String.toList_inj, String.toList_append, String.toList_append, String.toList_append,
    String.toList_append, List.append_left_inj, List.append_right_inj, String.toList_inj] at htext
  exact htext

theorem exampleBackend_agrees : Agrees exampleBackend exampleUnlockLib where
  url := plainUrls_lawful
  decode := rfl
  request := by
    rintro ⟨passphrase⟩ read h
    dsimp only [exampleBackend, exampleUnlockLib, readUnlockBody] at h
    split at h
    · rename_i hbody
      cases h
      rw [unlockBody_inj hbody]
    · cases h
  response := by
    intro answer read h
    dsimp only [exampleBackend, exampleUnlockLib] at h
    by_cases hreport : answer = exampleReport
    · rw [if_pos hreport, if_pos rfl] at h
      cases h
      exact hreport.symm
    · rw [if_neg hreport, if_neg (by decide)] at h
      cases h

/-- What the command asks for, and what the admin API does with it. -/
def exampleRequest : AdminRequest :=
  ⟨"01J", .unlockKeyring "firmware-prod", jsonHeaders, unlockBody "correct horse"⟩

def exampleWork : List AdminAct :=
  [.acquire 0, .start 0] ++ List.replicate 12 (.work 0) ++ [.finish 0, .reply 0]

/-- The command finds the socket, is told the passphrase, and waits for the handler. -/
theorem exampleUnlock_done : ∃ s t, exampleBackend.world.Exec .new
    (unlock exampleUnlockLib ⟨none, some "firmware-prod", none⟩ none) t s (.done ()) := by
  obtain ⟨s₁, s₂, harrive, hrun, hanswer⟩ : ∃ s₁ s₂,
      exampleBackend.sys.step .new (.arrive 0 exampleRequest) = some s₁ ∧
      exampleBackend.sys.run s₁ exampleWork = some s₂ ∧
      s₂.handlers 0 = .answered exampleRequest (.ok (.keyring exampleReport)) :=
    ⟨_, _, rfl, rfl, rfl⟩
  have hprintln : ∀ line (next : Unit → Command Unit) t,
      exampleBackend.world.Exec s₂ (next ()) t s₂ (.done ()) →
      exampleBackend.world.Exec s₂ (.call (.println line) next) (.call ⟨.println line, ()⟩ :: t) s₂
        (.done ()) := fun line next t h =>
    @World.Exec.call Op Op.Ans _ _ _ _ _ s₂ s₂ s₂ (.println line) next _ t () rfl h
  refine ⟨s₂, ?_⟩
  constructor
  apply World.Exec.call (.ok ⟨.socket, 990, 0o660, 0⟩) rfl
  apply World.Exec.call (.ok "correct horse") rfl
  apply World.Exec.call (.ok ()) rfl
  apply World.Exec.call (.ok (.handler 0)) harrive
  apply exec_of_run hrun
  have hresponse : exampleBackend.world.call s₂
      ⟨.response (.handler 0), .ok ⟨⟨200⟩, .ok [1]⟩⟩ = some s₂ := by
    simp only [Backend.world, Backend.call, hanswer]
    rfl
  apply World.Exec.call _ hresponse
  apply hprintln
  apply hprintln
  apply hprintln
  exact .here _ _

/-- One line for each member of the keyring, in its order. -/
theorem keyring_unlock_reported : ∃ s t, exampleBackend.world.Exec .new
    (unlock exampleUnlockLib ⟨none, some "firmware-prod", none⟩ none) t s (.done ()) ∧
    ∃ target passphrase, unlockTarget none (some "firmware-prod") = .ok target ∧
      Typed (World.calls t) passphrase ∧
      Reported exampleBackend (World.calls t) s passphrase target := by
  obtain ⟨s, t, hexec⟩ := exampleUnlock_done
  have hstart : exampleBackend.sys.run .new [] = some .new := rfl
  obtain ⟨-, hdone, -⟩ :=
    unlock_prints_truth exampleBackend_agrees exampleKeyStore_ok hstart hexec
  exact ⟨s, t, hexec, hdone rfl⟩

end AdminClient

end MicrotunSigner
