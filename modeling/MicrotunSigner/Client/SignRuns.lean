import Mathlib.Data.List.Induction
import MicrotunSigner.Client.Sign

/-!
# What the commands `sign` and `public-key` do

Whatever the signer, GitHub and the cache answer, each call of `sign` is justified by the calls
before it (`Signing.Justified`): a credential goes only to the party it is for, the request is signed
for with a credential of the chosen kind, and only a cached session that the signer refused is
replaced, once, by a new login. `public-key` has no credential, and prints the public key that the
signer has sent or nothing (`public_key_printed`).
-/

namespace MicrotunSigner

namespace Client

open Lib Lib.Text

abbrev Event := Prog.Event Op.Ans

/-! ## Events -/

def sent (request : ApiRequest) (ans : Except String ApiResponse) : Event := ⟨.send request, ans⟩

def loaded (url : String) (ans : Except String (Option String)) : Event := ⟨.cacheLoad url, ans⟩

def removed (url : String) (ans : Except String Unit) : Event := ⟨.cacheRemove url, ans⟩

def slept (duration : Nat) : Event := ⟨.sleep duration, ()⟩

def polled (clientId accessTokenUrl : String) (device : DeviceAuthorization) (timeout : Nat)
    (ans : Except String String) : Event :=
  ⟨.exchangeDeviceAccessToken clientId accessTokenUrl device timeout, ans⟩

/-- The body of a request to sign. -/
def ApiRequest.isSign (request : ApiRequest) : Bool :=
  match request.json with
  | some (.sign _) => true
  | _ => false

def Event.isSign (e : Event) : Bool :=
  match e.op with
  | .send request => request.isSign
  | _ => false

def Event.isPrint (e : Event) : Bool :=
  match e.op with
  | .print _ => true
  | _ => false

/-- What the logins do: nothing is signed and nothing printed. -/
def Event.Quiet (e : Event) : Prop := e.isSign = false ∧ e.isPrint = false

/-! ## What justifies a call -/

/-- The command `sign` after its checks. -/
structure Signing where
  lib : ClientLib
  env : String → Option String
  args : SignArgs
  baseUrl : ReqwestUrl
  endpoint : ReqwestUrl
  useActions : Bool

namespace Signing

variable (s : Signing)

def request (token : String) : ApiRequest :=
  ⟨.post, s.endpoint, some token, some (.sign s.args.digest)⟩

def cacheUrl : String := s.lib.urlText s.baseUrl

def ConfigEndpoint (url : ReqwestUrl) : Prop :=
  s.lib.url.join s.baseUrl "v1/auth/github/device" = some url

def audience : String := s.args.audience.getD defaultGithubActionsAudience

/-- The signer gave `session` for a GitHub token. -/
def Minted (h : List Event) (session : OAuthSessionResponse) : Prop :=
  ∃ url githubToken response, s.ConfigEndpoint url ∧
    sent ⟨.post, url, none, some (.exchange githubToken)⟩ (.ok response) ∈ h ∧
    response.status.isSuccess = true ∧ response.parse s.lib.sessionResponse = .ok session

/-- The request of a token from GitHub Actions, with the credential of the runner. -/
structure OidcRequest (request : ApiRequest) : Prop where
  use : s.useActions = true
  login : s.args.githubLogin = false
  url : ∃ requestUrl, s.env "ACTIONS_ID_TOKEN_REQUEST_URL" = some requestUrl ∧
    githubActionsRequestUrl s.lib requestUrl s.audience = .ok request.url
  token : request.bearerAuth = s.env "ACTIONS_ID_TOKEN_REQUEST_TOKEN" ∧ request.bearerAuth ≠ none
  rest : request.method = .get ∧ request.json = none

/-- Where a bearer token of a signing request is from. -/
inductive Credential (h : List Event) (token : String) : Prop
  | cached (login : s.args.githubLogin = true) (load : loaded s.cacheUrl (.ok (some token)) ∈ h)
  | session {session : OAuthSessionResponse} (login : s.args.githubLogin = true)
      (minted : s.Minted h session) (token : session.accessToken = token)
  | oidc {request : ApiRequest} {response : ApiResponse} (use : s.OidcRequest request)
      (answer : sent request (.ok response) ∈ h) (success : response.status.isSuccess = true)
      (value : response.parse s.lib.oidcResponse = .ok token)
  | given (login : s.args.githubLogin = false) (use : s.useActions = false)
      (token : s.args.token = some token)

/-- A cached session was shown to the signer, which refused it; then the cache was asked to remove
it, and the signer gave another one. -/
structure Refused (h : List Event) (cached : String) (session : OAuthSessionResponse) : Prop where
  login : s.args.githubLogin = true
  split : ∃ before response rest, h = before ++ sent (s.request cached) (.ok response) :: rest ∧
    before.countP Event.isSign = 0 ∧ rest.countP Event.isSign = 0 ∧
    loaded s.cacheUrl (.ok (some cached)) ∈ before ∧ response.status = .unauthorized ∧
    (∃ ans, removed s.cacheUrl ans ∈ rest) ∧ s.Minted rest session

/-- The requests that `sign` may send. -/
inductive MaySend (h : List Event) : ApiRequest → Prop
  | sign {token : String} (credential : s.Credential h token)
      (first : h.countP Event.isSign = 0) : MaySend h (s.request token)
  | again {cached : String} {session : OAuthSessionResponse} (refused : s.Refused h cached session) :
      MaySend h (s.request session.accessToken)
  | setup {url : ReqwestUrl} (login : s.args.githubLogin = true) (endpoint : s.ConfigEndpoint url) :
      MaySend h ⟨.get, url, none, none⟩
  | exchange {url : ReqwestUrl} {githubToken clientId accessTokenUrl : String}
      {device : DeviceAuthorization} {timeout : Nat} (login : s.args.githubLogin = true)
      (endpoint : s.ConfigEndpoint url)
      (last : h.getLast? = some (polled clientId accessTokenUrl device timeout (.ok githubToken))) :
      MaySend h ⟨.post, url, none, some (.exchange githubToken)⟩
  | oidc {request : ApiRequest} (use : s.OidcRequest request) : MaySend h request

/-- A URL of the OAuth endpoints that the signer names. -/
def HttpsText (text : String) : Prop :=
  ∃ value url, s.lib.url.parse value = some url ∧ url.scheme = "https" ∧
    url.cannotBeABase = false ∧ text = s.lib.urlText url

/-- Nothing is printed yet. -/
def Silent (h : List Event) : Prop := ∀ e ∈ h, e.isPrint = false

/-- What justifies a call, of the calls before it. -/
def Justified (h : List Event) : Op → Prop
  | .send request => s.MaySend h request
  | .cacheLoad url => s.args.githubLogin = true ∧ url = s.cacheUrl
  | .cacheStore url token expiresIn => s.args.githubLogin = true ∧ url = s.cacheUrl ∧
      s.Minted h ⟨token, expiresIn⟩
  | .cacheRemove url => url = s.cacheUrl ∧ ∃ cached response,
      h.getLast? = some (sent (s.request cached) (.ok response)) ∧ response.status = .unauthorized ∧
        loaded s.cacheUrl (.ok (some cached)) ∈ h
  | .exchangeDeviceCode _ url _ => s.args.githubLogin = true ∧ s.HttpsText url
  | .exchangeDeviceAccessToken _ url device timeout => s.args.githubLogin = true ∧
      s.HttpsText url ∧ h.getLast? = some (slept device.interval) ∧
      timeout = device.expiresIn - device.interval
  | .print text => ∃ token response signature,
      h.getLast? = some (sent (s.request token) (.ok response)) ∧
        signatureOf s.lib response = .ok signature ∧ text = signature ++ "\n"
  | .buildClient | .sleep _ | .eprintln _ => True

/-- The signature is printed last. -/
def contract : Prog.Contract Op Op.Ans where
  rely _ _ _ := True
  guarantee h op := Silent h ∧ s.Justified h op

end Signing

/-! ## The login -/

theorem Signing.Silent.append {h rest : List Event} (hs : Silent h) (hrest : Silent rest) :
    Silent (h ++ rest) := by
  intro e he
  rcases List.mem_append.mp he with he | he
  · exact hs e he
  · exact hrest e he

/-- Nothing was printed before, and what has happened since is quiet. -/
structure Extends (h h' : List Event) : Prop where
  before : Signing.Silent h
  since : ∃ rest, h' = h ++ rest ∧ ∀ e ∈ rest, e.Quiet

theorem Extends.refl {h : List Event} (hs : Signing.Silent h) : Extends h h :=
  ⟨hs, [], (List.append_nil h).symm, fun _ he => nomatch he⟩

theorem Extends.silent {h h' : List Event} (hx : Extends h h') : Signing.Silent h' := by
  obtain ⟨hs, rest, rfl, hrest⟩ := hx
  exact hs.append fun e he => (hrest e he).2

theorem Extends.snoc {h h' : List Event} {e : Event} (hx : Extends h h') (he : e.Quiet) :
    Extends h (h' ++ [e]) := by
  obtain ⟨hs, rest, rfl, hrest⟩ := hx
  refine ⟨hs, rest ++ [e], List.append_assoc .., fun e' he' => ?_⟩
  rcases List.mem_append.mp he' with he' | he'
  · exact hrest e' he'
  · rwa [List.mem_singleton.mp he']

theorem Extends.trans {h h' h'' : List Event} (hx : Extends h h') (hx' : Extends h' h'') :
    Extends h h'' := by
  obtain ⟨hs, rest, rfl, hrest⟩ := hx
  obtain ⟨-, rest', rfl, hrest'⟩ := hx'
  refine ⟨hs, rest ++ rest', List.append_assoc .., fun e he => ?_⟩
  rcases List.mem_append.mp he with he | he
  · exact hrest e he
  · exact hrest' e he

namespace Signing

variable {α : Type} {s : Signing} {h h₀ h' rest : List Event} {session : OAuthSessionResponse}
  {post : List Event → Except String α → Prop} {value purpose purpose' text line : String}
  {url : ReqwestUrl}

/-- One call of a login, and what follows it. -/
theorem quiet_call {o : Op} {f : o.Ans → Command α} (hx : Extends h₀ h) (hg : s.Justified h o)
    (hq : ∀ ans, Event.Quiet ⟨o, ans⟩)
    (hf : ∀ ans, Extends h₀ (h ++ [⟨o, ans⟩]) → (f ans).Holds s.contract post (h ++ [⟨o, ans⟩])) :
    (call o >>= f).Holds s.contract post h :=
  Prog.holds_op_bind.mpr ⟨⟨hx.silent, hg⟩, fun ans _ => hf ans (hx.snoc (hq ans))⟩

theorem quiet_eprintln {f : Unit → Command α} (hx : Extends h₀ h)
    (hf : Extends h₀ (h ++ [⟨.eprintln line, ()⟩]) →
      (f ()).Holds s.contract post (h ++ [⟨.eprintln line, ()⟩])) :
    (eprintln line >>= f).Holds s.contract post h :=
  quiet_call hx trivial (fun _ => ⟨rfl, rfl⟩) fun _ hx => hf hx

theorem quiet_send {request : ApiRequest} {f : Except String ApiResponse → Command α}
    (hx : Extends h₀ h) (hg : s.MaySend h request) (hq : request.isSign = false)
    (hf : ∀ ans, Extends h₀ (h ++ [sent request ans]) →
      (f ans).Holds s.contract post (h ++ [sent request ans])) :
    (send request >>= f).Holds s.contract post h :=
  quiet_call hx hg (fun _ => ⟨hq, rfl⟩) hf

theorem holds_eprintln {post : List Event → Except String Unit → Prop} (hs : Silent h) :
    (eprintln line).Holds s.contract post h ↔ post (h ++ [⟨.eprintln line, ()⟩]) (.ok ()) :=
  (Prog.holds_op (c := s.contract) (h := h) (o := .eprintln line)).trans
    ⟨fun hp => hp.2 () trivial, fun hp => ⟨⟨hs, trivial⟩, fun _ _ => hp⟩⟩

theorem Minted.prepend (hm : s.Minted rest session) : s.Minted (h ++ rest) session := by
  obtain ⟨url, githubToken, response, hurl, hmem, hrest⟩ := hm
  exact ⟨url, githubToken, response, hurl, List.mem_append_right _ hmem, hrest⟩

theorem Minted.append (hm : s.Minted h session) (more : List Event) :
    s.Minted (h ++ more) session := by
  obtain ⟨url, githubToken, response, hurl, hmem, hrest⟩ := hm
  exact ⟨url, githubToken, response, hurl, List.mem_append_left _ hmem, hrest⟩

theorem cacheSession_holds (hlogin : s.args.githubLogin = true) (hs : Silent h)
    (hm : s.Minted h session) :
    (cacheSession s.lib s.baseUrl session).Holds s.contract (fun h' _ => Extends h h') h := by
  refine quiet_call (.refl hs) ⟨hlogin, rfl, hm⟩ (fun _ => ⟨rfl, rfl⟩) fun ans hx => ?_
  cases ans with
  | error e => exact quiet_eprintln hx fun hx => (holds_eprintln hx.silent).mpr (hx.snoc ⟨rfl, rfl⟩)
  | ok cached =>
    cases cached with
    | true => exact (holds_eprintln hx.silent).mpr (hx.snoc ⟨rfl, rfl⟩)
    | false => exact (holds_eprintln hx.silent).mpr (hx.snoc ⟨rfl, rfl⟩)

theorem httpsText_of_ok (hurl : httpsOauthUrl s.lib value purpose = .ok url)
    (htext : oauthUrl s.lib url purpose' = .ok text) : s.HttpsText text := by
  simp only [httpsOauthUrl, Except.bind_eq_ok, okOr_eq_ok, bailIf_eq_ok, exists_const,
    Bool.or_eq_false_iff, bne_eq_false_iff_eq] at hurl
  obtain ⟨u, hparse, hchecks, he⟩ := hurl
  cases he
  simp only [oauthUrl, Except.bind_eq_ok, okOr_eq_ok] at htext
  obtain ⟨-, -, he⟩ := htext
  cases he
  exact ⟨value, url, hparse, hchecks.1, hchecks.2, rfl⟩

/-- What the login leaves behind: nothing is signed, and the token it returns is that of a session
that the signer gave it. -/
def LoggedIn (s : Signing) (h h' : List Event) (r : Except String String) : Prop :=
  Extends h h' ∧ ∀ token, r = .ok token → ∃ rest session, h' = h ++ rest ∧
    s.Minted rest session ∧ session.accessToken = token

/-- The end of the login: the session that the signer gave is cached and its token returned. -/
theorem loggedIn_holds {response : ApiResponse} {githubToken : String}
    (hlogin : s.args.githubLogin = true) (hx : Extends h₀ h) (hurl : s.ConfigEndpoint url)
    (hsuccess : response.status.isSuccess = true)
    (hsession : response.parse s.lib.sessionResponse = .ok session) :
    (cacheSession s.lib s.baseUrl session >>= fun _ => pure session.accessToken :
      Command String).Holds s.contract (s.LoggedIn h₀)
      (h ++ [sent ⟨.post, url, none, some (.exchange githubToken)⟩ (.ok response)]) := by
  have hx' := hx.snoc (e := sent ⟨.post, url, none, some (.exchange githubToken)⟩ (.ok response))
    ⟨rfl, rfl⟩
  obtain ⟨rest, hrest, -⟩ := hx.since
  have hm : s.Minted (rest ++ [sent ⟨.post, url, none, some (.exchange githubToken)⟩
      (.ok response)]) session :=
    ⟨url, githubToken, response, hurl, List.mem_append_right _ (List.mem_singleton_self _),
      hsuccess, hsession⟩
  rw [hrest, List.append_assoc] at hx' ⊢
  rw [Prog.holds_bind]
  refine (cacheSession_holds hlogin hx'.silent hm.prepend).mono fun h' r hmore => ?_
  cases r with
  | error e => exact ⟨hx'.trans hmore, fun _ he => nomatch he⟩
  | ok u =>
    refine Prog.holds_pure.mpr ⟨hx'.trans hmore, fun token htoken => ?_⟩
    cases htoken
    obtain ⟨more, rfl, -⟩ := hmore.since
    exact ⟨_, session, List.append_assoc .., hm.append more, rfl⟩

theorem githubDeviceLogin_holds (hlogin : s.args.githubLogin = true) (hs : Silent h) :
    (githubDeviceLogin s.lib s.baseUrl).Holds s.contract (s.LoggedIn h) h := by
  have hstop : ∀ {h' : List Event} {e : String}, Extends h h' → s.LoggedIn h h' (.error e) :=
    fun hx => ⟨hx, fun _ he => nomatch he⟩
  have hx := Extends.refl hs
  unfold githubDeviceLogin
  refine Prog.holds_liftM_bind.mpr ⟨fun _ _ => hstop hx, fun url hurl => ?_⟩
  rw [okOr_eq_ok] at hurl
  refine quiet_send hx (.setup hlogin hurl) rfl fun ans hx => ?_
  refine Prog.holds_liftM_bind.mpr ⟨fun _ _ => hstop hx, fun response _ => ?_⟩
  refine Prog.holds_liftM_bind.mpr ⟨fun _ _ => hstop hx, fun _ _ => ?_⟩
  refine Prog.holds_liftM_bind.mpr ⟨fun _ _ => hstop hx, fun config _ => ?_⟩
  refine Prog.holds_liftM_bind.mpr ⟨fun _ _ => hstop hx, fun _ _ => ?_⟩
  refine Prog.holds_liftM_bind.mpr ⟨fun _ _ => hstop hx, fun codeUrl hcodeUrl => ?_⟩
  refine Prog.holds_liftM_bind.mpr ⟨fun _ _ => hstop hx, fun tokenUrl htokenUrl => ?_⟩
  refine Prog.holds_liftM_bind.mpr ⟨fun _ _ => hstop hx, fun codeText hcodeText => ?_⟩
  refine Prog.holds_liftM_bind.mpr ⟨fun _ _ => hstop hx, fun tokenText htokenText => ?_⟩
  refine quiet_call hx ⟨hlogin, httpsText_of_ok hcodeUrl hcodeText⟩ (fun _ => ⟨rfl, rfl⟩)
    fun ans hx => ?_
  refine Prog.holds_liftM_bind.mpr ⟨fun _ _ => hstop hx, fun device _ => ?_⟩
  refine quiet_eprintln hx fun hx => ?_
  refine quiet_eprintln hx fun hx => ?_
  -- The interval passes before GitHub is asked for the first time.
  refine quiet_call hx trivial (fun _ => ⟨rfl, rfl⟩) fun _ hx => ?_
  refine quiet_call hx ⟨hlogin, httpsText_of_ok htokenUrl htokenText, List.getLast?_concat .., rfl⟩
    (fun _ => ⟨rfl, rfl⟩) fun ans hpolled => ?_
  refine Prog.holds_liftM_bind.mpr ⟨fun _ _ => hstop hpolled, fun githubToken hgithub => ?_⟩
  refine Prog.holds_liftM_bind.mpr ⟨fun _ _ => hstop hpolled, fun _ _ => ?_⟩
  obtain rfl := mapError_eq_ok.mp hgithub
  refine quiet_send hpolled (.exchange hlogin hurl (List.getLast?_concat ..)) rfl fun ans hx => ?_
  refine Prog.holds_liftM_bind.mpr ⟨fun _ _ => hstop hx, fun response hresponse => ?_⟩
  obtain rfl := mapError_eq_ok.mp hresponse
  refine Prog.holds_liftM_bind.mpr ⟨fun _ _ => hstop hx, fun _ hsuccess => ?_⟩
  refine Prog.holds_liftM_bind.mpr ⟨fun _ _ => hstop hx, fun session hsession => ?_⟩
  refine Prog.holds_liftM_bind.mpr ⟨fun _ _ => hstop hx, fun _ _ => ?_⟩
  exact loggedIn_holds hlogin hpolled hurl (by simpa using bailIf_eq_ok.mp hsuccess)
    (mapError_eq_ok.mp hsession)

/-! ## The credential -/

theorem githubActionsToken_holds (huse : s.useActions = true)
    (hlogin : s.args.githubLogin = false) (hs : Silent h) :
    (githubActionsToken s.lib s.env s.audience).Holds s.contract
      (fun h' r => Extends h h' ∧ ∀ token, r = .ok token → s.Credential h' token) h := by
  have hstop : ∀ {h' : List Event} {e : String}, Extends h h' →
      Extends h h' ∧ ∀ token, Except.error e = .ok token → s.Credential h' token :=
    fun hx => ⟨hx, fun _ he => nomatch he⟩
  have hx := Extends.refl hs
  unfold githubActionsToken
  refine Prog.holds_liftM_bind.mpr ⟨fun _ _ => hstop hx, fun requestUrl hurl => ?_⟩
  refine Prog.holds_liftM_bind.mpr ⟨fun _ _ => hstop hx, fun requestToken htoken => ?_⟩
  refine Prog.holds_liftM_bind.mpr ⟨fun _ _ => hstop hx, fun _ _ => ?_⟩
  refine Prog.holds_liftM_bind.mpr ⟨fun _ _ => hstop hx, fun endpoint hendpoint => ?_⟩
  rw [okOr_eq_ok] at hurl htoken
  have hrequest : s.OidcRequest ⟨.get, endpoint, some requestToken, none⟩ :=
    ⟨huse, hlogin, ⟨requestUrl, hurl, hendpoint⟩, ⟨htoken.symm, nofun⟩, rfl, rfl⟩
  refine quiet_send hx (.oidc hrequest) rfl fun ans hx => ?_
  refine Prog.holds_liftM_bind.mpr ⟨fun _ _ => hstop hx, fun response hresponse => ?_⟩
  obtain rfl := mapError_eq_ok.mp hresponse
  refine Prog.holds_liftM_bind.mpr ⟨fun _ _ => hstop hx, fun _ hsuccess => ?_⟩
  refine Prog.holds_liftM_bind.mpr ⟨fun _ _ => hstop hx, fun value hvalue => ?_⟩
  refine Prog.holds_liftM_bind.mpr ⟨fun _ _ => hstop hx, fun _ _ => ?_⟩
  refine Prog.holds_pure.mpr ⟨hx, fun token htoken => ?_⟩
  cases htoken
  exact .oidc hrequest (List.mem_append_right _ (List.mem_singleton_self _))
    (by simpa using bailIf_eq_ok.mp hsuccess) (mapError_eq_ok.mp hvalue)

theorem cachedSession_holds (hlogin : s.args.githubLogin = true) (hs : Silent h) :
    (cachedSession s.lib s.baseUrl).Holds s.contract (fun h' r => Extends h h' ∧
      ∀ token, r = .ok (some token) → loaded s.cacheUrl (.ok (some token)) ∈ h') h := by
  refine quiet_call (.refl hs) ⟨hlogin, rfl⟩ (fun _ => ⟨rfl, rfl⟩) fun ans hx => ?_
  cases ans with
  | error e =>
    refine quiet_eprintln hx fun hx => Prog.holds_pure.mpr ⟨hx, fun _ he => ?_⟩
    cases he
  | ok cached =>
    refine Prog.holds_pure.mpr ⟨hx, fun token htoken => ?_⟩
    cases htoken
    exact List.mem_append_right _ (List.mem_singleton_self _)

/-- The first credential, and whether it is a cached session. -/
theorem credential_holds (hs : Silent h) :
    (s.args.credential s.lib s.env s.baseUrl s.useActions).Holds s.contract
      (fun h' r => Extends h h' ∧ ∀ token reused, r = .ok (token, reused) →
        s.Credential h' token ∧
        (reused = true → loaded s.cacheUrl (.ok (some token)) ∈ h')) h := by
  unfold SignArgs.credential
  split
  · rename_i hlogin
    rw [Prog.holds_bind]
    refine (cachedSession_holds hlogin hs).mono fun h₁ r hr => ?_
    obtain ⟨hx, hload⟩ := hr
    cases r with
    | error e => exact ⟨hx, nofun⟩
    | ok cached =>
      cases cached with
      | some token =>
        refine Prog.holds_pure.mpr ⟨hx, fun _ _ he => ?_⟩
        cases he
        exact ⟨.cached hlogin (hload token rfl), fun _ => hload token rfl⟩
      | none =>
        refine Prog.holds_bind.mpr ((githubDeviceLogin_holds hlogin hx.silent).mono fun h₂ r hr => ?_)
        obtain ⟨hx', htoken⟩ := hr
        cases r with
        | error e => exact ⟨hx.trans hx', nofun⟩
        | ok token =>
          refine Prog.holds_pure.mpr ⟨hx.trans hx', fun _ _ he => ?_⟩
          cases he
          obtain ⟨rest, session, rfl, hm, he⟩ := htoken token rfl
          exact ⟨.session hlogin hm.prepend he, nofun⟩
  · rename_i hlogin
    rw [Bool.not_eq_true] at hlogin
    split
    · rename_i huse
      refine Prog.holds_bind.mpr ((githubActionsToken_holds huse hlogin hs).mono fun h' r hr => ?_)
      obtain ⟨hx, htoken⟩ := hr
      cases r with
      | error e => exact ⟨hx, nofun⟩
      | ok token =>
        refine Prog.holds_pure.mpr ⟨hx, fun _ _ he => ?_⟩
        cases he
        exact ⟨htoken token rfl, nofun⟩
    · rename_i huse
      rw [Bool.not_eq_true] at huse
      split
      · rename_i token htoken
        refine Prog.holds_liftM_bind.mpr ⟨fun _ _ => ⟨.refl hs, nofun⟩, fun _ _ => ?_⟩
        refine Prog.holds_pure.mpr ⟨.refl hs, fun _ _ he => ?_⟩
        cases he
        exact ⟨.given hlogin huse htoken, nofun⟩
      · exact Prog.holds_fail.mpr ⟨.refl hs, nofun⟩

/-! ## The requests to sign -/

theorem countP_quiet (h : ∀ e ∈ rest, e.Quiet) : rest.countP Event.isSign = 0 :=
  List.countP_eq_zero.mpr fun e he => by simp [(h e he).1]

/-- The last response is the one to a request to sign. -/
def Answered (s : Signing) (h : List Event) (r : Except String ApiResponse) : Prop :=
  Silent h ∧ ∀ response, r = .ok response →
    ∃ token, h.getLast? = some (sent (s.request token) (.ok response))

theorem sendSigningRequest_holds {token : String} (hs : Silent h)
    (hsend : s.MaySend h (s.request token)) :
    (sendSigningRequest s.endpoint token s.args.digest).Holds s.contract
      (fun h' r => s.Answered h' r ∧ ∀ response, r = .ok response →
        h' = h ++ [sent (s.request token) (.ok response)]) h := by
  refine Prog.holds_op_bind.mpr ⟨⟨hs, hsend⟩, fun ans _ => ?_⟩
  have hs' : Silent (h ++ [sent (s.request token) ans]) :=
    hs.append fun e he => by rw [List.mem_singleton.mp he]; rfl
  refine Prog.holds_liftM.mpr ⟨⟨hs', fun response hresponse => ?_⟩, fun response hresponse => ?_⟩
  · obtain rfl := mapError_eq_ok.mp hresponse
    exact ⟨token, List.getLast?_concat ..⟩
  · obtain rfl := mapError_eq_ok.mp hresponse
    rfl

theorem removeStale_holds (hs : Silent h) (hg : s.Justified h (.cacheRemove s.cacheUrl)) :
    (removeStale s.lib s.baseUrl).Holds s.contract (fun h' _ => ∃ ans rest,
      h' = h ++ removed s.cacheUrl ans :: rest ∧ ∀ e ∈ rest, e.Quiet) h := by
  refine Prog.holds_op_bind.mpr ⟨⟨hs, hg⟩, fun ans _ => ?_⟩
  have hs' : Silent (h ++ [removed s.cacheUrl ans]) :=
    hs.append fun e he => by rw [List.mem_singleton.mp he]; rfl
  cases ans with
  | ok u => exact Prog.holds_pure.mpr ⟨.ok u, [], rfl, fun e he => nomatch he⟩
  | error e =>
    refine (holds_eprintln hs').mpr
      ⟨.error e, [⟨.eprintln _, ()⟩], List.append_assoc .., fun e he => ?_⟩
    rw [List.mem_singleton.mp he]
    exact ⟨rfl, rfl⟩

theorem signOrLogin_holds {token : String} {reused : Bool} (hs : Silent h)
    (hcount : h.countP Event.isSign = 0) (hcred : s.Credential h token)
    (hreused : reused = true → loaded s.cacheUrl (.ok (some token)) ∈ h) :
    (signOrLogin s.lib s.args s.baseUrl s.endpoint token reused).Holds s.contract s.Answered h := by
  unfold signOrLogin
  rw [Prog.holds_bind]
  refine (sendSigningRequest_holds hs (.sign hcred hcount)).mono fun h₁ r hr => ?_
  obtain ⟨hanswered, hlast⟩ := hr
  cases r with
  | error e => exact hanswered
  | ok response =>
    rw [Prog.then_ok]
    split
    · rename_i hstale
      obtain ⟨hstatus, hlogin, hreuse⟩ := hstale
      have hload := hreused hreuse
      obtain rfl := hlast response rfl
      have hremove : s.Justified (h ++ [sent (s.request token) (.ok response)])
          (.cacheRemove s.cacheUrl) :=
        ⟨rfl, token, response, List.getLast?_concat .., hstatus, List.mem_append_left _ hload⟩
      refine Prog.holds_bind.mpr ((removeStale_holds hanswered.1 hremove).mono fun h₂ r hr => ?_)
      obtain ⟨ans, rest, rfl, hrest⟩ := hr
      have hs₂ : Silent (h ++ [sent (s.request token) (.ok response)] ++
          removed s.cacheUrl ans :: rest) :=
        hanswered.1.append fun e he => by
          rcases List.mem_cons.mp he with rfl | he
          · rfl
          · exact (hrest e he).2
      cases r with
      | error e => exact ⟨hs₂, nofun⟩
      | ok u =>
        refine quiet_eprintln (.refl hs₂) fun hx => ?_
        refine Prog.holds_bind.mpr ((githubDeviceLogin_holds hlogin hx.silent).mono
          fun h₃ r hr => ?_)
        obtain ⟨hx', htoken⟩ := hr
        have hs₃ := hx'.silent
        cases r with
        | error e => exact ⟨hs₃, nofun⟩
        | ok fresh =>
          obtain ⟨more, session, rfl, hm, rfl⟩ := htoken fresh rfl
          refine (sendSigningRequest_holds hs₃ (.again (?_ : s.Refused _ token session))).mono
            fun _ _ hr => hr.1
          obtain ⟨more', he, hquiet⟩ := (hx.trans hx').since
          have hm' : s.Minted more' session := by
            rw [List.append_assoc] at he
            rw [← List.append_cancel_left he]
            exact hm.prepend
          have hcount' : (removed s.cacheUrl ans :: rest ++ more').countP Event.isSign = 0 := by
            rw [List.cons_append, List.countP_cons_of_neg (by simp [removed, Event.isSign]),
              List.countP_append, countP_quiet hrest, countP_quiet hquiet]
          refine ⟨hlogin, h, response, removed s.cacheUrl ans :: rest ++ more', ?_, hcount, hcount',
            hload, hstatus, ⟨ans, List.mem_cons_self⟩, hm'.prepend⟩
          rw [he]
          simp
    · exact Prog.holds_pure.mpr hanswered

/-- What `sign` ends with: the signature is printed, or nothing is. -/
def Ended (h : List Event) : Except String Unit → Prop
  | .ok _ => ∃ before text, h = before ++ [⟨.print text, ()⟩] ∧ Silent before
  | .error _ => Silent h

theorem sign_holds {url : String}
    (hcheck : s.args.check s.lib s.env url = .ok (s.baseUrl, s.endpoint, s.useActions)) :
    (sign s.lib s.env url s.args).Holds s.contract Ended [] := by
  unfold sign
  refine Prog.holds_liftM_bind.mpr ⟨fun e he => ?_, fun checked hchecked => ?_⟩
  · rw [hcheck] at he
    cases he
  rw [hcheck] at hchecked
  cases hchecked
  refine quiet_call (.refl fun _ he => nomatch he) trivial (fun _ => ⟨rfl, rfl⟩) fun ans hx => ?_
  refine Prog.holds_liftM_bind.mpr ⟨fun _ _ => hx.silent, fun _ _ => ?_⟩
  refine Prog.holds_bind.mpr ((credential_holds hx.silent).mono fun h₁ r hr => ?_)
  obtain ⟨hx', hcred⟩ := hr
  have hs₁ := hx'.silent
  cases r with
  | error e => exact hs₁
  | ok credential =>
    obtain ⟨token, reused⟩ := credential
    obtain ⟨hcred, hreused⟩ := hcred token reused rfl
    have hcount : h₁.countP Event.isSign = 0 := by
      obtain ⟨rest, rfl, hrest⟩ := (hx.trans hx').since
      exact countP_quiet hrest
    refine Prog.holds_bind.mpr ((signOrLogin_holds hs₁ hcount hcred hreused).mono fun h₂ r hr => ?_)
    obtain ⟨hs₂, hlast⟩ := hr
    cases r with
    | error e => exact hs₂
    | ok response =>
      obtain ⟨token, hlast⟩ := hlast response rfl
      refine Prog.holds_liftM_bind.mpr ⟨fun _ _ => hs₂, fun signature hsignature => ?_⟩
      refine Prog.holds_call.mpr
        ⟨⟨hs₂, token, response, signature, hlast, hsignature, rfl⟩, fun _ _ => ?_⟩
      exact Prog.holds_pure.mpr ⟨h₂, _, rfl, hs₂⟩

end Signing

/-! ## Executions -/

namespace Signing

variable {s : Signing} {h : List Event}

/-- Before the last request to sign, at most one was sent. -/
theorem countP_le_one {o : Op} {ans : o.Ans} (hj : s.Justified h o)
    (hsign : Event.isSign ⟨o, ans⟩ = true) : h.countP Event.isSign ≤ 1 := by
  cases o with
  | send request =>
    cases hj with
    | sign hcred hfirst => omega
    | again refused =>
      obtain ⟨before, response, rest, rfl, hbefore, hrest, -⟩ := refused.split
      rw [List.countP_append, List.countP_cons, hbefore, hrest]
      split <;> omega
    | setup hlogin hendpoint => cases hsign
    | exchange hlogin hendpoint hlast => cases hsign
    | oidc use =>
      obtain ⟨-, hjson⟩ := use.rest
      simp [Event.isSign, ApiRequest.isSign, hjson] at hsign
  | _ => cases hsign

/-- So at most two are sent. -/
theorem countP_le_two (hle : ∀ before e after, h = before ++ e :: after → e.isSign = true →
    before.countP Event.isSign ≤ 1) : h.countP Event.isSign ≤ 2 := by
  induction h using List.reverseRecOn with
  | nil => exact Nat.zero_le _
  | append_singleton t e ih =>
    have ih := ih fun before e' after he hsign =>
      hle before e' (after ++ [e]) (by rw [he, List.append_assoc, List.cons_append]) hsign
    rw [List.countP_append, List.countP_singleton]
    split
    · rename_i hsign
      have := hle t e [] rfl hsign
      omega
    · omega

end Signing

section Executions

variable {lib : ClientLib} {env : String → Option String} {url : String} {args : SignArgs}
  {h : List Event} {q : Command Unit}

/-- What is left of the command after some calls: it failed in its checks, or it keeps its
contract. -/
theorem sign_reach (hr : Prog.Reach (sign lib env url args) h q) :
    (h = [] ∧ ∃ e, q = .fail e) ∨ ∃ s : Signing, s.lib = lib ∧ s.env = env ∧ s.args = args ∧
      args.check lib env url = .ok (s.baseUrl, s.endpoint, s.useActions) ∧
      q.Holds s.contract Signing.Ended h := by
  cases hcheck : args.check lib env url with
  | error e =>
    have hfail : sign lib env url args = .fail e := by
      unfold sign
      rw [hcheck]
      rfl
    rw [hfail] at hr
    cases hr
    exact .inl ⟨rfl, e, rfl⟩
  | ok checked =>
    obtain ⟨baseUrl, endpoint, useActions⟩ := checked
    refine .inr ⟨⟨lib, env, args, baseUrl, endpoint, useActions⟩, rfl, rfl, rfl, rfl, ?_⟩
    have hholds : (sign lib env url args).Holds
        (Signing.contract ⟨lib, env, args, baseUrl, endpoint, useActions⟩) Signing.Ended [] :=
      Signing.sign_holds hcheck
    exact hholds.reach hr (Prog.Contract.kept_of_rely (fun _ _ _ => trivial) [] h)

/-- Whatever the signer, GitHub and the cache answer, and wherever the command is stopped: each of
its calls was justified by the calls before it, at most two requests to sign were sent, and it has
printed something, the signature as its last call, iff it is done. -/
theorem sign_calls_justified (hr : Prog.Reach (sign lib env url args) h q) :
    (∀ before e after, h = before ++ e :: after →
      ∃ s : Signing, s.lib = lib ∧ s.env = env ∧ s.args = args ∧
        args.check lib env url = .ok (s.baseUrl, s.endpoint, s.useActions) ∧
        s.Justified before e.op) ∧
      h.countP Event.isSign ≤ 2 ∧
      (q = .done () → ∃ before text, h = before ++ [⟨.print text, ()⟩] ∧ Signing.Silent before) ∧
      ∀ e ∈ h, e.isPrint = true → q = .done () := by
  have hstep : ∀ before e after, h = before ++ e :: after →
      ∃ s : Signing, s.lib = lib ∧ s.env = env ∧ s.args = args ∧
        args.check lib env url = .ok (s.baseUrl, s.endpoint, s.useActions) ∧
        s.Justified before e.op := by
    rintro before e after rfl
    obtain ⟨next, hnext⟩ := hr.at_call
    rcases sign_reach hnext with ⟨-, e, he⟩ | ⟨s, hlib, henv, hargs, hcheck, hholds⟩
    · cases he
    · exact ⟨s, hlib, henv, hargs, hcheck, (Prog.holds_call.mp hholds).1.2⟩
  have hsilent : ¬ Signing.Silent h → q = .done () := by
    intro hprinted
    rcases sign_reach hr with ⟨rfl, -⟩ | ⟨s, -, -, -, -, hholds⟩
    · exact absurd (fun _ he => nomatch he) hprinted
    · cases q with
      | done u => rfl
      | fail e => exact absurd (Prog.holds_fail.mp hholds) hprinted
      | call op next => exact absurd (Prog.holds_call.mp hholds).1.1 hprinted
  refine ⟨hstep, Signing.countP_le_two fun before e after he hsign => ?_, ?_, ?_⟩
  · obtain ⟨s, -, -, -, -, hj⟩ := hstep before e after he
    exact Signing.countP_le_one hj hsign
  · rintro rfl
    rcases sign_reach hr with ⟨-, e, he⟩ | ⟨s, -, -, -, -, hholds⟩
    · cases he
    · exact Prog.holds_pure.mp hholds
  · refine fun e he hprint => hsilent fun hs => ?_
    rw [hs e he] at hprint
    cases hprint

end Executions

/-- Crates that know the URLs of GitHub and one digest; the bodies of all responses are empty. -/
def exampleLib : ClientLib where
  url := { plainUrls with parse := fun value =>
    (if value = "https://github.com/login" then
      some ⟨"https", "github.com", .segments ["login"], none, none⟩
    else plainUrls.parse value) }
  urlText url := url.scheme ++ "://" ++ url.authority ++ "/login"
  username _ := ""
  password _ := none
  queryPairs _ := []
  appendPair url _ _ := url
  decode value := if value = "digest" then some (List.replicate 32 0) else some [1]
  statusText _ := ""
  text _ := ""
  errorBody _ := none
  signResponse _ := .ok "c2ln"
  oidcResponse _ := .error ""
  deviceConfigResponse _ :=
    .ok ⟨"Iv1", "https://github.com/login", "https://github.com/login", "read:org"⟩
  sessionResponse _ := .ok ⟨"mts_new", 3600⟩

/-- A cache with a session that the signer refuses, and a user who logs in again. -/
def exampleAnswer (_ : List Event) : (op : Op) → op.Ans
  | .buildClient => .ok ()
  | .cacheLoad _ => .ok (some "mts_old")
  | .cacheStore _ _ _ => .ok true
  | .cacheRemove _ => .ok ()
  | .send request => .ok ⟨if request.bearerAuth = some "mts_old" then .unauthorized else ⟨200⟩, .ok []⟩
  | .exchangeDeviceCode _ _ _ => .ok ⟨"https://github.com/device", "WDJB-MJHT", "dc", 5, 900⟩
  | .sleep _ => ()
  | .exchangeDeviceAccessToken _ _ _ _ => .ok "gho_1"
  | .eprintln _ => ()
  | .print _ => ()

def exampleSign : List Event × Except String Unit :=
  (sign exampleLib (fun _ => none) "http://signer.example/"
    ⟨"fw.prod", none, true, false, none, "digest"⟩).run exampleAnswer []

/-- Two requests to sign, and the signature is printed. -/
theorem refused_session_replaced : exampleSign.1.countP Event.isSign = 2 ∧
    ∃ before text, exampleSign.1 = before ++ [⟨.print text, ()⟩] ∧ Signing.Silent before :=
  ⟨rfl, (sign_calls_justified (Prog.reach_run exampleAnswer [] (sign exampleLib (fun _ => none)
    "http://signer.example/" ⟨"fw.prod", none, true, false, none, "digest"⟩))).2.2.1 rfl⟩

/-! ## The command `public-key` -/

section PublicKey

variable {lib : ClientLib} {url keyId pem : String} {h : List Event} {q : Command Unit}

/-- The signer has answered the request for the public key with this text. -/
structure PublicKeyFrom (lib : ClientLib) (url keyId : String) (h : List Event) (pem : String) :
    Prop where
  answer : ∃ endpoint response body, publicKeyEndpoint lib.url url keyId = .ok endpoint ∧
    h = [⟨.buildClient, .ok ()⟩, sent ⟨.get, endpoint, none, none⟩ (.ok response)] ∧
    response.status.isSuccess = true ∧ response.bytes = .ok body ∧ lib.text body = pem
  starts : startsWith pem "-----BEGIN PUBLIC KEY-----" = true
  ends : endsWith (trimEnd pem) "-----END PUBLIC KEY-----" = true

/-- The calls of `public-key`: no request has a credential, and only a public key is printed. -/
def PublicKeyCall (lib : ClientLib) (url keyId : String) (h : List Event) : Op → Prop
  | .buildClient => h = []
  | .send request => ∃ endpoint, publicKeyEndpoint lib.url url keyId = .ok endpoint ∧
      request = ⟨.get, endpoint, none, none⟩ ∧ h = [⟨.buildClient, .ok ()⟩]
  | .print text => PublicKeyFrom lib url keyId h text ∨ text = "\n" ∧ ∃ before pem,
      h = before ++ [⟨.print pem, ()⟩] ∧ PublicKeyFrom lib url keyId before pem ∧
      endsWith pem "\n" = false
  | _ => False

def publicKeyContract (lib : ClientLib) (url keyId : String) : Prog.Contract Op Op.Ans where
  rely _ _ _ := True
  guarantee := PublicKeyCall lib url keyId

/-- What `public-key` leaves: the public key, with a line end, or nothing. -/
def PublicKeyEnd (lib : ClientLib) (url keyId : String) (h : List Event) : Except String Unit → Prop
  | .ok () => ∃ before pem, PublicKeyFrom lib url keyId before pem ∧
      h = before ++ ⟨.print pem, ()⟩ :: if endsWith pem "\n" then [] else [⟨.print "\n", ()⟩]
  | .error _ => Signing.Silent h

theorem printPublicKey_holds (hpem : PublicKeyFrom lib url keyId h pem) :
    (do print pem
        if !endsWith pem "\n" then print "\n" : Command Unit).Holds
      (publicKeyContract lib url keyId) (PublicKeyEnd lib url keyId) h := by
  refine Prog.holds_op_bind.mpr ⟨.inl hpem, fun _ _ => ?_⟩
  cases hend : endsWith pem "\n" with
  | true => exact Prog.holds_pure.mpr ⟨h, pem, hpem, by rw [if_pos hend]⟩
  | false =>
    have hcall : PublicKeyCall lib url keyId (h ++ [⟨.print pem, ()⟩]) (.print "\n") :=
      .inr ⟨rfl, h, pem, rfl, hpem, hend⟩
    refine Prog.holds_call.mpr ⟨hcall, fun _ _ => Prog.holds_pure.mpr ⟨h, pem, hpem, ?_⟩⟩
    rw [if_neg (by simp [hend]), List.append_assoc]
    rfl

theorem publicKey_holds : (publicKey lib url keyId).Holds (publicKeyContract lib url keyId)
    (PublicKeyEnd lib url keyId) [] := by
  have hsilent : ∀ request ans, Signing.Silent [⟨.buildClient, .ok ()⟩, sent request ans] := by
    intro request ans e he
    rcases List.mem_cons.mp he with rfl | he
    · rfl
    · rw [List.mem_singleton.mp he]
      rfl
  refine Prog.holds_liftM_bind.mpr ⟨fun e _ e' he => (nomatch he), fun endpoint hendpoint => ?_⟩
  refine Prog.holds_op_bind.mpr ⟨rfl, fun ans _ => ?_⟩
  refine Prog.holds_liftM_bind.mpr ⟨fun e _ => ?_, fun _ hbuilt => ?_⟩
  · intro e he
    rw [List.mem_singleton.mp he]
    rfl
  obtain rfl := withContext_eq_ok.mp hbuilt
  refine Prog.holds_op_bind.mpr ⟨⟨endpoint, hendpoint, rfl, rfl⟩, fun ans _ => ?_⟩
  refine Prog.holds_liftM_bind.mpr ⟨fun e _ => hsilent _ ans, fun response hans => ?_⟩
  obtain rfl := withContext_eq_ok.mp hans
  refine Prog.holds_liftM_bind.mpr ⟨fun e _ => hsilent _ _, fun _ hok => ?_⟩
  refine Prog.holds_liftM_bind.mpr ⟨fun e _ => hsilent _ _, fun pem hpem => ?_⟩
  refine Prog.holds_liftM_bind.mpr ⟨fun e _ => hsilent _ _, fun _ hformat => ?_⟩
  rw [bailIf_eq_ok, Bool.not_eq_false'] at hok
  obtain ⟨body, hbody, rfl⟩ : ∃ body, response.bytes = .ok body ∧ lib.text body = pem := by
    rw [withContext_eq_ok] at hpem
    cases hbytes : response.bytes with
    | error e =>
      rw [hbytes] at hpem
      cases hpem
    | ok body =>
      rw [hbytes] at hpem
      cases hpem
      exact ⟨body, rfl, rfl⟩
  rw [bailIf_eq_ok, Bool.or_eq_false_iff, Bool.not_eq_false', Bool.not_eq_false'] at hformat
  exact printPublicKey_holds ⟨⟨endpoint, response, body, hendpoint, rfl, hok, hbody, rfl⟩, hformat.1,
    hformat.2⟩

/-- **`public-key` prints the public key that the signer has sent**, and if it fails nothing. -/
theorem public_key_printed (hr : Prog.Reach (publicKey lib url keyId) h q) :
    (∀ before e after, h = before ++ e :: after → PublicKeyCall lib url keyId before e.op) ∧
    (∀ r, q = Prog.ofExcept r → PublicKeyEnd lib url keyId h r) := by
  have hkept : ∀ h t, (publicKeyContract lib url keyId).Kept h t :=
    Prog.Contract.kept_of_rely fun _ _ _ => trivial
  constructor
  · rintro before e after rfl
    obtain ⟨next, hnext⟩ := hr.at_call
    exact (Prog.holds_call.mp (publicKey_holds.reach hnext (hkept _ _))).1
  · rintro r rfl
    exact Prog.holds_ofExcept.mp (publicKey_holds.reach hr (hkept _ _))

end PublicKey

end Client

end MicrotunSigner
