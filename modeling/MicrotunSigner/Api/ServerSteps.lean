import MicrotunSigner.Api.Server
import MicrotunSigner.Api.AdminRuns

/-!
# The steps of the server (`api.rs`)

What a handler can do (`PublicStep`), and what happens to the parts of the server meanwhile: the
admin API, the exchanges and the calls of `jwk_for` are views of it (`Server.adminView`,
`Server.deviceView`, `Server.jwksView`), so that a run of the server is a run of each of them.
-/

namespace MicrotunSigner

open Lib Lib.Text

variable {Key P S R : Type}

namespace Server

variable (self : Server Key P S R)

/-- The admin API and the key store. -/
abbrev adminPart : Sys (AdminSt P S R) AdminAct :=
  adminSys self.crates self.state.keys self.unlockFromSlice

abbrev jwksPart : Sys JwksSt JwksAct := jwksSys self.auth.actions self.jwksFromSlice

end Server

/-- The steps of a handler. -/
inductive PublicStep (self : Server Key P S R) (s : ServerSt P S R) :
    PublicPc → PublicIn → ServerSt P S R → PublicPc → Prop where
  | config (request) : request.route = .deviceConfig →
      PublicStep self s (.entered request) .go s
        (.answered request [] (.ok (.deviceConfig self.auth.githubOAuthDeviceConfig)))
  | exchange (request) : request.route = .deviceExchange →
      PublicStep self s (.entered request) .go s (.admitting request s.device.shared.now)
  | noPublicKey (request keyId error) : request.route = .publicKey keyId →
      error.requestId = request.requestId →
      PublicStep self s (.entered request) .go s (.fail request error)
  | publicKey (request keyId i key pem) : request.route = .publicKey keyId →
      self.state.keys.getAt keyId = some (i, key) →
      (s.admin.keys.cells i).publicKeyPem self.crates = some pem →
      PublicStep self s (.entered request) .go s (.answered request [] (.ok (.publicKey pem)))
  | media (request keyId input) : request.route = .sign keyId →
      isJsonContentType request.headers = false →
      PublicStep self s (.entered request) input s (.fail request (.new .unsupportedMediaType
        "unsupported-content-type" "Unsupported content type"
        "Signing requests must use Content-Type: application/json." request.requestId))
  | refuse (request keyId input e) : request.route = .sign keyId →
      PublicStep self s (.entered request) input s (.refuse request e)
  | look (request keyId token input) : request.route = .sign keyId →
      isJsonContentType request.headers = true → bearerToken request.headers = .ok token →
      isGithubActionsJwt self.auth.jwt token = false →
      PublicStep self s (.entered request) input s
        (.looking request keyId token s.device.shared.now)
  | askJwk (request keyId token header kid j jwks) : request.route = .sign keyId →
      isJsonContentType request.headers = true → bearerToken request.headers = .ok token →
      self.auth.jwt.decodeHeader token = some header → header.kid = some kid →
      self.jwksPart.step s.jwks (.start j kid) = some jwks →
      PublicStep self s (.entered request) (.spawn j) { s with jwks }
        (.awaitingJwk request keyId token j)
  | limited (request now e attempts) : checkRate request.peer now s.attempts = (.error e, attempts) →
      PublicStep self s (.admitting request now) .go { s with attempts }
        (.fail request (deviceExchangeLimitError e request.requestId))
  | passed (request now attempts) : checkRate request.peer now s.attempts = (.ok (), attempts) →
      PublicStep self s (.admitting request now) .go { s with attempts } (.acquiring request)
  | leaveLimiter (request now) : PublicStep self s (.admitting request now) .cancel s .gone
  | busy (request) : s.permits = 0 → PublicStep self s (.acquiring request) .go s
      (.fail request (deviceExchangeLimitError .busy request.requestId))
  | acquire (request) : s.permits ≠ 0 → PublicStep self s (.acquiring request) .go
      { s with permits := s.permits - 1 } (.admitted request)
  | badExchange (request d error) : error.requestId = request.requestId →
      PublicStep self s (.admitted request) (.spawn d)
        { s with permits := s.permits + 1 } (.fail request error)
  | startExchange (request d body device) : isJsonContentType request.headers = true →
      self.exchangeFromSlice request.body = some body →
      self.auth.deviceSys.step s.device (.start d body.accessToken) = some device →
      PublicStep self s (.admitted request) (.spawn d) { s with device } (.exchanging request d)
  | exchanged (request d token result) : s.device.calls d = .done token (some result) →
      PublicStep self s (.exchanging request d) .go { s with permits := s.permits + 1 }
        (.exchanged request result)
  | exchangeGone (request d token) : s.device.calls d = .done token none →
      PublicStep self s (.exchanging request d) .go { s with permits := s.permits + 1 } .gone
  | leaveExchange (request d device) :
      self.auth.deviceSys.step s.device (.call d .cancel) = some device →
      PublicStep self s (.exchanging request d) .cancel { s with device } (.exchanging request d)
  | noSession (request keyId token now e) : PublicStep self s (.looking request keyId token now) .go
      s (.refuse request e)
  | session (request keyId token now principal) :
      authenticateGithubAccountSession self.auth.sha256 self.auth.github now token
        s.device.shared.sessions = .ok principal →
      PublicStep self s (.looking request keyId token now) .go s
        (.authenticated request keyId principal)
  | leaveSessions (request keyId token now) :
      PublicStep self s (.looking request keyId token now) .cancel s .gone
  | jwk (request keyId token j kid jwk) : s.jwks.calls j = .done kid (some (.ok jwk)) →
      PublicStep self s (.awaitingJwk request keyId token j) .go s (.verifying request keyId token jwk)
  | noJwk (request keyId token j e) :
      PublicStep self s (.awaitingJwk request keyId token j) .go s (.refuse request e)
  | jwkGone (request keyId token j) : PublicStep self s (.awaitingJwk request keyId token j) .go s .gone
  | leaveJwk (request keyId token j jwks) :
      self.jwksPart.step s.jwks (.call j .cancel) = some jwks →
      PublicStep self s (.awaitingJwk request keyId token j) .cancel { s with jwks }
        (.awaitingJwk request keyId token j)
  | readings (request keyId token jwk decodeWall unixWall) :
      PublicStep self s (.verifying request keyId token jwk) (.walls decodeWall unixWall) s
        (.recording request keyId token jwk ⟨decodeWall, s.device.shared.now, unixWall⟩)
  | record (request keyId token jwk at_ principal seenJtis) :
      authenticateGithubActions self.auth.jwt self.auth.actions self.auth.identities
        (fun _ => .ok jwk) at_ token s.seenJtis = (.ok principal, seenJtis) →
      PublicStep self s (.recording request keyId token jwk at_) .go { s with seenJtis }
        (.authenticated request keyId principal)
  | notRecorded (request keyId token jwk at_ e seenJtis) :
      PublicStep self s (.recording request keyId token jwk at_) .go { s with seenJtis }
        (.refuse request e)
  | panicked (request keyId token jwk at_ seenJtis) :
      PublicStep self s (.recording request keyId token jwk at_) .go { s with seenJtis }
        (.answered request [] .panic)
  | deny (request keyId principal error) : error.requestId = request.requestId →
      PublicStep self s (.authenticated request keyId principal) .go s
        (.deny request keyId principal error)
  | validate (request keyId principal body digest) : self.api.fromSlice request.body = some body →
      ValidRequest self.api self.state s.admin.keys.cells principal keyId body digest →
      PublicStep self s (.authenticated request keyId principal) .go s
        (.validated request keyId principal digest)
  | sign (request keyId principal digest rng records outcome) :
      signValidated self.api self.crates self.state s.admin.keys.cells rng request.requestId
        principal keyId digest = (records, outcome) →
      PublicStep self s (.validated request keyId principal digest) (.random rng) s
        (.answered request records (outcome.map .signature))

section Steps

variable {self : Server Key P S R} {s s' : ServerSt P S R} {pc pc' : PublicPc} {input : PublicIn}
  {request : PublicRequest} {keyId : String}

theorem beginExchange_step {d : Nat} (h : self.beginExchange s request d = some (s', pc')) :
    PublicStep self s (.admitted request) (.spawn d) s' pc' := by
  unfold Server.beginExchange at h
  cases hjson : isJsonContentType request.headers with
  | false =>
    rw [hjson] at h
    cases h
    exact .badExchange request d _ rfl
  | true =>
    rw [hjson] at h
    cases hbody : self.exchangeFromSlice request.body with
    | none =>
      rw [hbody] at h
      cases h
      exact .badExchange request d _ rfl
    | some body =>
      rw [hbody] at h
      obtain ⟨device, hstep, he⟩ := Option.map_eq_some_iff.mp h
      cases he
      exact .startExchange request d body device hjson hbody hstep

theorem beginSign_step (hroute : request.route = .sign keyId)
    (h : self.beginSign s request keyId input = some (s', pc')) :
    PublicStep self s (.entered request) input s' pc' := by
  unfold Server.beginSign at h
  cases hjson : isJsonContentType request.headers with
  | false =>
    rw [hjson] at h
    cases h
    exact .media request keyId input hroute hjson
  | true =>
    rw [hjson] at h
    cases hbearer : bearerToken request.headers with
    | error e =>
      rw [hbearer] at h
      cases h
      exact .refuse request keyId input e hroute
    | ok token =>
      simp only [hbearer, Bool.not_true, Bool.false_eq_true, if_false] at h
      cases hjwt : isGithubActionsJwt self.auth.jwt token with
      | false =>
        rw [hjwt] at h
        cases h
        exact .look request keyId token input hroute hjson hbearer hjwt
      | true =>
        rw [hjwt, if_pos rfl] at h
        split at h
        · cases h
          exact .refuse request keyId _ _ hroute
        · rename_i kid j hkid
          obtain ⟨header, hheader, hkid⟩ := Option.bind_eq_some_iff.mp hkid
          obtain ⟨jwks, hstep, he⟩ := Option.map_eq_some_iff.mp h
          cases he
          exact .askJwk request keyId token header kid j jwks hroute hjson hbearer hheader hkid hstep
        · cases h

theorem getPublicKey_step (hroute : request.route = .publicKey keyId)
    (h : self.getPublicKey s request keyId = some pc') :
    PublicStep self s (.entered request) .go s pc' := by
  unfold Server.getPublicKey at h
  split at h
  · cases h
    exact .noPublicKey request keyId _ hroute rfl
  · rename_i i key hget
    split at h
    · cases h
    · have hget : self.state.keys.getAt keyId = some (i, key) := by
        split at hget
        · exact hget
        · cases hget
      cases hpem : (s.admin.keys.cells i).publicKeyPem self.crates with
      | none =>
        rw [hpem] at h
        cases h
        exact .noPublicKey request keyId _ hroute rfl
      | some pem =>
        rw [hpem] at h
        cases h
        exact .publicKey request keyId i key pem hroute hget hpem

theorem validate_step {principal : AuthPrincipal}
    (h : self.validate s request keyId principal = some pc') :
    PublicStep self s (.authenticated request keyId principal) .go s pc' := by
  unfold Server.validate at h
  cases hbody : self.api.fromSlice request.body with
  | none =>
    rw [hbody] at h
    cases h
    exact .deny request keyId principal _ rfl
  | some body =>
    rw [hbody] at h
    dsimp only at h
    split at h
    · cases h
    · cases hval : validateSigningRequest self.api self.state s.admin.keys.cells principal keyId
          body with
      | error error =>
        rw [hval] at h
        cases h
        exact .deny request keyId principal _ rfl
      | ok digest =>
        rw [hval] at h
        cases h
        exact .validate request keyId principal body digest hbody
          (validateSigningRequest_eq_ok.mp hval)

theorem sign_step {principal : AuthPrincipal} {digest : Vector UInt8 32} {rng : Nat}
    (h : self.sign s request keyId principal digest rng = some pc') :
    PublicStep self s (.validated request keyId principal digest) (.random rng) s pc' := by
  unfold Server.sign at h
  split at h
  · cases h
  · cases h
    exact .sign request keyId principal digest rng _ _ rfl

/-- **What a step of a handler is.** -/
theorem publicStep_of_eq (h : self.stepHandler s pc input = some (s', pc')) :
    PublicStep self s pc input s' pc' := by
  unfold Server.stepHandler at h
  split at h
  · split at h
    · rename_i hroute
      cases h
      exact .config _ hroute
    · rename_i hroute
      cases h
      exact .exchange _ hroute
    · rename_i keyId hroute
      obtain ⟨pc, hpc, he⟩ := Option.map_eq_some_iff.mp h
      cases he
      exact getPublicKey_step hroute hpc
    · rename_i keyId _ hroute
      exact beginSign_step hroute h
    · cases h
  · rename_i request now
    cases hcheck : checkRate request.peer now s.attempts with
    | mk admitted attempts =>
      rw [hcheck] at h
      cases h
      cases admitted with
      | error e => exact .limited request now e attempts hcheck
      | ok u => exact .passed request now attempts hcheck
  · cases h
    exact .leaveLimiter _ _
  · split at h
    · rename_i hbusy
      cases h
      exact .busy _ hbusy
    · rename_i hfree
      cases h
      exact .acquire _ hfree
  · exact beginExchange_step h
  · split at h
    · rename_i token result hdone
      cases h
      exact .exchanged _ _ token result hdone
    · rename_i token hdone
      cases h
      exact .exchangeGone _ _ token hdone
    · cases h
  · obtain ⟨device, hstep, he⟩ := Option.map_eq_some_iff.mp h
    cases he
    exact .leaveExchange _ _ device hstep
  · rename_i request keyId token now
    cases h
    cases hauth : authenticateGithubAccountSession self.auth.sha256 self.auth.github now token
        s.device.shared.sessions with
    | error e => exact .noSession request keyId token now e
    | ok principal => exact .session request keyId token now principal hauth
  · cases h
    exact .leaveSessions _ _ _ _
  · split at h
    · rename_i kid jwk hdone
      cases h
      exact .jwk _ _ _ _ kid jwk hdone
    · rename_i e hdone
      cases h
      exact .noJwk _ _ _ _ e
    · cases h
      exact .jwkGone _ _ _ _
    · cases h
  · obtain ⟨jwks, hstep, he⟩ := Option.map_eq_some_iff.mp h
    cases he
    exact .leaveJwk _ _ _ _ jwks hstep
  · cases h
    exact .readings _ _ _ _ _ _
  · rename_i request keyId token jwk at_
    cases hauth : authenticateGithubActions self.auth.jwt self.auth.actions self.auth.identities
        (fun _ => .ok jwk) at_ token s.seenJtis with
    | mk outcome seenJtis =>
      rw [hauth] at h
      cases h
      cases outcome with
      | ok principal => exact .record request keyId token jwk at_ principal seenJtis hauth
      | err e => exact .notRecorded request keyId token jwk at_ e seenJtis
      | panic => exact .panicked request keyId token jwk at_ seenJtis
  · obtain ⟨pc, hpc, he⟩ := Option.map_eq_some_iff.mp h
    cases he
    exact validate_step hpc
  · obtain ⟨pc, hpc, he⟩ := Option.map_eq_some_iff.mp h
    cases he
    exact sign_step hpc
  · cases h

/-- A handler leaves the others alone. -/
theorem PublicStep.handlers (h : PublicStep self s pc input s' pc') : s'.handlers = s.handlers := by
  cases h <;> rfl

/-- The handlers of the public API do not change the keys. -/
theorem PublicStep.admin (h : PublicStep self s pc input s' pc') : s'.admin = s.admin := by
  cases h <;> rfl

end Steps

/-! ## The steps of the server -/

/-- The action is one of the admin API. -/
def AdminAct.isAdmin : AdminAct → Bool
  | .publicCall _ _ => false
  | .publicStep _ => false
  | _ => true

/-- The time that a step of `jwk_for` takes. -/
def JwksIn.elapsed : JwksIn → Nat
  | .attempt d => d
  | _ => 0

inductive ServerStep (self : Server Key P S R) (s : ServerSt P S R) :
    ServerAct → ServerSt P S R → Prop where
  | arrive (c request) : s.handlers c = .out → ServerStep self s (.arrive c request)
      { s with handlers := Function.update s.handlers c (.entered request) }
  | handle (c input s' pc) : PublicStep self s (s.handlers c) input s' pc →
      ServerStep self s (.handle c input)
        { s' with handlers := Function.update s.handlers c pc }
  | admin (a admin) : a.isAdmin = true → self.adminPart.step s.admin a = some admin →
      ServerStep self s (.admin a) { s with admin }
  | device (d input device) : input ≠ .cancel →
      self.auth.deviceSys.step s.device (.call d input) = some device →
      ServerStep self s (.device d input) { s with device }
  | jwks (j input jwks device) : input ≠ .cancel →
      self.jwksPart.step s.jwks (.call j input) = some jwks →
      self.auth.deviceSys.step s.device (.tick input.elapsed) = some device →
      ServerStep self s (.jwks j input) { s with jwks, device }
  | tick (d device jwks) : self.auth.deviceSys.step s.device (.tick d) = some device →
      self.jwksPart.step s.jwks (.tick d) = some jwks →
      ServerStep self s (.tick d) { s with device, jwks }
  | poison (device) : self.auth.deviceSys.step s.device .poison = some device →
      ServerStep self s .poisonReplay { s with device }

section System

variable {self : Server Key P S R} {s t u : ServerSt P S R} {a : ServerAct} {as : List ServerAct}
  {now₀ : Int}

/-- **What a step of the server is.** -/
theorem serverStep (h : self.sys.step s a = some u) : ServerStep self s a u := by
  cases a with
  | arrive c request =>
    simp only [Server.sys] at h
    split at h
    · rename_i hout
      cases h
      exact .arrive c request hout
    · cases h
  | handle c input =>
    obtain ⟨⟨s', pc⟩, hs, he⟩ := Option.map_eq_some_iff.mp h
    cases he
    have hstep := publicStep_of_eq hs
    dsimp only
    rw [hstep.handlers]
    exact .handle c input s' pc hstep
  | admin a =>
    have hadmin (ha : a.isAdmin = true) (h : (self.adminPart.step s.admin a).map
        (fun admin => { s with admin }) = some u) : ServerStep self s (.admin a) u := by
      obtain ⟨admin, hs, he⟩ := Option.map_eq_some_iff.mp h
      cases he
      exact .admin a admin ha hs
    cases a with
    | publicCall | publicStep => cases h
    | arrive | acquire | start | work | finish | panic | reply | disconnect | poison =>
      exact hadmin rfl h
  | device d input =>
    have hdevice (hi : input ≠ .cancel) (h : (self.auth.deviceSys.step s.device (.call d input)).map
        (fun device => { s with device }) = some u) : ServerStep self s (.device d input) u := by
      obtain ⟨device, hs, he⟩ := Option.map_eq_some_iff.mp h
      cases he
      exact .device d input device hi hs
    cases input with
    | cancel => cases h
    | go | check | user | revoke | random => exact hdevice (fun hc => nomatch hc) h
  | jwks j input =>
    have hjwks (hi : input ≠ .cancel) (h : (do
        let jwks ← self.jwksPart.step s.jwks (.call j input)
        let device ← self.auth.deviceSys.step s.device (.tick input.elapsed)
        return { s with jwks, device }) = some u) : ServerStep self s (.jwks j input) u := by
      simp only [Option.bind_eq_bind, Option.bind_eq_some_iff, Option.pure_def] at h
      obtain ⟨jwks, hj, device, hd, he⟩ := h
      cases he
      exact .jwks j input jwks device hi hj hd
    cases input with
    | cancel => cases h
    | go | attempt | reply => exact hjwks (fun hc => nomatch hc) h
  | tick d =>
    simp only [Server.sys, Option.bind_eq_bind, Option.bind_eq_some_iff, Option.pure_def] at h
    obtain ⟨device, hd, jwks, hj, he⟩ := h
    cases he
    exact .tick d device jwks hd hj
  | poisonReplay =>
    simp only [Server.sys, Option.map_eq_some_iff] at h
    obtain ⟨device, hd, rfl⟩ := h
    exact .poison device hd

/-! ## Its parts -/

/-- What a step is on the admin API. -/
def ServerSt.adminMoves : ServerAct → List AdminAct
  | .admin a => [a]
  | _ => []

/-- What a step is on the exchanges. -/
def Server.deviceMoves (self : Server Key P S R) (s : ServerSt P S R) (a : ServerAct)
    (u : ServerSt P S R) : List DeviceAct :=
  match a with
  | .handle c (.spawn d) => match u.handlers c with
    | .exchanging request _ => match self.exchangeFromSlice request.body with
      | some body => [.start d body.accessToken]
      | none => []
    | _ => []
  | .handle c .cancel => match s.handlers c with
    | .exchanging _ d => [.call d .cancel]
    | _ => []
  | .device d input => [.call d input]
  | .jwks _ input => [.tick input.elapsed]
  | .tick d => [.tick d]
  | .poisonReplay => [.poison]
  | _ => []

/-- What a step is on the calls of `jwk_for`. -/
def Server.jwksMoves (self : Server Key P S R) (s : ServerSt P S R) (a : ServerAct)
    (u : ServerSt P S R) : List JwksAct :=
  match a with
  | .handle c (.spawn j) => match u.handlers c with
    | .awaitingJwk _ _ token _ => match (self.auth.jwt.decodeHeader token).bind JwtHeader.kid with
      | some kid => [.start j kid]
      | none => []
    | _ => []
  | .handle c .cancel => match s.handlers c with
    | .awaitingJwk _ _ _ j => [.call j .cancel]
    | _ => []
  | .jwks j input => [.call j input]
  | .tick d => [.tick d]
  | _ => []

/-- One step is a run. -/
theorem run_one {σ α : Type} {T : Sys σ α} {x y : σ} {b : α} (h : T.step x b = some y) :
    T.run x [b] = some y := by
  rw [Sys.run, h]
  rfl

namespace Server

variable (self)

/-- The admin API in the server. -/
def adminView : self.sys.Refines self.adminPart fun _ => True where
  abs s := s.admin
  moves _ a _ := ServerSt.adminMoves a
  step s a u _ _ h := by
    cases serverStep h with
    | arrive | device | jwks | tick | poison => rfl
    | handle c input s' pc hs => exact congrArg some hs.admin.symm
    | admin a admin _ hs => exact run_one hs

/-- The exchanges in the server. -/
def deviceView : self.sys.Refines self.auth.deviceSys fun _ => True where
  abs s := s.device
  moves := self.deviceMoves
  step s a u _ _ h := by
    cases serverStep h with
    | arrive | admin => rfl
    | handle c input s' pc hs =>
      generalize hpc : s.handlers c = pc₀ at hs
      cases hs with
      | startExchange request d body device _ hbody hd =>
        simp only [deviceMoves, Function.update_self, hbody]
        exact run_one hd
      | leaveExchange request d device hd =>
        simp only [deviceMoves, hpc]
        exact run_one hd
      | leaveLimiter | leaveSessions | leaveJwk =>
        simp only [deviceMoves, hpc]
        rfl
      | askJwk | badExchange =>
        simp only [deviceMoves, Function.update_self]
        rfl
      | media | refuse | look =>
        cases input with
        | spawn => simp only [deviceMoves, Function.update_self]; rfl
        | cancel => simp only [deviceMoves, hpc]; rfl
        | go | walls | random => rfl
      | _ => rfl
    | device d input device _ hs => exact run_one hs
    | jwks j input jwks device _ _ hd => exact run_one hd
    | tick d device jwks hd _ => exact run_one hd
    | poison device hd => exact run_one hd

/-- The calls of `jwk_for` in the server. -/
def jwksView : self.sys.Refines self.jwksPart fun _ => True where
  abs s := s.jwks
  moves := self.jwksMoves
  step s a u _ _ h := by
    cases serverStep h with
    | arrive | admin | device | poison => rfl
    | handle c input s' pc hs =>
      generalize hpc : s.handlers c = pc₀ at hs
      cases hs with
      | askJwk request keyId token header kid j jwks _ _ _ hheader hkid hj =>
        simp only [jwksMoves, Function.update_self, hheader, Option.bind_some, hkid]
        exact run_one hj
      | leaveJwk request keyId token j jwks hj =>
        simp only [jwksMoves, hpc]
        exact run_one hj
      | leaveLimiter | leaveSessions | leaveExchange =>
        simp only [jwksMoves, hpc]
        rfl
      | startExchange | badExchange =>
        simp only [jwksMoves, Function.update_self]
        rfl
      | media | refuse | look =>
        cases input with
        | spawn => simp only [jwksMoves, Function.update_self]; rfl
        | cancel => simp only [jwksMoves, hpc]; rfl
        | go | walls | random => rfl
      | _ => rfl
    | jwks j input jwks device _ hj _ => exact run_one hj
    | tick d device jwks _ hj => exact run_one hj

end Server

/-- What a run of the server is on its parts. -/
def Server.adminActions (self : Server Key P S R) (now₀ : Int) (as : List ServerAct) :
    List AdminAct := self.adminView.actions (.new now₀) as

def Server.deviceActions (self : Server Key P S R) (now₀ : Int) (as : List ServerAct) :
    List DeviceAct := self.deviceView.actions (.new now₀) as

def Server.jwksActions (self : Server Key P S R) (now₀ : Int) (as : List ServerAct) :
    List JwksAct := self.jwksView.actions (.new now₀) as

theorem run_admin (hrun : self.sys.run (.new now₀) as = some t) :
    self.adminPart.run .new (self.adminActions now₀ as) = some t.admin :=
  Sys.Refines.run (R := self.adminView) through_true hrun

theorem run_device (hrun : self.sys.run (.new now₀) as = some t) :
    self.auth.deviceSys.run (.new now₀) (self.deviceActions now₀ as) = some t.device :=
  Sys.Refines.run (R := self.deviceView) through_true hrun

theorem run_jwks (hrun : self.sys.run (.new now₀) as = some t) :
    self.jwksPart.run (.new now₀) (self.jwksActions now₀ as) = some t.jwks :=
  Sys.Refines.run (R := self.jwksView) through_true hrun

end System

end MicrotunSigner
