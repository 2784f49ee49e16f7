import MicrotunSigner.Api.ServerSteps
import MicrotunSigner.Auth.DeviceGuards
import MicrotunSigner.Lib.Permits

/-!
# The bound on the exchanges (`api.rs`)

An exchange goes on only while a handler with a permit waits for it (`ExchangesOk`). So eight of
them at most are on their way to GitHub, and eight tokens at most are reserved
(`exchanges_bounded`), whatever the clients and GitHub do.
-/

namespace MicrotunSigner

open Lib

variable {Key P S R : Type}

/-- The handler has a permit. -/
def PublicPc.holds : PublicPc → Bool
  | .admitted _ => true
  | .exchanging _ _ => true
  | _ => false

/-- The call has begun, and has not ended. -/
def DevicePc.active : DevicePc → Bool
  | .idle => false
  | .done _ _ => false
  | _ => true

/-- The permits, and the handler of each exchange on its way. -/
structure ExchangesOk (s : ServerSt P S R) : Prop where
  permits : Permits deviceExchangeMaxConcurrent s.permits fun c => (s.handlers c).holds = true
  owner : ∀ d, (s.device.calls d).active = true → ∃ c request, s.handlers c = .exchanging request d

section Bounds

variable {self : Server Key P S R} {s t u : ServerSt P S R} {a : ServerAct} {as : List ServerAct}
  {now₀ : Int} {c : Nat} {pc pc' : PublicPc} {input : PublicIn}

theorem DeviceStep.active {auth : Authenticator Key} {x x' : DeviceShared} {pc pc' : DevicePc}
    {input : DeviceIn} (h : DeviceStep auth x pc input x' pc') : pc.active = true := by
  cases h with
  | cancel _ token hawaits =>
    cases pc with
    | idle | done => cases hawaits
    | _ => rfl
  | _ => rfl

/-- Only a call that begins becomes active. -/
theorem active_of_step {auth : Authenticator Key} {x y : DeviceSt} {b : DeviceAct} {d : Nat}
    (h : auth.deviceSys.step x b = some y) (hd : (y.calls d).active = true) :
    (x.calls d).active = true ∨ ∃ token, b = .start d token := by
  rcases device_cases h with ⟨e, token, rfl, -, rfl⟩ | ⟨e, i, shared, pc, -, hs, rfl⟩ | ⟨_, -, rfl⟩ |
    ⟨-, rfl⟩
  · rcases update_cases x.calls e (enterDevice token) d with ⟨rfl, -⟩ | ⟨-, he⟩
    · exact .inr ⟨token, rfl⟩
    · exact .inl (he ▸ hd)
  · rcases update_cases x.calls e pc d with ⟨rfl, -⟩ | ⟨-, he⟩
    · exact .inl hs.active
    · exact .inl (he ▸ hd)
  · exact .inl hd
  · exact .inl hd

/-- A step of the handler `c` keeps the owners if those of the exchanges still on their way do. -/
theorem ExchangesOk.handled (h : ExchangesOk s) (hc : s.handlers c = pc) {device : DeviceSt}
    {permits : Nat} {admin : AdminSt P S R} {jwks : JwksSt} {attempts : Attempts}
    {seenJtis : SeenJtis}
    (hpermits : Permits deviceExchangeMaxConcurrent permits fun d =>
      (Function.update s.handlers c pc' d).holds = true)
    (howner : ∀ d, (device.calls d).active = true → (s.device.calls d).active = true ∨
      ∃ request, pc' = .exchanging request d)
    (hkeep : ∀ request d, pc = .exchanging request d → (device.calls d).active = true →
      ∃ request', pc' = .exchanging request' d) :
    ExchangesOk ⟨admin, device, jwks, attempts, permits, seenJtis,
      Function.update s.handlers c pc'⟩ where
  permits := hpermits
  owner d hd := by
    dsimp only
    have hself {request : PublicRequest} (he : pc' = .exchanging request d) :
        ∃ c' request', Function.update s.handlers c pc' c' = .exchanging request' d :=
      ⟨c, request, by rw [Function.update_self, he]⟩
    rcases howner d hd with hold | ⟨request, he⟩
    · obtain ⟨c', request, he⟩ := h.owner d hold
      by_cases hcc : c' = c
      · subst hcc
        obtain ⟨request', he'⟩ := hkeep request d (hc.symm.trans he) hd
        exact hself he'
      · exact ⟨c', request, by rw [Function.update_of_ne hcc, he]⟩
    · exact hself he

/-- The handler goes on without an exchange, and no exchange changes. -/
theorem ExchangesOk.quiet (h : ExchangesOk s) (hc : s.handlers c = pc)
    (hpc : ∀ request d, pc ≠ .exchanging request d) (hholds : pc'.holds = pc.holds)
    {admin : AdminSt P S R} {jwks : JwksSt} {attempts : Attempts} {seenJtis : SeenJtis} :
    ExchangesOk ⟨admin, s.device, jwks, attempts, s.permits, seenJtis,
      Function.update s.handlers c pc'⟩ := by
  refine h.handled hc (h.permits.move (p := fun pc : PublicPc => pc.holds = true) ?_)
    (fun d hd => .inl hd) fun request d he => absurd he (hpc request d)
  rw [hholds, hc]

/-- The handler gives its permit back, and the exchange that it waited for has ended. -/
theorem ExchangesOk.leave (h : ExchangesOk s) (hc : s.handlers c = pc) (hpc : pc.holds = true)
    (hpc' : pc'.holds = false)
    (hend : ∀ request d, pc = .exchanging request d → (s.device.calls d).active = false) :
    ExchangesOk ⟨s.admin, s.device, s.jwks, s.attempts, s.permits + 1, s.seenJtis,
      Function.update s.handlers c pc'⟩ := by
  refine h.handled hc (h.permits.giveBack (p := fun pc : PublicPc => pc.holds = true) ?_ ?_)
    (fun d hd => .inl hd) fun request d he hd => ?_
  · rw [hc, hpc]
  · rw [hpc']
    exact Bool.false_ne_true
  · rw [hend request d he] at hd
    cases hd

theorem ExchangesOk.handle {s' : ServerSt P S R} (h : ExchangesOk s)
    (hs : PublicStep self s (s.handlers c) input s' pc') :
    ExchangesOk { s' with handlers := Function.update s.handlers c pc' } := by
  generalize hc : s.handlers c = pc at hs
  cases hs with
  | acquire request hfree =>
    refine h.handled hc (h.permits.take (p := fun pc : PublicPc => pc.holds = true) hfree ?_ rfl)
      (fun d hd => .inl hd) fun request d he => nomatch he
    rw [hc]
    exact Bool.false_ne_true
  | badExchange => exact h.leave hc rfl rfl fun _ _ he => nomatch he
  | startExchange request d body device _ _ hd =>
    refine h.handled hc (h.permits.move (p := fun pc : PublicPc => pc.holds = true) ?_)
      (fun e he => ?_) fun request d he => nomatch he
    · rw [hc]
      exact Iff.rfl
    · rcases active_of_step hd he with hold | ⟨token, heq⟩
      · exact .inl hold
      · cases heq
        exact .inr ⟨request, rfl⟩
  | exchanged request d token result hdone =>
    refine h.leave hc rfl (by cases result <;> rfl) fun request d he => ?_
    cases he
    rw [hdone]
    rfl
  | exchangeGone request d token hdone =>
    refine h.leave hc rfl rfl fun request d he => ?_
    cases he
    rw [hdone]
    rfl
  | leaveExchange request d device hd =>
    refine h.handled hc (h.permits.move (p := fun pc : PublicPc => pc.holds = true) ?_)
      (fun e he => ?_) fun request d he _ => ⟨request, he⟩
    · rw [hc]
    · rcases active_of_step hd he with hold | ⟨token, heq⟩
      · exact .inl hold
      · cases heq
  | _ =>
    refine h.quiet hc (fun _ _ he => nomatch he) ?_
    rfl

/-- What the steps of the server keep. -/
theorem ExchangesOk.step (h : ExchangesOk s) (hu : self.sys.step s a = some u) :
    ExchangesOk u := by
  -- An exchange that goes on by itself.
  have hgoes {b : DeviceAct} {device : DeviceSt}
      (hd : self.auth.deviceSys.step s.device b = some device) (hb : ∀ d token, b ≠ .start d token)
      (d : Nat) (hact : (device.calls d).active = true) :
      ∃ c request, s.handlers c = .exchanging request d := by
    rcases active_of_step hd hact with hold | ⟨token, rfl⟩
    · exact h.owner d hold
    · exact absurd rfl (hb d token)
  cases serverStep hu with
  | arrive c request hout =>
    refine h.quiet hout (fun _ _ he => nomatch he) ?_
    rfl
  | handle c input s' pc hs => exact h.handle hs
  | admin => exact ⟨h.permits, h.owner⟩
  | device d input device _ hd => exact ⟨h.permits, hgoes hd fun _ _ he => nomatch he⟩
  | jwks j input jwks device _ _ hd => exact ⟨h.permits, hgoes hd fun _ _ he => nomatch he⟩
  | tick d device jwks hd _ => exact ⟨h.permits, hgoes hd fun _ _ he => nomatch he⟩
  | poison device hd => exact ⟨h.permits, hgoes hd fun _ _ he => nomatch he⟩

theorem run_exchangesOk (hrun : self.sys.run (.new now₀) as = some t) : ExchangesOk t := by
  refine Sys.run_keeps (P := ExchangesOk) (fun _ _ _ h hu => h.step hu) ?_ hrun
  exact ⟨Permits.all_free fun _ => Bool.false_ne_true, fun d hd => nomatch hd⟩

/-- Nothing but `poisonReplay` poisons the replay cache. -/
theorem poison_not_mem (hrun : self.sys.run (.new now₀) as = some t)
    (hno : .poisonReplay ∉ as) : .poison ∉ self.deviceActions now₀ as := by
  intro hm
  obtain ⟨pre, a, post, v, u, rfl, -, hu, hp⟩ := Sys.did_of_mem_trace hrun hm
  have ha : a = .poisonReplay := by
    change .poison ∈ self.deviceMoves v a u at hp
    unfold Server.deviceMoves at hp
    split at hp
    · split at hp
      · split at hp
        · simp at hp
        · cases hp
      · cases hp
    · split at hp
      · simp at hp
      · cases hp
    · simp at hp
    · simp at hp
    · simp at hp
    · rfl
    · cases hp
  exact hno (by rw [ha]; simp)

/-- **Eight exchanges at most.** However the requests interleave, whatever GitHub answers, and
whichever clients disconnect: the exchanges on their way and the free permits are eight at most. The
permits are all taken iff eight handlers have one each. As long as no panic poisons the replay
cache, eight tokens at most are reserved. -/
theorem exchanges_bounded (hrun : self.sys.run (.new now₀) as = some t) :
    (∀ ds : Finset Nat, (∀ d ∈ ds, (t.device.calls d).active = true) →
      ds.card + t.permits ≤ deviceExchangeMaxConcurrent) ∧
    (t.permits = 0 ↔ ∃ cs : Finset Nat, cs.card = deviceExchangeMaxConcurrent ∧
      ∀ c ∈ cs, (t.handlers c).holds = true) ∧
    (.poisonReplay ∉ as →
      t.device.shared.replay.data.inFlight.card ≤ deviceExchangeMaxConcurrent) := by
  have h := run_exchangesOk hrun
  have hactive : ∀ ds : Finset Nat, (∀ d ∈ ds, (t.device.calls d).active = true) →
      ds.card + t.permits ≤ deviceExchangeMaxConcurrent := by
    intro ds hds
    have howner : ∀ d ∈ ds, ∃ c request, t.handlers c = .exchanging request d :=
      fun d hd => h.owner d (hds d hd)
    choose! handler request hhandler using howner
    have hinj : Set.InjOn handler ds := by
      intro d hd e he heq
      have hd' := hhandler d hd
      rw [heq, hhandler e he] at hd'
      exact (PublicPc.exchanging.inj hd').2.symm
    rw [← Finset.card_image_of_injOn hinj]
    refine h.permits.card_le _ fun c hc => ?_
    obtain ⟨d, hd, rfl⟩ := Finset.mem_image.mp hc
    rw [hhandler d hd]
    rfl
  refine ⟨hactive, h.permits.taken_iff, fun hno => ?_⟩
  · obtain ⟨bs, hbs⟩ := exchange_guards (run_device hrun) (poison_not_mem hrun hno)
    have hguards := guardsOk_inductive.run ⟨now₀, rfl⟩ hbs
    -- Each reservation is that of an exchange on its way.
    have hcall : ∀ k ∈ t.device.shared.replay.data.inFlight, ∃ d token,
        (t.device.calls d).guardPc.guard = some token ∧ self.auth.key token = k :=
      fun k hk => (hguards.reserved k).mp hk
    choose! call token hguard hkey using hcall
    have hinj : Set.InjOn call t.device.shared.replay.data.inFlight := by
      intro k hk k' hk' heq
      have hg := hguard k hk
      rw [heq, hguard k' hk'] at hg
      rw [← hkey k hk, ← hkey k' hk', Option.some.inj hg]
    rw [← Finset.card_image_of_injOn hinj]
    refine le_trans (Nat.le_add_right _ t.permits) (hactive _ fun d hd => ?_)
    obtain ⟨k, hk, rfl⟩ := Finset.mem_image.mp hd
    have hg := hguard k hk
    cases hpc : t.device.calls (call k) with
    | idle | done =>
      rw [hpc] at hg
      cases hg
    | _ => rfl

/-- The token of a request is being exchanged. A second request with it is refused, and its permit is
free again. -/
def exampleBusyRun : List ServerAct :=
  exampleExchangeStart 0 "01J" ++ [.device 0 .go, .device 0 .go, .device 0 .go] ++
    exampleExchangeStart 1 "01K" ++ [.device 1 .go, .device 1 .go, .handle 1 .go]

theorem one_exchange_on_its_way : ∃ t,
    exampleServer.sys.run (.new 0) exampleBusyRun = some t ∧ t.permits = 7 ∧
    ∀ ds : Finset Nat, (∀ d ∈ ds, (t.device.calls d).active = true) → ds.card ≤ 1 := by
  obtain ⟨t, hrun, hpermits⟩ : ∃ t,
      exampleServer.sys.run (.new 0) exampleBusyRun = some t ∧ t.permits = 7 := ⟨_, rfl, rfl⟩
  refine ⟨t, hrun, hpermits, fun ds hds => ?_⟩
  have hle := (exchanges_bounded hrun).1 ds hds
  rw [hpermits, deviceExchangeMaxConcurrent] at hle
  omega

end Bounds

end MicrotunSigner
