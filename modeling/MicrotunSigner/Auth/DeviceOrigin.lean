import MicrotunSigner.Auth.DeviceRuns

/-!
# Where a session comes from (`auth.rs`)

A session in the store was minted in the run, by an exchange that was complete then, under the hash
of a token of 32 random bytes (`MintedIn`, `run_minted`). An eviction only takes sessions away, so
that this holds of every session that a request finds, however long it has been there.
-/

namespace MicrotunSigner

open Lib Lib.Text

variable {Key : Type} {self : Authenticator Key} {t u : DeviceSt} {a : DeviceAct}
  {as : List DeviceAct} {now₀ : Int} {k : Sha256Digest} {session : GithubAccountSession}

/-- The exchange of `token` has minted the session of an account, at `mintedAt`, for the session
token of `random`. -/
structure MintedBy (self : Authenticator Key) (k : Sha256Digest) (session : GithubAccountSession)
    (token : String) (user : GithubUserResponse) (mintedAt : Int) (tr : List DeviceEvent) : Prop where
  exchange : ∃ recordedAt, CompleteExchange self token session.identityId user recordedAt tr
  session : session = newSession self.github mintedAt session.identityId user
  key : ∃ random, k = self.key (sessionToken random)

/-- A call of the run has minted the session. -/
def MintedIn (self : Authenticator Key) (now₀ : Int) (as : List DeviceAct) (k : Sha256Digest)
    (session : GithubAccountSession) : Prop :=
  ∃ c pre post token user mintedAt, as = pre ++ .call c .go :: post ∧
    MintedBy self k session token user mintedAt (self.deviceHistory c (.new now₀) pre)

theorem MintedIn.append (h : MintedIn self now₀ as k session) (more : List DeviceAct) :
    MintedIn self now₀ (as ++ more) k session := by
  obtain ⟨c, pre, post, token, user, m, rfl, hm⟩ := h
  exact ⟨c, pre, post ++ more, token, user, m, by simp, hm⟩

/-- What is about to be minted: its token is random, and it expires when it should. -/
def DrawnOk (self : Authenticator Key) : DevicePc → Prop
  | .inserting _ now token session => (∃ random, token = sessionToken random) ∧
      session.expiresAt = now + Duration.fromSecs self.github.oauthSessionTtlSeconds
  | _ => True

theorem DrawnOk.step {s s' : DeviceShared} {pc pc' : DevicePc} {input : DeviceIn}
    (hs : DeviceStep self s pc input s' pc') : DrawnOk self pc' := by
  cases hs with
  | draw token identityId user bytes => exact ⟨⟨bytes, rfl⟩, rfl⟩
  | _ => trivial

theorem run_drawnOk (hrun : self.deviceSys.run (.new now₀) as = some t) (c : Nat) :
    DrawnOk self (t.calls c) := by
  have h0 : ∀ c, DrawnOk self ((DeviceSt.new now₀).calls c) := fun _ => trivial
  refine Sys.run_keeps (P := fun t : DeviceSt => ∀ c, DrawnOk self (t.calls c)) ?_ h0 hrun c
  intro t a u h hu c
  rcases device_cases hu with
    ⟨d, token, -, -, rfl⟩ | ⟨d, input, shared, pc, -, hs, rfl⟩ | ⟨_, -, rfl⟩ | ⟨-, rfl⟩
  · dsimp only
    rcases update_cases t.calls d (enterDevice token) c with ⟨-, he⟩ | ⟨-, he⟩
    · rw [he]
      unfold enterDevice
      split <;> trivial
    · rw [he]
      exact h c
  · dsimp only
    rcases update_cases t.calls d pc c with ⟨-, he⟩ | ⟨-, he⟩
    · rw [he]
      exact DrawnOk.step hs
    · rw [he]
      exact h c
  · exact h c
  · exact h c

/-- The session of an account, by its fields. -/
theorem SessionOf.eq_newSession {identityId : String} {user : GithubUserResponse} {now : Int}
    (h : SessionOf identityId user session)
    (hexp : session.expiresAt = now + Duration.fromSecs self.github.oauthSessionTtlSeconds) :
    session = newSession self.github now identityId user := by
  obtain ⟨hid, huser, hlogin⟩ := h
  cases session
  cases hexp
  cases hid
  cases huser
  cases hlogin
  rfl

/-- What enters the store is minted. -/
theorem minted_of_enters (ht : self.deviceSys.run (.new now₀) as = some t)
    (hu : self.deviceSys.step t a = some u) (henter : SessionEnters t.shared u.shared k session) :
    MintedIn self now₀ (as ++ [a]) k session := by
  rcases device_cases hu with
    ⟨_, _, -, -, rfl⟩ | ⟨c, input, shared, pc, rfl, hs, rfl⟩ | ⟨_, -, rfl⟩ | ⟨-, rfl⟩
  · exact absurd henter.1 henter.2
  · obtain ⟨rfl, ⟨token, now, sessToken, hpc⟩, -⟩ := hs.session henter
    have htrace := run_traceOk (c := c) rfl ht
    have hdrawn := run_drawnOk ht c
    rw [hpc] at htrace hdrawn
    obtain ⟨identityId, user, tr, n, hrevoked, hsession, htr⟩ := htrace
    obtain ⟨⟨random, rfl⟩, hexp⟩ := hdrawn
    refine ⟨c, as, [], token, user, now, rfl, ⟨n, ?_⟩, ?_, random, ?_⟩
    · rw [htr, hsession.identityId]
      exact hrevoked.complete
    · rw [hsession.identityId]
      exact hsession.eq_newSession hexp
    · -- The only lookup that changed is that of the new key.
      obtain ⟨hnew, hold⟩ := henter
      rw [hpc] at hs
      cases hs with
      | full token now sessToken session e sessions hins =>
        obtain ⟨-, rfl⟩ := insertSession_error hins
        exact absurd (lookup_of_purge hnew) hold
      | insert token now sessToken session sessions hins =>
        have hlook := hnew
        dsimp only at hlook
        rw [insertSession_ok hins, Map.lookup_insert] at hlook
        split at hlook
        · rename_i hk
          exact hk
        · exact absurd (lookup_of_purge hlook) hold
  · exact absurd henter.1 henter.2
  · exact absurd henter.1 henter.2

/-- **Every session in the store was minted in the run**, by a complete exchange. -/
theorem run_minted (hrun : self.deviceSys.run (.new now₀) as = some t)
    (hk : t.shared.sessions.lookup k = some session) : MintedIn self now₀ as k session := by
  revert hk
  refine Sys.run_induction (P := fun as t => t.shared.sessions.lookup k = some session →
    MintedIn self now₀ as k session) ?_ ?_ as t hrun
  · intro hk
    cases hk
  · intro as t a u ht ih hu hk
    by_cases hold : t.shared.sessions.lookup k = some session
    · exact (ih hold).append [a]
    · exact minted_of_enters ht hu ⟨hk, hold⟩

end MicrotunSigner
