import MicrotunSigner.Auth.JwksRuns

/-!
# Where a key of GitHub Actions comes from (`auth.rs`)

A call of `jwk_for` keeps its `kid` (`kid_kept`), and a key that it returns is a usable one of that
name in the document that was fetched last when it was looked up (`Fetched`, `run_fetched`), however
many other calls have fetched documents since.
-/

namespace MicrotunSigner

open Lib Lib.Text

variable {actions : GithubActionsConfig} {fromSlice : List UInt8 → Option JwksDocument}
  {t u : JwksSt} {a : JwksAct} {as : List JwksAct} {now₀ : Int} {c : Nat} {kid : String}
  {key : RsaJwk}

/-- What the call looks up. -/
def JwksPc.kid? : JwksPc → Option String
  | .idle => none
  | .entered kid | .missed kid | .locked kid | .attempting kid | .fetching kid
  | .installing kid _ _ | .reading kid | .dropping kid _ | .done kid _ => some kid

/-- The key is one of the document that was fetched last at some moment of the run, no longer before
than a key may be used. -/
structure FetchedAt (actions : GithubActionsConfig) (fromSlice : List UInt8 → Option JwksDocument)
    (fetched : Option (Int × Option JwksResponse)) (now : Int) (kid : String) (key : RsaJwk) : Prop
    where
  document : ∃ at_ reply document, fetched = some (at_, reply) ∧
    fetchDocument fromSlice reply = .ok document ∧ key ∈ document.keys ∧
    now < at_ + jwksTtl actions + jwksMaxStaleness
  kid : key.kid = kid
  usable : key.usable = true

def Fetched (actions : GithubActionsConfig) (fromSlice : List UInt8 → Option JwksDocument)
    (now₀ : Int) (as : List JwksAct) (kid : String) (key : RsaJwk) : Prop :=
  ∃ pre post t, as = pre ++ post ∧ (jwksSys actions fromSlice).run (.new now₀) pre = some t ∧
    FetchedAt actions fromSlice (fetches actions fromSlice (.new now₀) pre).getLast? t.shared.now
      kid key

theorem Fetched.append (h : Fetched actions fromSlice now₀ as kid key) (more : List JwksAct) :
    Fetched actions fromSlice now₀ (as ++ more) kid key := by
  obtain ⟨pre, post, t, rfl, ht, hf⟩ := h
  exact ⟨pre, post ++ more, t, List.append_assoc .., ht, hf⟩

theorem JwksStep.kid_eq {s s' : JwksShared} {pc pc' : JwksPc} {input : JwksIn}
    (hs : JwksStep actions fromSlice c s pc input s' pc') : pc'.kid? = pc.kid? := by
  cases hs with
  | leave pc kid hawaits | cancel pc kid hawaits =>
    cases pc with
    | idle | dropping | done => cases hawaits
    | _ =>
      cases hawaits
      rfl
  | _ => rfl

/-- A call keeps its `kid`. -/
theorem kid_kept (hu : (jwksSys actions fromSlice).step t a = some u)
    (hc : (t.calls c).kid? = some kid) : (u.calls c).kid? = some kid := by
  rcases jwks_cases hu with
    ⟨d, kid', -, hidle, rfl⟩ | ⟨d, input, shared, pc, -, hs, rfl⟩ | ⟨_, -, rfl⟩
  · dsimp only
    rcases update_cases t.calls d (.entered kid') c with ⟨rfl, he⟩ | ⟨-, he⟩
    · rw [hidle] at hc
      cases hc
    · rw [he]
      exact hc
  · dsimp only
    rcases update_cases t.calls d pc c with ⟨rfl, he⟩ | ⟨-, he⟩
    · rw [he, hs.kid_eq]
      exact hc
    · rw [he]
      exact hc
  · exact hc

/-- A result is there before a step, or the call waits for it. -/
theorem JwksStep.result_cases {s s' : JwksShared} {pc pc' : JwksPc} {input : JwksIn}
    (hs : JwksStep actions fromSlice c s pc input s' pc') {result : Except AuthError RsaJwk}
    (hr : pc'.result? = some (kid, result)) :
    pc.result? = some (kid, result) ∨ pc.awaits = some kid := by
  cases hs with
  | hit | found | answer =>
    cases hr
    exact .inr rfl
  | drop kid' result' =>
    cases result' with
    | none => cases hr
    | some => exact .inl hr
  | _ => cases hr

theorem answers_of_result (hu : (jwksSys actions fromSlice).step t a = some u)
    {result : Except AuthError RsaJwk} (hr : (u.calls c).result? = some (kid, result)) :
    (t.calls c).result? = some (kid, result) ∨ Answers c kid result t u := by
  rcases jwks_cases hu with
    ⟨d, kid', -, -, rfl⟩ | ⟨d, input, shared, pc, -, hs, rfl⟩ | ⟨_, -, rfl⟩
  · dsimp only at hr
    rcases update_cases t.calls d (.entered kid') c with ⟨-, he⟩ | ⟨-, he⟩
    · rw [he] at hr
      cases hr
    · rw [he] at hr
      exact .inl hr
  · rcases update_cases t.calls d pc c with ⟨rfl, he⟩ | ⟨-, he⟩
    · exact (hs.result_cases (he ▸ hr)).imp_right fun hawaits => ⟨hawaits, hr⟩
    · dsimp only at hr
      rw [he] at hr
      exact .inl hr
  · exact .inl hr

/-- **Every key that is returned was fetched.** -/
theorem run_fetched (hrun : (jwksSys actions fromSlice).run (.new now₀) as = some t)
    (hr : (t.calls c).result? = some (kid, .ok key)) :
    Fetched actions fromSlice now₀ as kid key := by
  revert hr
  refine Sys.run_induction (P := fun as t => (t.calls c).result? = some (kid, .ok key) →
    Fetched actions fromSlice now₀ as kid key) ?_ ?_ as t hrun
  · intro hr
    cases hr
  · intro as t a u ht ih hu hr
    rcases answers_of_result hu hr with hold | hanswers
    · exact (ih hold).append [a]
    · obtain ⟨at_, hat, hlookup, hnow⟩ := answers_key hu hanswers
      have hinv := run_jwksInv ht
      have hlast := hinv.fetchedAt
      rw [hat] at hlast
      obtain ⟨⟨at', reply⟩, hget, he⟩ := Option.map_eq_some_iff.mp hlast.symm
      cases he
      obtain ⟨document, hdoc, hkeys⟩ := fetchJwks_ok (hinv.keys _ reply hget)
      rw [hkeys] at hlookup
      obtain ⟨hmem, hkid, husable⟩ := JwksDocument.mem_of_lookup hlookup
      exact ⟨as, [a], t, rfl, ht, ⟨_, reply, document, hget, hdoc, hmem, hnow⟩, hkid, husable⟩

end MicrotunSigner
