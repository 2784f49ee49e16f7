import MicrotunSigner.Auth.Identity

/-!
# Authorization (`authorization.rs`)

The policies, by the local id of the authenticated identity.
-/

namespace MicrotunSigner

inductive AuthorizationError where
  | policyDenied
  deriving DecidableEq, Repr

structure Authorizer where
  policies : List PolicyConfig

def Authorizer.authorize (self : Authorizer) (principal : AuthPrincipal) (action : PolicyAction)
    (keyId : String) : Except AuthorizationError Unit :=
  let allowed := self.policies.any fun policy =>
    policy.identity == principal.identityId && policy.actions.contains action &&
      policy.keys.any fun key => key == "*" || key == keyId
  if allowed then .ok () else .error .policyDenied

/-- An operation is allowed by a policy of the principal's own identity. -/
theorem Authorizer.authorize_eq_ok {self : Authorizer} {principal : AuthPrincipal}
    {action : PolicyAction} {keyId : String} :
    self.authorize principal action keyId = .ok () ↔
      ∃ policy ∈ self.policies, policy.identity = principal.identityId ∧
        action ∈ policy.actions ∧ ("*" ∈ policy.keys ∨ keyId ∈ policy.keys) := by
  unfold authorize
  simp only [apply_ite (· = Except.ok ()), reduceCtorEq, if_false_right, and_true,
    List.any_eq_true, Bool.and_eq_true, beq_iff_eq, List.contains_iff_mem, Bool.or_eq_true]
  refine exists_congr fun policy => and_congr_right fun _ => ?_
  rw [and_assoc]
  refine and_congr_right fun _ => and_congr_right fun _ => ?_
  constructor
  · rintro ⟨key, hk, rfl | rfl⟩
    · exact .inl hk
    · exact .inr hk
  · rintro (hk | hk)
    · exact ⟨"*", hk, .inl rfl⟩
    · exact ⟨keyId, hk, .inr rfl⟩

end MicrotunSigner
