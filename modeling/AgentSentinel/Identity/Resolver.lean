import AgentSentinel.Models.Identity

/-!
# AgentSentinel.Identity.Resolver

Resolving a DID through an identity store. The store is a protocol with many
backends, so its `get` is any function that returns or raises.
-/

namespace AgentSentinel

/-- `IdentityStore.get`. -/
abbrev IdentityStore := PyStr → Result (Option Identity)

/-- Resolve an agent DID into an identity. -/
structure IdentityResolver where
  store : IdentityStore

/-- The two answers of the resolver that are no identity carry the same exception
class. -/
def IdentityResolver.resolve (resolver : IdentityResolver) (did : PyStr) : Result Identity := do
  match ← resolver.store did with
  | none => .error ⟨.identityError, py "Unknown DID: " ++ did⟩
  | some identity =>
    if identity.revoked then .error ⟨.identityError, py "DID " ++ did ++ py " is revoked"⟩
    else .ok identity

/-- Only a registered identity that is not revoked is resolved. -/
theorem IdentityResolver.resolve_eq_ok {resolver : IdentityResolver} {did : PyStr}
    {identity : Identity} :
    resolver.resolve did = .ok identity ↔
      resolver.store did = .ok (some identity) ∧ identity.revoked = false := by
  unfold resolve
  rw [bind_eq_ok]
  constructor
  · intro h
    obtain ⟨found, hstore, hfound⟩ := h
    cases found with
    | none => cases hfound
    | some registered =>
        cases hrevoked : registered.revoked with
        | true => simp [hrevoked] at hfound
        | false =>
            simp only [hrevoked, Bool.false_eq_true, if_false] at hfound
            obtain rfl := Except.ok.inj hfound
            exact ⟨hstore, hrevoked⟩
  · intro h
    obtain ⟨hstore, hlive⟩ := h
    exact ⟨some identity, hstore, by simp [hlive]⟩

/-- What the resolver raises is the store's own exception, or an `IdentityError`
for a DID that is not registered or revoked. -/
theorem IdentityResolver.resolve_eq_error {resolver : IdentityResolver} {did : PyStr}
    {e : PyExc} (h : resolver.resolve did = .error e) :
    resolver.store did = .error e ∨ e.kind = .identityError := by
  rcases bind_eq_error.mp h with hstore | ⟨found, -, hfound⟩
  · exact Or.inl hstore
  · right
    cases found with
    | none => rw [← Except.error.inj hfound]
    | some registered =>
        cases hrevoked : registered.revoked with
        | true =>
            simp only [hrevoked, if_true] at hfound
            rw [← Except.error.inj hfound]
        | false => simp [hrevoked] at hfound

end AgentSentinel
