import AgentSentinel.Python.Value

/-!
# AgentSentinel.Models.Identity

Registered agent identities: their capability grants, their trust tier and their
trust score, which the structure keeps inside the unit interval.
-/

namespace AgentSentinel

/-- Autonomy tier the agent currently operates in. -/
inductive TrustTier
  | observe
  | constrained
  | standard
  | elevated
  | privileged
  deriving DecidableEq

/-- `identity.tier.value`. -/
def TrustTier.value : TrustTier → PyStr
  | observe => py "observe"
  | constrained => py "constrained"
  | standard => py "standard"
  | elevated => py "elevated"
  | privileged => py "privileged"

/-- How much a tier allows. -/
def TrustTier.rank : TrustTier → ℕ
  | observe => 0
  | constrained => 1
  | standard => 2
  | elevated => 3
  | privileged => 4

theorem TrustTier.rank_injective : Function.Injective TrustTier.rank := by
  intro s t h
  cases s <;> cases t <;> simp_all [rank]

instance : LinearOrder TrustTier := LinearOrder.lift' TrustTier.rank TrustTier.rank_injective

/-- A single capability the identity holds. -/
structure CapabilityGrant where
  name : PyStr
  scope : PyStr := py "*"
  expiresAt : Option PyDatetime := none

/-- A registered agent identity. -/
structure Identity where
  did : PyStr
  did_length : 8 ≤ did.length := by decide
  tenantId : PyStr := py "default"
  capabilities : List CapabilityGrant := []
  tier : TrustTier := .standard
  trustScore : UnitRat := ⟨3 / 4, by norm_num⟩
  revoked : Bool := false

instance : Inhabited Identity := ⟨{ did := py "did:agent:1" }⟩

/-- `cap.expires_at is not None and cap.expires_at < now`. -/
def CapabilityGrant.expired (cap : CapabilityGrant) (now : PyDatetime) : Result Bool :=
  match cap.expiresAt with
  | none => .ok false
  | some t => t.lt now

/-- `scope is None or cap.scope in ("*", scope)`. -/
def CapabilityGrant.covers (cap : CapabilityGrant) : Option PyStr → Bool
  | none => true
  | some scope => cap.scope == py "*" || cap.scope == scope

/-- The loop of `has_capability` over the remaining grants. -/
def hasCapabilityIn (now : PyDatetime) (name : PyStr) (scope : Option PyStr) :
    List CapabilityGrant → Result Bool
  | [] => .ok false
  | cap :: caps =>
    if cap.name ≠ name then hasCapabilityIn now name scope caps
    else
      match cap.expired now with
      | .error e => .error e
      | .ok true => hasCapabilityIn now name scope caps
      | .ok false =>
        if cap.covers scope then .ok true else hasCapabilityIn now name scope caps

/-- Whether the identity currently holds the capability. -/
def Identity.hasCapability (identity : Identity) (now : PyDatetime) (name : PyStr)
    (scope : Option PyStr := none) : Result Bool :=
  hasCapabilityIn now name scope identity.capabilities

/-- The identity holds the capability: some grant of that name is unexpired and
covers the scope. -/
def Identity.Holds (identity : Identity) (now : PyDatetime) (name : PyStr)
    (scope : Option PyStr := none) : Prop :=
  ∃ cap ∈ identity.capabilities,
    cap.name = name ∧ cap.expired now = .ok false ∧ cap.covers scope = true

theorem hasCapabilityIn_sound {now : PyDatetime} {name : PyStr} {scope : Option PyStr}
    {caps : List CapabilityGrant} (h : hasCapabilityIn now name scope caps = .ok true) :
    ∃ cap ∈ caps, cap.name = name ∧ cap.expired now = .ok false ∧ cap.covers scope = true := by
  induction caps with
  | nil => simp [hasCapabilityIn] at h
  | cons cap caps ih =>
      have hrest (h' : hasCapabilityIn now name scope caps = .ok true) :
          ∃ c ∈ cap :: caps, c.name = name ∧ c.expired now = .ok false ∧
            c.covers scope = true := by
        obtain ⟨c, hmem, hc⟩ := ih h'
        exact ⟨c, List.mem_cons_of_mem _ hmem, hc⟩
      unfold hasCapabilityIn at h
      split at h
      case _ => exact hrest h
      case _ hname =>
          split at h
          case _ => cases h
          case _ => exact hrest h
          case _ hexp =>
              by_cases hcov : cap.covers scope = true
              · exact ⟨cap, List.mem_cons_self, not_not.mp hname, hexp, hcov⟩
              · rw [if_neg hcov] at h
                exact hrest h

/-- A `True` answer is backed by a grant. -/
theorem Identity.holds_of_hasCapability {identity : Identity} {now : PyDatetime} {name : PyStr}
    {scope : Option PyStr} (h : identity.hasCapability now name scope = .ok true) :
    identity.Holds now name scope :=
  hasCapabilityIn_sound h

end AgentSentinel
