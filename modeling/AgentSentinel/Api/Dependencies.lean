import AgentSentinel.Python.Exceptions
import AgentSentinel.Python.Value

/-!
# AgentSentinel.Api.Dependencies

The tenant registry, and which tenant a request is served as. The header decides it, and a
request without one, or with an empty one, is served as the default tenant.
-/

namespace AgentSentinel

/-- Per-tenant configuration. -/
structure TenantConfig where
  tenantId : PyStr
  displayName : PyStr

/-- In-memory tenant registry: every configuration is filed under its own id. -/
structure TenantManager where
  tenants : PyDict TenantConfig
  filed : ∀ id config, tenants.get id = some config → config.tenantId = id

namespace TenantManager

def empty : TenantManager := ⟨.empty, fun _ _ h => by cases h⟩

def register (manager : TenantManager) (config : TenantConfig) : TenantManager where
  tenants := manager.tenants.set config.tenantId config
  filed id config' h := by
    rw [PyDict.get_set] at h
    split at h
    · next hid => rw [← Option.some.inj h, hid]
    · exact manager.filed id config' h

/-- `TenantManager(seed)`. -/
def ofSeed (seed : List TenantConfig) : TenantManager := seed.foldl register empty

/-- A manager seeded with the `default` tenant only. -/
def withDefault : TenantManager :=
  ofSeed [{ tenantId := py "default", displayName := py "Default tenant" }]

def get (manager : TenantManager) (tenantId : PyStr) : Result TenantConfig :=
  match manager.tenants.get tenantId with
  | some config => .ok config
  | none => .error ⟨.other (py "TenantNotFoundError"), tenantId⟩

theorem tenantId_of_get {manager : TenantManager} {tenantId : PyStr} {config : TenantConfig}
    (h : manager.get tenantId = .ok config) : config.tenantId = tenantId := by
  unfold get at h
  cases hfound : manager.tenants.get tenantId with
  | none => simp [hfound] at h
  | some found =>
      simp only [hfound] at h
      obtain rfl := Except.ok.inj h
      exact manager.filed tenantId found hfound

end TenantManager

/-- What a route answers instead of a result. -/
structure HTTPException where
  statusCode : ℕ
  detail : PyStr
  deriving DecidableEq

/-- `x_tenant_id or "default"`. -/
def servedAs (xTenantId : Option PyStr) : PyStr :=
  match xTenantId with
  | none | some [] => py "default"
  | some tenantId => tenantId

def getTenant (xTenantId : Option PyStr) (tenants : TenantManager) :
    Except HTTPException TenantConfig :=
  match tenants.get (servedAs xTenantId) with
  | .ok config => .ok config
  | .error _ => .error ⟨404, py "unknown tenant: " ++ servedAs xTenantId⟩

theorem getTenant_eq_error {xTenantId : Option PyStr} {tenants : TenantManager}
    {exc : HTTPException} (h : getTenant xTenantId tenants = .error exc) :
    exc.statusCode = 404 := by
  unfold getTenant at h
  cases hget : tenants.get (servedAs xTenantId) with
  | error e =>
      simp only [hget, Except.error.injEq] at h
      rw [← h]
  | ok found => simp [hget] at h

/-- A request is served as the tenant it asks for, or not at all. -/
theorem tenantId_of_getTenant {xTenantId : Option PyStr} {tenants : TenantManager}
    {config : TenantConfig} (h : getTenant xTenantId tenants = .ok config) :
    config.tenantId = servedAs xTenantId := by
  unfold getTenant at h
  cases hget : tenants.get (servedAs xTenantId) with
  | error e => simp [hget] at h
  | ok found =>
      simp only [hget] at h
      obtain rfl := Except.ok.inj h
      exact TenantManager.tenantId_of_get hget

end AgentSentinel
