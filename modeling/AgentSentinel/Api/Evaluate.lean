import AgentSentinel.Api.Dependencies
import AgentSentinel.Client
import AgentSentinel.Models.ActionDocument

/-!
# AgentSentinel.Api.Evaluate

The evaluation endpoint, and a remote client in front of it. The module of the endpoint imports
the class of its parameter for type checking only, so the framework, which resolves annotations
when the application is built, finds no model class behind the name and takes the parameter for
a part of the query. The client posts its action as the body. So every request of a client is
refused, which it reports as a denial.
-/

namespace AgentSentinel

/-! ### Where the framework takes a parameter from -/

/-- A parameter of a route, with its annotation as it is written. -/
structure RouteParameter where
  name : PyStr
  annotation : PyStr
  /-- Its default is `Depends(...)`. -/
  isDependency : Bool

inductive ParameterSource
  | dependency
  | body
  | query
  deriving DecidableEq

/-- A module of routes with `from __future__ import annotations`: the names that are bound to
model classes or dataclasses when it runs. -/
structure RouteModule where
  models : List PyStr

/-- What the framework does with a parameter that is not in the path. An annotation that cannot
be resolved is not a model class, and what is no model class is asked of the query. -/
def RouteModule.source (module_ : RouteModule) (parameter : RouteParameter) : ParameterSource :=
  if parameter.isDependency then .dependency
  else if module_.models.contains parameter.annotation then .body
  else .query

/-- `routes/evaluate.py`: `Action` and `TenantConfig` are imported under `TYPE_CHECKING`. -/
def evaluateModule : RouteModule := ⟨[py "AppState", py "Decision"]⟩

/-- `action: Action` -/
def actionParameter : RouteParameter := ⟨py "action", py "Action", false⟩

theorem source_action : evaluateModule.source actionParameter = .query := by decide

/-! ### The route -/

/-- `AppState`. -/
structure AppState where
  interceptor : Action → Result Decision
  tenants : TenantManager

/-- The route `evaluate`, for the tenant of the request. -/
def AppState.evaluate (state : AppState) (action : Action) (tenant : TenantConfig) :
    Except HTTPException (Result Decision) :=
  if action.tenantId ≠ [] ∧ action.tenantId ≠ tenant.tenantId then
    .error ⟨403, py "tenant scope mismatch"⟩
  else if action.tenantId = [] then
    .ok (state.interceptor { action with tenantId := tenant.tenantId })
  else .ok (state.interceptor action)

/-- What lies between a client and the routes: how a header and a body arrive, what the model
library makes of the body, how a decision is sent back and what the client makes of that. -/
structure Wire (SK PK : Type) where
  lib : SigningLibrary SK PK
  validators : ActionValidators
  defaults : ActionDefaults
  header : PyStr → Option PyStr
  carry : Value → Result Value
  dumpDecision : Decision → Result Value
  modelValidate : Value → Result Decision
  statusError : ℕ → PyStr
  freshId : UUID

namespace Wire

variable {SK PK : Type} (wire : Wire SK PK) (state : AppState)

/-- A response with no decision in it. -/
def refusal (statusCode : ℕ) (detail : PyStr) : HttpxResponse :=
  ⟨statusCode, wire.statusError statusCode, .ok (.dict [(.str (py "detail"), .str detail)])⟩

/-- The answer to a `POST /v1/evaluate` with nothing in its query: the dependencies and the
parameters are checked before the route is called, and an exception behind it is a server
error. -/
def handle (xTenantId : Option PyStr) (body : Value) : HttpxResponse :=
  match getTenant xTenantId state.tenants with
  | .error exc => wire.refusal exc.statusCode exc.detail
  | .ok tenant =>
    match evaluateModule.source actionParameter with
    | .query | .dependency => wire.refusal 422 (py "Field required")
    | .body =>
      match wire.validators.modelValidate wire.defaults body with
      | .error exc => wire.refusal 422 exc.msg
      | .ok action =>
        match state.evaluate action tenant with
        | .error exc => wire.refusal exc.statusCode exc.detail
        | .ok result =>
          match result.bind wire.dumpDecision with
          | .error _ => wire.refusal 500 (py "Internal Server Error")
          | .ok json => ⟨200, [], .ok json⟩

/-- The client's view of a control plane that can be reached. -/
def env : ClientEnv SK PK where
  lib := wire.lib
  post request := (wire.carry request.json).map
    (wire.handle state ((request.headers.lookup (py "x-tenant-id")).bind wire.header))
  modelValidate := wire.modelValidate
  freshId := wire.freshId

/-- Where the interceptor, embedded, decides on the action scoped to the tenant of the
client, the client in front of the interceptor gets the same verdict. -/
def Agrees (config : RemoteConfig) (tenants : TenantManager) (action : Action)
    (interceptor : Action → Result Decision) : Prop :=
  ∀ d, (Sentinel.ofInterceptor interceptor).evaluate (wire.env ⟨interceptor, tenants⟩)
      { action with tenantId := config.tenantId } = .ok d →
    ∃ d', (Sentinel.ofRemote config).evaluate (wire.env ⟨interceptor, tenants⟩) action = .ok d' ∧
      d'.verdict = d.verdict

variable {wire state} {config : RemoteConfig} {tenants : TenantManager} {action : Action}
  {interceptor : Action → Result Decision}

/-- No answer is a success: the tenant is not known, or the action is missing. -/
theorem handle_not_success (xTenantId : Option PyStr) (body : Value) :
    (wire.handle state xTenantId body).isSuccess = false := by
  have hrefusal {statusCode : ℕ} (hcode : 400 ≤ statusCode) (detail : PyStr) :
      (wire.refusal statusCode detail).isSuccess = false :=
    decide_eq_false fun hsuccess => by simp only [refusal] at hsuccess; omega
  unfold handle
  cases htenant : getTenant xTenantId state.tenants with
  | error exc => exact hrefusal (by rw [getTenant_eq_error htenant]; decide) _
  | ok tenant =>
      simp only [source_action]
      exact hrefusal (by decide) _

theorem not_succeeds (response : HttpxResponse) :
    ¬ config.Succeeds (wire.env state) action response := by
  rintro ⟨body, -, hpost, hsuccess⟩
  obtain ⟨arrived, -, rfl⟩ := map_eq_ok.mp hpost
  rw [handle_not_success] at hsuccess
  cases hsuccess

/-- The client denies, or raises where it does not fail closed. -/
theorem evaluate_remote {d : Decision}
    (h : (Sentinel.ofRemote config).evaluate (wire.env state) action = .ok d) :
    config.failClosed = true ∧ d.verdict = .deny := by
  cases hexchange : config.exchange (wire.env state) action with
  | ok response => exact absurd (RemoteConfig.exchange_eq_ok.mp hexchange) (not_succeeds response)
  | error exc =>
      simp only [Sentinel.evaluate, Sentinel.ofRemote, hexchange] at h
      split at h
      · next hclosed =>
          obtain rfl := Except.ok.inj h
          exact ⟨hclosed, rfl⟩
      · cases h

/-- **Remote and embedded mode agree** exactly where the interceptor denies the scoped action
and the client fails closed, or where the interceptor makes no decision. -/
theorem remote_agrees_iff : wire.Agrees config tenants action interceptor ↔
    ∀ d, interceptor { action with tenantId := config.tenantId } = .ok d →
      config.failClosed = true ∧ d.verdict = .deny := by
  constructor
  · intro h d hd
    obtain ⟨d', hd', hverdict⟩ := h d hd
    obtain ⟨hclosed, hdeny⟩ := evaluate_remote hd'
    exact ⟨hclosed, hverdict.symm.trans hdeny⟩
  · intro h d hd
    obtain ⟨hclosed, hdeny⟩ := h d hd
    have hnone : ∀ response,
        ¬ config.Succeeds (wire.env ⟨interceptor, tenants⟩) action response := not_succeeds
    obtain ⟨d', hd', hdeny'⟩ := Sentinel.evaluate_of_not_succeeds hclosed hnone
    exact ⟨d', hd', hdeny'.trans hdeny.symm⟩

/-- An interceptor that allows everything. -/
def allowAll : Action → Result Decision := fun _ => .ok
  ⟨0, .allow, py "sentinel.pipeline", ⟨py "allowed", [], [], ⟨0, zero_mem_unit⟩, none, []⟩, none,
    false⟩

/-- Whatever lies between, the client of the default tenant is denied what the interceptor
allows. -/
theorem remote_denied : ¬ ∃ wire : Wire PyBytes PyBytes, ∀ (config : RemoteConfig)
    (tenants : TenantManager) (tenant : TenantConfig) (action : Action)
    (interceptor : Action → Result Decision), tenants.get config.tenantId = .ok tenant →
      action.tenantId = py "default" → wire.Agrees config tenants action interceptor := by
  rintro ⟨wire, h⟩
  have hagrees := h Sentinel.localhost .withDefault
    { tenantId := py "default", displayName := py "Default tenant" } default allowAll rfl rfl
  obtain ⟨d, hd, hverdict⟩ := hagrees _ rfl
  cases hverdict.symm.trans (evaluate_remote hd).2

end Wire

end AgentSentinel
