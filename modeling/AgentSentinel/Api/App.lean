import AgentSentinel.Api.BearerAuth
import AgentSentinel.Api.Evaluate
import AgentSentinel.Api.RateLimit
import AgentSentinel.Core.Tenancy

/-!
# AgentSentinel.Api.App

The HTTP service: bearer tokens around the rate limiter, the limiter around the request ids,
and the routes on one interceptor.

Seen from its routes the service is the shared interceptor with its lookups and registrations:
what the requests do to its stores, and which identities they are answered, is what the
interceptor does with the operations that get through (`after_stores`, `identities_eq`). It is
never asked to evaluate an action, since the framework refuses every `POST /v1/evaluate`. A
request without the token leaves no trace, unless it asks for a public path. Then it still takes
a token from the bucket of whatever tenant it names.
-/

namespace AgentSentinel

open Lib

/-! ### Requests and responses -/

/-- A route that is called, with its parameters as they have been validated. The route
`evaluate` is not: see `source_action`. -/
inductive Endpoint
  | healthz
  | livez
  | readyz
  | getPolicy
  | reloadPolicy
  | getIdentity (did : PyStr)
  | upsertIdentity (identity : Identity)
  | listAudit (limit : Set.Icc 1 1000) (cursor verdict : Option PyStr)
  | listPending
  | resolveApproval (approvalId verdict reviewer : PyStr)

/-- The routes without the tenant dependency. They read nothing that requests change. -/
def Endpoint.isProbe : Endpoint → Bool
  | healthz | livez | readyz => true
  | _ => false

/-- What the framework makes of the method, the path, the query and the body: a route with its
parameters, a page of its own or an error, a body that is no JSON, or a route of a tenant that
it does not call, since the parameters are not valid or it raises on them. -/
inductive Target
  | endpoint (e : Endpoint)
  | page (statusCode : ℕ)
  | malformed
  | invalid (answer : Result ℕ)

/-- `POST /v1/evaluate`, whatever its body. The action is missing from the query, or what is
there in its place cannot be validated, its class being unknown. -/
def evaluateTarget (query : Option PyStr) : Target :=
  match query with
  | none => .invalid (.ok 422)
  | some _ => .invalid (.error ⟨.other (py "PydanticUserError"), py "class not fully defined"⟩)

/-- A request with the headers that are looked at. The path is that of `request.url`, for which
the header `Host` is used, too: it need not be the path that led to the target. -/
structure HttpRequest where
  path : PyStr
  authorization : Option PyStr
  xTenantId : Option PyStr
  xRequestId : Option PyStr
  target : Target

/-- A request, and what the clock and the generator of ids say while it is served. -/
structure Arrival extends HttpRequest where
  created : ℚ
  taken : ℚ
  freshId : PyStr

inductive ResponseBody
  | fields (content : PyDict PyStr)
  | ready (status : PyStr) (ready : Bool)
  | page
  | bundle (bundle : PolicyBundle)
  | identity (identity : Identity)
  | nothingListed

/-- A response with the headers that are set. -/
structure HttpResponse where
  statusCode : ℕ
  body : ResponseBody
  xRequestId : Option PyStr := none
  retryAfter : Option PyStr := none

/-- `{key: value}`. -/
def field (key value : PyStr) : PyDict PyStr := PyDict.empty.set key value

/-- The response to an exception of a route. -/
def HTTPException.response (exc : HTTPException) : HttpResponse :=
  ⟨exc.statusCode, .fields (field (py "detail") exc.detail), none, none⟩

/-! ### The routes -/

/-- What the service is started with: the token of the environment, the interceptor, the
tenants, and whether an approval workflow is wired. -/
structure Service where
  token : PyStr
  rt : PyRuntime
  shared : SharedInterceptor
  tenants : TenantManager
  hasApprovals : Bool

namespace Service

variable (service : Service) (stores : PipelineState) (a : Arrival)

/-- `__version__`. -/
def version : PyStr := py "0.1.0"

/-- The probes. -/
def probe : Endpoint → HttpResponse
  | .healthz => ⟨200, .fields ((field (py "status") (py "ok")).set (py "version") version), none,
      none⟩
  | .livez => ⟨200, .fields (field (py "status") (py "alive")), none, none⟩
  | _ => ⟨200, .ready (py "ready") true, none, none⟩

/-- The routes of a tenant: an exception for the client, or what the route returns or raises and
the stores it leaves. -/
def route : Endpoint → Except HTTPException (Result HttpResponse × PipelineState)
  | .getPolicy =>
    .ok (.ok ⟨200, .bundle service.shared.pipeline.deps.policyEngine.bundle, none, none⟩, stores)
  -- The pipeline has no attribute `policy_loader`.
  | .reloadPolicy => .ok (.error ⟨.other (py "NotImplementedError"),
      py "no policy loader is wired into this interceptor"⟩, stores)
  | .getIdentity did =>
    match SharedInterceptor.lookupIdentity stores did with
    | none => .error ⟨404, py "identity not found"⟩
    | some identity => .ok (.ok ⟨200, .identity identity, none, none⟩, stores)
  | .upsertIdentity identity =>
    let (identity, stores) := SharedInterceptor.upsertIdentity stores identity
    .ok (.ok ⟨201, .identity identity, none, none⟩, stores)
  -- The interceptor has no attribute `audit_backend`.
  | .listAudit _ _ _ => .ok (.ok ⟨200, .nothingListed, none, none⟩, stores)
  | .listPending =>
    if service.hasApprovals then
      .ok (.error ⟨.other (py "AttributeError"),
        py "'ApprovalWorkflow' object has no attribute 'list_pending'"⟩, stores)
    else .ok (.ok ⟨200, .nothingListed, none, none⟩, stores)
  | .resolveApproval _ verdict _ =>
    if ¬ [py "allow", py "deny"].contains verdict then .error ⟨400, py "verdict must be allow|deny"⟩
    -- The workflow takes neither `approve` nor `approver`; only a `RuntimeError` is handled.
    else if service.hasApprovals then
      .ok (.error ⟨.typeError,
        py "ApprovalWorkflow.resolve() got an unexpected keyword argument 'approve'"⟩, stores)
    else .error ⟨503, py "no approval workflow is wired"⟩
  | probe => .ok (.ok (Service.probe probe), stores)

/-- The router: the tenant is resolved before parameters are complained about, but a body that
is no JSON is not read any further. -/
def handle : Result HttpResponse × PipelineState :=
  match a.target with
  | .page statusCode => (.ok ⟨statusCode, .page, none, none⟩, stores)
  | .malformed => (.ok ⟨422, .page, none, none⟩, stores)
  | .invalid answer =>
    match getTenant a.xTenantId service.tenants with
    | .error exc => (.ok exc.response, stores)
    | .ok _ => (answer.map fun statusCode => ⟨statusCode, .page, none, none⟩, stores)
  | .endpoint e =>
    if e.isProbe then (.ok (probe e), stores)
    else
      match getTenant a.xTenantId service.tenants with
      | .error exc => (.ok exc.response, stores)
      | .ok _ =>
        match service.route stores e with
        | .error exc => (.ok exc.response, stores)
        | .ok answered => answered

/-- `request.headers.get("x-request-id") or uuid4().hex`. -/
def requestId : PyStr :=
  match a.xRequestId with
  | none | some [] => a.freshId
  | some rid => rid

/-! ### The middlewares -/

/-- What the service keeps from one request to the next. -/
structure State where
  limiter : TenantRateLimiter
  stores : PipelineState

/-- The token middleware hands the request on. -/
def Forwards : Prop := BearerAuth.dispatch service.token a.path a.authorization = .ok .forward

instance : DecidablePred service.Forwards := fun a => by
  unfold Forwards
  cases BearerAuth.dispatch service.token a.path a.authorization with
  | error e => exact isFalse nofun
  | ok answer =>
      cases answer with
      | forward => exact isTrue rfl
      | respond response => exact isFalse nofun

/-- The limiter lets the request pass in this state. -/
def Passes (s : State) : Prop := (s.limiter.dispatch a.xTenantId a.created a.taken).1 = true

instance (s : State) : Decidable (Passes a s) := inferInstanceAs (Decidable (_ = true))

/-- One request. An exception that leaves it is a server error for the client. -/
def serve : Server State Arrival (Result HttpResponse) := fun s a =>
  match BearerAuth.dispatch service.token a.path a.authorization with
  | .error e => (.error e, s)
  | .ok (.respond response) => (.ok ⟨response.statusCode, .fields response.content, none, none⟩, s)
  | .ok .forward =>
    let (passes, limiter) := s.limiter.dispatch a.xTenantId a.created a.taken
    if passes then
      let (answer, stores) := service.handle s.stores a
      (answer.map fun response => { response with xRequestId := some (requestId a) },
        ⟨limiter, stores⟩)
    else
      (.ok ⟨429, .fields ((field (py "error") (py "rate_limited")).set (py "tenant")
        (TenantRateLimiter.bucketKey a.xTenantId)), none, some (py "1")⟩, { s with limiter })

/-! ### The service as the interceptor behind it -/

/-- The operation that the routes ask of the interceptor, if they get that far. -/
def operation : Option Request :=
  match a.target, getTenant a.xTenantId service.tenants with
  | .endpoint (.getIdentity did), .ok tenant => some ⟨tenant.tenantId, .lookupIdentity did⟩
  | .endpoint (.upsertIdentity identity), .ok tenant =>
    some ⟨tenant.tenantId, .upsertIdentity identity⟩
  | _, _ => none

/-- The operation of a request that comes to a state. -/
def performed (s : State) : Option Request :=
  if service.Forwards a ∧ Passes a s then service.operation a else none

/-- The operations of a run. -/
def operations (s : State) : List Arrival → List Request
  | [] => []
  | a :: as => (service.performed a s).toList ++ operations (service.serve s a).2 as

/-- What the interceptor does with an operation, if there is one. -/
def store (stores : PipelineState) : Option Request → PipelineState
  | none => stores
  | some request => (service.shared.serve service.rt stores request).2

end Service

/-- The identity in a response. -/
def HttpResponse.identity : Result HttpResponse → Option Identity
  | .ok ⟨_, .identity i, _, _⟩ => some i
  | _ => none

/-- The identity in an answer of the interceptor. -/
def Response.found : Response → Option Identity
  | decision _ => none
  | identity i => i

namespace Service

variable {service : Service} {stores : PipelineState} {a : Arrival} {s : State}

/-- A route leaves the stores that its operation leaves, and answers the same identity. -/
theorem handle_endpoint {e : Endpoint} {tenant : TenantConfig} (htarget : a.target = .endpoint e)
    (htenant : getTenant a.xTenantId service.tenants = .ok tenant) :
    (service.handle stores a).2 = service.store stores (service.operation a) ∧
      HttpResponse.identity (service.handle stores a).1 =
        (service.operation a).bind fun request =>
          (service.shared.serve service.rt stores request).1.found := by
  cases e with
  | getIdentity did =>
      simp only [handle, operation, htarget, htenant, Endpoint.isProbe, route, store,
        Option.bind_some, SharedInterceptor.serve, Response.found]
      cases hfound : SharedInterceptor.lookupIdentity stores did with
      | none => exact ⟨rfl, rfl⟩
      | some identity => exact ⟨rfl, rfl⟩
  | listPending =>
      simp only [handle, operation, htarget, htenant, Endpoint.isProbe, route]
      cases service.hasApprovals <;> exact ⟨rfl, rfl⟩
  | resolveApproval approvalId verdict reviewer =>
      simp only [handle, operation, htarget, htenant, Endpoint.isProbe, route]
      split_ifs <;> exact ⟨rfl, rfl⟩
  | _ =>
      simp only [handle, operation, htarget, htenant, Endpoint.isProbe, route]
      exact ⟨rfl, rfl⟩

/-- Behind the middlewares the stores are those of the interceptor, and so is an identity. -/
theorem handle_eq : (service.handle stores a).2 = service.store stores (service.operation a) ∧
    HttpResponse.identity (service.handle stores a).1 = (service.operation a).bind fun request =>
      (service.shared.serve service.rt stores request).1.found := by
  cases htarget : a.target with
  | endpoint e =>
      cases htenant : getTenant a.xTenantId service.tenants with
      | ok tenant => exact handle_endpoint htarget htenant
      | error exc =>
          simp only [handle, operation, htarget, htenant]
          cases e <;> exact ⟨rfl, rfl⟩
  | invalid answer =>
      simp only [handle, operation, htarget]
      cases getTenant a.xTenantId service.tenants with
      | error exc => exact ⟨rfl, rfl⟩
      | ok tenant => cases answer <;> exact ⟨rfl, rfl⟩
  | _ =>
      simp only [handle, operation, htarget]
      exact ⟨rfl, rfl⟩

/-- The header that is set says nothing of the identity. -/
theorem identity_tagged (answer : Result HttpResponse) (rid : PyStr) : HttpResponse.identity
    (answer.map fun response => { response with xRequestId := some rid }) =
      HttpResponse.identity answer := by
  cases answer with
  | error e => rfl
  | ok response =>
      obtain ⟨statusCode, body, xRequestId, retryAfter⟩ := response
      cases body <;> rfl

/-- The answer to a request that the token middleware does not hand on. -/
theorem serve_of_not_forwards (h : ¬ service.Forwards a) :
    (service.serve s a).2 = s ∧ HttpResponse.identity (service.serve s a).1 = none := by
  unfold serve
  cases hanswer : BearerAuth.dispatch service.token a.path a.authorization with
  | error e => exact ⟨rfl, rfl⟩
  | ok answer =>
      cases answer with
      | forward => exact (h hanswer).elim
      | respond response => exact ⟨rfl, rfl⟩

/-- What a request that is handed on leaves of the limiter. -/
theorem serve_limiter (h : service.Forwards a) :
    (service.serve s a).2.limiter = (s.limiter.dispatch a.xTenantId a.created a.taken).2 := by
  unfold Forwards at h
  simp only [serve, h]
  split <;> rfl

theorem serve_of_not_passes (h : service.Forwards a) (hlimit : ¬ Passes a s) :
    (service.serve s a).2.stores = s.stores ∧
      HttpResponse.identity (service.serve s a).1 = none := by
  unfold Forwards at h
  unfold Passes at hlimit
  simp only [serve, h, if_neg hlimit, true_and]
  rfl

theorem serve_of_passes (h : service.Forwards a) (hpasses : Passes a s) :
    (service.serve s a).2.stores = (service.handle s.stores a).2 ∧
      HttpResponse.identity (service.serve s a).1 =
        HttpResponse.identity (service.handle s.stores a).1 := by
  unfold Forwards at h
  unfold Passes at hpasses
  simp only [serve, h, if_pos hpasses, true_and]
  exact identity_tagged _ _

/-- **One request** does to the stores what its operation does, and is answered the same
identity. -/
theorem serve_eq : (service.serve s a).2.stores = service.store s.stores (service.performed a s) ∧
    HttpResponse.identity (service.serve s a).1 = (service.performed a s).bind fun request =>
      (service.shared.serve service.rt s.stores request).1.found := by
  unfold performed
  by_cases hforward : service.Forwards a
  · by_cases hpasses : Passes a s
    · rw [if_pos ⟨hforward, hpasses⟩, (serve_of_passes hforward hpasses).1,
        (serve_of_passes hforward hpasses).2]
      exact handle_eq
    · rw [if_neg fun hboth => hpasses hboth.2]
      exact serve_of_not_passes hforward hpasses
  · rw [if_neg fun hboth => hforward hboth.1, (serve_of_not_forwards hforward).1]
    exact ⟨rfl, (serve_of_not_forwards hforward).2⟩

/-- **The stores of a run** are those of the interceptor that served its operations. -/
theorem after_stores (as : List Arrival) : (service.serve.after s as).stores =
    (service.shared.serve service.rt).after s.stores (service.operations s as) := by
  induction as generalizing s with
  | nil => rfl
  | cons a as ih =>
      rw [Server.after_cons, ih, serve_eq.1, operations, Server.after_append]
      cases service.performed a s <;> rfl

/-- **The identities in the answers of a run** are those of the interceptor that served its
operations. -/
theorem identities_eq (as : List Arrival) :
    (service.serve.answers s as).filterMap (fun answer => HttpResponse.identity answer.2) =
      ((service.shared.serve service.rt).answers s.stores (service.operations s as)).filterMap
        fun answer => answer.2.found := by
  induction as generalizing s with
  | nil => rfl
  | cons a as ih =>
      rw [Server.answers, List.filterMap_cons, serve_eq.2, operations, ih, serve_eq.1]
      cases service.performed a s with
      | none => rfl
      | some request =>
          simp only [Option.bind_some, Option.toList_some, List.singleton_append, Server.answers,
            List.filterMap_cons]
          rfl

/-- The operation is no evaluation. -/
def IsIdentityOperation (request : Request) : Prop :=
  (∃ did, request.operation = .lookupIdentity did) ∨
    ∃ identity, request.operation = .upsertIdentity identity

theorem isIdentityOperation_of_operation {request : Request}
    (h : service.operation a = some request) : IsIdentityOperation request := by
  unfold operation at h
  split at h
  · obtain rfl := Option.some.inj h
    exact Or.inl ⟨_, rfl⟩
  · obtain rfl := Option.some.inj h
    exact Or.inr ⟨_, rfl⟩
  · cases h

theorem isIdentityOperation_of_performed {request : Request}
    (h : service.performed a s = some request) : IsIdentityOperation request :=
  isIdentityOperation_of_operation (Option.ite_none_right_eq_some.mp h).2

/-- The interceptor is not asked to evaluate an action. -/
theorem isIdentityOperation_of_mem {as : List Arrival} {request : Request}
    (h : request ∈ service.operations s as) : IsIdentityOperation request := by
  induction as generalizing s with
  | nil => cases h
  | cons a as ih =>
      rcases List.mem_append.mp h with hfirst | hrest
      · exact isIdentityOperation_of_performed (Option.mem_toList.mp hfirst)
      · exact ih hrest

/-- **The service is the interceptor behind its front**: after any requests it has the stores,
and has answered the identities, of an interceptor that served the operations that got through,
and these are lookups and registrations only. -/
theorem refines_interceptor (s : State) (as : List Arrival) :
    (service.serve.after s as).stores =
        (service.shared.serve service.rt).after s.stores (service.operations s as) ∧
      (service.serve.answers s as).filterMap (fun answer => HttpResponse.identity answer.2) =
        ((service.shared.serve service.rt).answers s.stores
          (service.operations s as)).filterMap (fun answer => answer.2.found) ∧
      ∀ request ∈ service.operations s as, IsIdentityOperation request :=
  ⟨after_stores as, identities_eq as, fun _ => isIdentityOperation_of_mem⟩

/-! ### Requests that are not let in -/

/-- Only the requests that the token middleware hands on count. -/
theorem unwinds_forwarded :
    service.serve.Unwinds (fun a => decide (service.Forwards a)) (fun _ _ => True) (· = ·) where
  symm := Eq.symm
  hidden := by
    intro s t a hsame hhidden _
    rw [(serve_of_not_forwards (of_decide_eq_false hhidden)).1, hsame]
  answer := by
    intro s t a hsame _ _ _
    rw [hsame]
  step := by
    intro s t a hsame _ _ _
    rw [hsame]

theorem along_true (as : List Arrival) : service.serve.Along (fun _ _ => True) s as := by
  induction as generalizing s with
  | nil => trivial
  | cons a as ih => exact ⟨trivial, ih⟩

/-- **A request without the token leaves no trace**: whoever is handed on is answered as if only
such requests had come. -/
theorem observed_forwarded (s : State) (as : List Arrival) :
    service.serve.observed (fun a => decide (service.Forwards a)) s as =
      service.serve.answers s (as.filter fun a => decide (service.Forwards a)) := by
  have hforwarded : ∀ a ∈ as.filter fun a => decide (service.Forwards a),
      decide (service.Forwards a) = true := fun a ha => (List.mem_filter.mp ha).2
  have hsame : as.filter (fun a => decide (service.Forwards a)) =
      (as.filter fun a => decide (service.Forwards a)).filter fun a =>
        decide (service.Forwards a) := (List.filter_eq_self.mpr hforwarded).symm
  rw [← Server.observed_eq_answers hforwarded]
  exact unwinds_forwarded.noninterference rfl (along_true _) (along_true _) hsame

/-! ### What is behind an identity that is answered -/

/-- The identity that operations leave registered under a DID, where `found` was. -/
def registeredBy (did : PyStr) (found : Option Identity) (requests : List Request) :
    Option Identity :=
  requests.foldl (fun found request =>
    match request.operation with
    | .upsertIdentity identity => if did = identity.did then some identity else found
    | _ => found) found

theorem evaluate_identities (action : Action) (clock : EvaluationClock) (elapsedMs : ℚ) :
    (service.shared.evaluate service.rt stores action clock elapsedMs).2.identities =
      stores.identities := by
  cases hstamp : (service.shared.interceptorAt stores clock).stamp service.rt action with
  | error e => rw [SharedInterceptor.evaluate_of_stamp_error hstamp]
  | ok stamped =>
      rw [SharedInterceptor.evaluate_of_stamp hstamp]
      rfl

/-- Identities change by being registered only. -/
theorem after_identities (did : PyStr) (requests : List Request) :
    ((service.shared.serve service.rt).after stores requests).identities.get did =
      registeredBy did (stores.identities.get did) requests := by
  induction requests generalizing stores with
  | nil => rfl
  | cons request requests ih =>
      rw [Server.after_cons, ih]
      obtain ⟨tenant, operation⟩ := request
      cases operation with
      | evaluate action clock elapsedMs =>
          have hkept : (service.shared.serve service.rt stores
              ⟨tenant, .evaluate action clock elapsedMs⟩).2.identities = stores.identities :=
            evaluate_identities action clock elapsedMs
          rw [hkept]
          rfl
      | upsertIdentity identity =>
          simp only [SharedInterceptor.serve, SharedInterceptor.upsertIdentity, PyDict.get_set]
          rfl
      | lookupIdentity did' => rfl

/-- A request that is handed on though its path is not public presents the token. -/
theorem presents_of_forwards (h : service.Forwards a)
    (hpublic : BearerAuth.isPublic a.path = false) :
    service.token ≠ [] ∧ BearerAuth.scheme <+: a.authorization.getD [] ∧
      BearerAuth.presented (a.authorization.getD []) = service.token := by
  unfold Forwards BearerAuth.dispatch at h
  simp only [hpublic, Bool.false_eq_true, if_false] at h
  split at h
  · cases h
  · next htoken =>
      split at h
      · cases h
      · next hstarts =>
          obtain ⟨same, hsame, hanswer⟩ := bind_eq_ok.mp h
          refine ⟨by simpa using htoken, PyStr.startsWith_iff.mp (by simpa using hstarts), ?_⟩
          unfold compareDigest at hsame
          split at hsame
          · cases same with
            | true => exact beq_iff_eq.mp (Except.ok.inj hsame)
            | false => cases hanswer
          · cases hsame

/-- A lookup finds who is registered and not revoked. -/
theorem lookupIdentity_eq_some {did : PyStr} {identity : Identity} :
    SharedInterceptor.lookupIdentity stores did = some identity ↔
      stores.identities.get did = some identity ∧ identity.revoked = false := by
  have hknown : SharedInterceptor.lookupIdentity stores did = some identity ↔
      stores.resolver.resolve did = .ok identity := by
    unfold SharedInterceptor.lookupIdentity
    cases stores.resolver.resolve did <;> simp
  rw [hknown, PipelineState.resolver_resolve_eq_ok, PipelineState.known,
    Option.filter_eq_some_iff]
  simp

/-- What there is to a lookup, after other requests, that is answered with an identity. -/
structure Vouched (service : Service) (s : State) (before : List Arrival) (a : Arrival)
    (did : PyStr) (identity : Identity) : Prop where
  forwards : service.Forwards a
  passes : Passes a (service.serve.after s before)
  served : ∃ tenant, getTenant a.xTenantId service.tenants = .ok tenant
  /-- The last registration of the DID, by whichever request. -/
  registered : registeredBy did (s.stores.identities.get did) (service.operations s before) =
    some identity
  live : identity.revoked = false

theorem vouched_iff {before : List Arrival} {did : PyStr} {identity : Identity}
    (htarget : a.target = .endpoint (.getIdentity did)) :
    HttpResponse.identity (service.serve (service.serve.after s before) a).1 = some identity ↔
      service.Vouched s before a did identity := by
  have hstore : (service.serve.after s before).stores.identities.get did =
      registeredBy did (s.stores.identities.get did) (service.operations s before) := by
    rw [after_stores, after_identities]
  have hoperation : ∀ request, service.operation a = some request ↔
      ∃ tenant, getTenant a.xTenantId service.tenants = .ok tenant ∧
        ⟨tenant.tenantId, .lookupIdentity did⟩ = request := by
    intro request
    cases htenant : getTenant a.xTenantId service.tenants with
    | error exc => simp [operation, htarget, htenant]
    | ok tenant => simp [operation, htarget, htenant]
  rw [serve_eq.2, Option.bind_eq_some_iff]
  simp only [performed, Option.ite_none_right_eq_some, hoperation]
  constructor
  · rintro ⟨_, ⟨⟨hforwards, hpasses⟩, tenant, htenant, rfl⟩, hfound⟩
    obtain ⟨hregistered, hlive⟩ := lookupIdentity_eq_some.mp hfound
    exact ⟨hforwards, hpasses, ⟨tenant, htenant⟩, hstore ▸ hregistered, hlive⟩
  · rintro ⟨hforwards, hpasses, ⟨tenant, htenant⟩, hregistered, hlive⟩
    refine ⟨_, ⟨⟨hforwards, hpasses⟩, tenant, htenant, rfl⟩, ?_⟩
    exact lookupIdentity_eq_some.mpr ⟨hstore ▸ hregistered, hlive⟩

/-- **A lookup is answered with an identity** exactly when it is handed on and not turned away,
is for a tenant there is, and the DID was last registered, by whichever request, with that
identity, which is not revoked; and what is handed on presents the token or has a public path. -/
theorem found_iff {before : List Arrival} {did : PyStr} {identity : Identity}
    (htarget : a.target = .endpoint (.getIdentity did)) :
    (HttpResponse.identity (service.serve (service.serve.after s before) a).1 = some identity ↔
      service.Vouched s before a did identity) ∧
    (service.Forwards a → BearerAuth.isPublic a.path = true ∨ service.token ≠ [] ∧
      BearerAuth.scheme <+: a.authorization.getD [] ∧
        BearerAuth.presented (a.authorization.getD []) = service.token) := by
  refine ⟨vouched_iff htarget, fun hforwards => ?_⟩
  cases hpublic : BearerAuth.isPublic a.path with
  | true => exact Or.inl rfl
  | false => exact Or.inr (presents_of_forwards hforwards hpublic)

/-! ### A tenant without tokens -/

/-- No bucket of the limiter is another size or holds more than it can. -/
def Capped (limiter : TenantRateLimiter) : Prop :=
  ∀ key b, limiter.buckets.get key = some b → b.capacity = limiter.burst ∧ b.tokens ≤ b.capacity

/-- At `time`, the bucket of `key` has no whole token or no more than `n`. -/
def Left (key : PyStr) (time n : ℚ) (limiter : TenantRateLimiter) : Prop :=
  ∀ created, ((limiter.bucket key created).refilled time).tokens < 1 ∨
    ((limiter.bucket key created).refilled time).tokens ≤ n

variable {limiter : TenantRateLimiter} {key : PyStr} {time n : ℚ} {xTenantId : Option PyStr}
  {created : ℚ}

theorem Capped.bucket (h : Capped limiter) (key : PyStr) (created : ℚ) :
    (limiter.bucket key created).capacity = limiter.burst ∧
      (limiter.bucket key created).tokens ≤ (limiter.bucket key created).capacity := by
  unfold TenantRateLimiter.bucket
  cases hget : limiter.buckets.get key with
  | some b => exact h key b hget
  | none => exact ⟨rfl, le_refl _⟩

theorem bucket_dispatch (key : PyStr) (created' : ℚ) :
    (limiter.dispatch xTenantId created time).2.bucket key created' =
      if key = TenantRateLimiter.bucketKey xTenantId then
        ((limiter.bucket key created).take time).2
      else limiter.bucket key created' := by
  unfold TenantRateLimiter.bucket
  simp only [TenantRateLimiter.dispatch, PyDict.get_set]
  by_cases hkey : key = TenantRateLimiter.bucketKey xTenantId
  · subst hkey
    simp only [if_true, TenantRateLimiter.bucket]
  · simp only [if_neg hkey]

theorem Capped.dispatch (h : Capped limiter) :
    Capped (limiter.dispatch xTenantId created time).2 := by
  intro key b hget
  simp only [TenantRateLimiter.dispatch, PyDict.get_set] at hget
  split at hget
  · obtain rfl := Option.some.inj hget
    rw [TokenBucket.take_capacity, ← TokenBucket.take_refilled_tokens]
    refine ⟨(h.bucket _ created).1, ?_⟩
    exact (min_le_left _ _).trans_eq (TokenBucket.take_capacity _ _)
  · exact h key b hget

/-- In the beginning of an instant there is the burst at most. -/
theorem Capped.left (h : Capped limiter) (key : PyStr) (time : ℚ) :
    Left key time limiter.burst limiter := by
  intro created
  right
  rw [← (h.bucket key created).1]
  exact min_le_left _ _

/-- A request at the instant takes one of the tokens of its key, if there is one. -/
theorem Left.dispatch (h : Left key time n limiter) :
    Left key time (n - if TenantRateLimiter.bucketKey xTenantId = key then 1 else 0)
      (limiter.dispatch xTenantId created time).2 := by
  intro created'
  rw [bucket_dispatch]
  by_cases hkey : key = TenantRateLimiter.bucketKey xTenantId
  · rw [if_pos hkey, if_pos hkey.symm, TokenBucket.take_refilled_tokens]
    rcases TokenBucket.take_cases (limiter.bucket key created) time with ⟨htoken, htake⟩ |
      ⟨hnone, htake⟩
    · rw [htake]
      rcases h created with hfew | hleft
      · exact absurd htoken (not_le.mpr hfew)
      · exact Or.inr (sub_le_sub_right hleft 1)
    · rw [htake]
      exact Or.inl (not_le.mp hnone)
  · rw [if_neg hkey, if_neg (Ne.symm hkey), sub_zero]
    exact h created'

/-- The request counts against the key. -/
def Counts (service : Service) (key : PyStr) (a : Arrival) : Prop :=
  service.Forwards a ∧ TenantRateLimiter.bucketKey a.xTenantId = key

instance (service : Service) (key : PyStr) : DecidablePred (service.Counts key) := fun _ =>
  inferInstanceAs (Decidable (_ ∧ _))

theorem burst_serve : (service.serve s a).2.limiter.burst = s.limiter.burst := by
  by_cases h : service.Forwards a
  · rw [serve_limiter h]
    rfl
  · rw [(serve_of_not_forwards h).1]

theorem capped_serve (h : Capped s.limiter) : Capped (service.serve s a).2.limiter := by
  by_cases hforwards : service.Forwards a
  · rw [serve_limiter hforwards]
    exact h.dispatch
  · rwa [(serve_of_not_forwards hforwards).1]

theorem Left.serve (service : Service) (h : Left key a.taken n s.limiter) :
    Left key a.taken (n - if service.Counts key a then 1 else 0)
      (service.serve s a).2.limiter := by
  by_cases hforwards : service.Forwards a
  · rw [serve_limiter hforwards]
    simpa [Counts, hforwards] using h.dispatch
  · rw [(serve_of_not_forwards hforwards).1]
    simpa [Counts, hforwards] using h

theorem capped_after (service : Service) (h : Capped s.limiter) (as : List Arrival) :
    Capped (service.serve.after s as).limiter ∧
      (service.serve.after s as).limiter.burst = s.limiter.burst := by
  induction as generalizing s with
  | nil => exact ⟨h, rfl⟩
  | cons a as ih =>
      obtain ⟨hcapped, hburst⟩ := ih (capped_serve h)
      exact ⟨hcapped, hburst.trans burst_serve⟩

/-- What requests at one instant leave. -/
theorem Left.after (service : Service) {as : List Arrival} (hinstant : ∀ b ∈ as, b.taken = time)
    (h : Left key time n s.limiter) :
    Left key time (n - as.countP fun b => service.Counts key b)
      (service.serve.after s as).limiter := by
  induction as generalizing s n with
  | nil => simpa using h
  | cons a as ih =>
      obtain ⟨hfirst, hinstant⟩ := List.forall_mem_cons.mp hinstant
      have hnext := ih hinstant (hfirst ▸ Left.serve (a := a) service (hfirst ▸ h))
      rw [Server.after_cons, List.countP_cons]
      convert hnext using 1
      push_cast
      by_cases hcounts : service.Counts key a <;> simp only [hcounts, decide_true, decide_false,
        if_true, if_false, Bool.false_eq_true] <;> ring

/-- **A tenant can be starved without the token**: once as many requests as the burst were handed
on under its name at one instant, public ones among them, every other one is turned away. -/
theorem rate_limited_of_burst {before as : List Arrival} (hfresh : s.limiter.buckets = .empty)
    (hinstant : ∀ b ∈ as, b.taken = a.taken)
    (hburst : s.limiter.burst ≤ as.countP fun b =>
      service.Counts (TenantRateLimiter.bucketKey a.xTenantId) b)
    (h : service.Forwards a) :
    ∃ response, (service.serve (service.serve.after s (before ++ as)) a).1 = .ok response ∧
      response.statusCode = 429 ∧ response.retryAfter = some (py "1") := by
  have hcapped : Capped s.limiter := by
    intro key b hget
    rw [hfresh] at hget
    cases hget
  obtain ⟨hcapped, hsame⟩ := capped_after service hcapped before
  have hleft := Left.after service hinstant
    (hcapped.left (TenantRateLimiter.bucketKey a.xTenantId) a.taken)
  rw [hsame, ← Server.after_append] at hleft
  have hnone : ¬ Passes a (service.serve.after s (before ++ as)) := by
    intro hpasses
    have hfew : ((((service.serve.after s (before ++ as)).limiter.bucket
        (TenantRateLimiter.bucketKey a.xTenantId) a.created).refilled a.taken).tokens) < 1 := by
      rcases hleft a.created with hfew | hfew
      · exact hfew
      · have : (s.limiter.burst : ℚ) ≤ (as.countP fun b =>
            service.Counts (TenantRateLimiter.bucketKey a.xTenantId) b : ℕ) := by
          exact_mod_cast hburst
        linarith
    rcases TokenBucket.take_cases ((service.serve.after s (before ++ as)).limiter.bucket
        (TenantRateLimiter.bucketKey a.xTenantId) a.created) a.taken with ⟨htoken, -⟩ | ⟨-, htake⟩
    · exact not_le.mpr hfew htoken
    · have hrejected := congrArg Prod.fst htake
      cases hpasses.symm.trans hrejected
  unfold Forwards at h
  unfold Passes at hnone
  simp only [serve, h, if_neg hnone, Except.ok.injEq, exists_eq_left', and_self]

/-! ### Two short runs -/

/-- A service with a token that finds nothing wrong. -/
def quiet : Service where
  token := py "secret"
  rt := default
  shared := .quiet
  tenants := .withDefault
  hasApprovals := false

/-- It starts with no identities and a limiter for two requests at a time. -/
def start : State := ⟨⟨60, 2, .empty⟩, { identities := .empty }⟩

/-- A request with the token. -/
def authorized (path : PyStr) (target : Target) : Arrival where
  path
  authorization := some (py "Bearer secret")
  xTenantId := none
  xRequestId := none
  target
  created := 0
  taken := 0
  freshId := []

def registration (identity : Identity) : Arrival :=
  authorized (py "/v1/identities") (.endpoint (.upsertIdentity identity))

def registerAgent : Arrival := registration default

def askAgent : Arrival :=
  authorized (py "/v1/identities/" ++ (default : Identity).did)
    (.endpoint (.getIdentity (default : Identity).did))

/-- Anybody's look at the health of the service, in the name of the default tenant. -/
def look : Arrival where
  path := py "/healthz"
  authorization := none
  xTenantId := some (py "default")
  xRequestId := none
  target := .endpoint .healthz
  created := 0
  taken := 0
  freshId := []

theorem found_iff_agent : HttpResponse.identity (quiet.serve (quiet.serve.after start
    [registerAgent]) askAgent).1 = some default := by
  have hregistered : quiet.performed registerAgent start =
      some ⟨py "default", .upsertIdentity default⟩ :=
    if_pos ⟨by decide +kernel, by decide +kernel⟩
  refine (found_iff rfl).1.mpr ⟨by decide +kernel, by decide +kernel, ⟨_, rfl⟩, ?_, rfl⟩
  rw [operations, hregistered]
  rfl

theorem rate_limited_of_burst_looks : ∃ response,
    (quiet.serve (quiet.serve.after start ([registerAgent] ++ [look, look])) askAgent).1 =
        .ok response ∧ response.statusCode = 429 ∧ response.retryAfter = some (py "1") := by
  refine rate_limited_of_burst rfl ?_ ?_ ?_
  · simp [look, askAgent, authorized]
  · decide +kernel
  · decide +kernel

end Service

end AgentSentinel
