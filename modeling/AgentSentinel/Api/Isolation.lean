import AgentSentinel.Api.App

/-!
# AgentSentinel.Api.Isolation

Tenants of the HTTP service. They share the interceptor behind it, and the limiter in front of
it has a bucket for each of them. As long as one tenant registers its own DIDs only, and the
others ask for and register other ones, its requests change no response to anybody else: not an
identity, and not whether a request is turned away.
-/

namespace AgentSentinel

open Lib

namespace Service

variable {service : Service} {b : PyStr} {own : PyStr → Prop} {s t : Service.State} {a : Arrival}

/-- The operation of a request, if it gets through, keeps apart: a registration by the tenant is
of its own DIDs, and whatever others do is about other ones. -/
def KeepsApart (service : Service) (b : PyStr) (own : PyStr → Prop) (s : State) (a : Arrival) :
    Prop :=
  ∀ request ∈ service.performed a s,
    if request.tenant = b then
      ∀ identity, request.operation = .upsertIdentity identity → own identity.did
    else ¬ own request.operation.did

/-- The interceptor's own condition asks no more of lookups and registrations. -/
theorem KeepsApart.shared {request : Request} (h : service.KeepsApart b own s a)
    (hrequest : request ∈ service.performed a s) :
    service.shared.KeepsApart service.rt b own s.stores request := by
  have hapart := h request hrequest
  obtain ⟨tenant, operation⟩ := request
  unfold SharedInterceptor.KeepsApart
  split at hapart
  · next htenant =>
      rw [if_pos htenant]
      rcases isIdentityOperation_of_performed hrequest with ⟨did, hlookup⟩ | ⟨identity, hupsert⟩
      · obtain rfl : operation = _ := hlookup
        trivial
      · obtain rfl : operation = _ := hupsert
        exact hapart identity rfl
  · next hother =>
      rw [if_neg hother]
      exact hapart

/-- Two states that differ in what is one tenant's only: its DIDs and its buckets. -/
structure Agree (b : PyStr) (own : PyStr → Prop) (s t : State) : Prop where
  stores : SharedInterceptor.Agree own s.stores t.stores
  rpm : s.limiter.rpm = t.limiter.rpm
  burst : s.limiter.burst = t.limiter.burst
  buckets : ∀ key, servedAs (some key) ≠ b →
    s.limiter.buckets.get key = t.limiter.buckets.get key

theorem Agree.symm (h : Agree b own s t) : Agree b own t s where
  stores := h.stores.symm
  rpm := h.rpm.symm
  burst := h.burst.symm
  buckets key hkey := (h.buckets key hkey).symm

/-- The operation of a request is made under the tenant that the request is served as. -/
theorem tenant_of_performed {request : Request} (h : request ∈ service.performed a s) :
    request.tenant = servedAs a.xTenantId := by
  obtain ⟨-, hoperation⟩ := Option.ite_none_right_eq_some.mp h
  unfold operation at hoperation
  split at hoperation
  · next did tenant htarget htenant =>
      obtain rfl := Option.some.inj hoperation
      exact tenantId_of_getTenant htenant
  · next identity tenant htarget htenant =>
      obtain rfl := Option.some.inj hoperation
      exact tenantId_of_getTenant htenant
  · cases hoperation

/-! ### Requests of the tenant -/

/-- Whatever becomes of a request, the buckets of other tenants stay as they are. -/
theorem buckets_serve (ha : servedAs a.xTenantId = b) {key : PyStr}
    (hkey : servedAs (some key) ≠ b) :
    (service.serve s a).2.limiter.buckets.get key = s.limiter.buckets.get key := by
  by_cases hforwards : service.Forwards a
  · have hne : key ≠ TenantRateLimiter.bucketKey a.xTenantId := fun hsame => hkey (by
      rw [hsame, TenantRateLimiter.servedAs_bucketKey, ha])
    rw [serve_limiter hforwards]
    simp [TenantRateLimiter.dispatch, hne]
  · rw [(serve_of_not_forwards hforwards).1]

theorem rpm_serve : (service.serve s a).2.limiter.rpm = s.limiter.rpm := by
  by_cases h : service.Forwards a
  · rw [serve_limiter h]
    rfl
  · rw [(serve_of_not_forwards h).1]

theorem Agree.hidden (h : Agree b own s t) (ha : servedAs a.xTenantId = b)
    (hG : service.KeepsApart b own s a) : Agree b own (service.serve s a).2 t where
  stores := by
    rw [serve_eq.1]
    cases hperformed : service.performed a s with
    | none => exact h.stores
    | some request =>
        exact h.stores.hidden ((tenant_of_performed hperformed).trans ha) (hG.shared hperformed)
  rpm := rpm_serve.trans h.rpm
  burst := burst_serve.trans h.burst
  buckets key hkey := (buckets_serve ha hkey).trans (h.buckets key hkey)

/-! ### Requests of others -/

/-- The limiter decides alike on a request of another tenant. -/
theorem Agree.take (h : Agree b own s t) (ha : servedAs a.xTenantId ≠ b) :
    (s.limiter.bucket (TenantRateLimiter.bucketKey a.xTenantId) a.created).take a.taken =
      (t.limiter.bucket (TenantRateLimiter.bucketKey a.xTenantId) a.created).take a.taken := by
  have hbucket := h.buckets (TenantRateLimiter.bucketKey a.xTenantId)
    (by rwa [TenantRateLimiter.servedAs_bucketKey])
  rw [TenantRateLimiter.bucket, TenantRateLimiter.bucket, hbucket, h.rpm, h.burst]

theorem Agree.passes_iff (h : Agree b own s t) (ha : servedAs a.xTenantId ≠ b) :
    Passes a s ↔ Passes a t := by
  simp only [Passes, TenantRateLimiter.dispatch, h.take ha]

theorem Agree.performed_eq (h : Agree b own s t) (ha : servedAs a.xTenantId ≠ b) :
    service.performed a s = service.performed a t := by
  unfold performed
  simp only [h.passes_iff ha]

/-- An operation of another tenant that keeps apart is about a DID that is not the tenant's. -/
theorem not_own_of_keepsApart {request : Request} (ha : servedAs a.xTenantId ≠ b)
    (hG : service.KeepsApart b own s a) (h : request ∈ service.performed a s) :
    ¬ own request.operation.did := by
  have hapart := hG request h
  rwa [if_neg (by rwa [tenant_of_performed h])] at hapart

/-- A route answers alike where its operation is about a DID that is not the tenant's. -/
theorem handle_congr {stores stores' : PipelineState}
    (hstores : SharedInterceptor.Agree own stores stores')
    (hdid : ∀ request ∈ service.operation a, ¬ own request.operation.did) :
    (service.handle stores a).1 = (service.handle stores' a).1 := by
  have hvisible (request : Request) (hrequest : service.operation a = some request) :
      (service.shared.serve service.rt stores request).1 =
        (service.shared.serve service.rt stores' request).1 :=
    (hstores.visible (hdid request hrequest)).1
  cases htarget : a.target with
  | endpoint e =>
      cases htenant : getTenant a.xTenantId service.tenants with
      | error exc => simp only [handle, htarget, htenant, apply_ite Prod.fst]
      | ok tenant =>
          cases e with
          | getIdentity did =>
              have hoperation : service.operation a =
                  some ⟨tenant.tenantId, .lookupIdentity did⟩ := by
                simp only [operation, htarget, htenant]
              have hsame : SharedInterceptor.lookupIdentity stores did =
                  SharedInterceptor.lookupIdentity stores' did :=
                Response.identity.inj (hvisible _ hoperation)
              simp only [handle, htarget, htenant, route, hsame]
              cases SharedInterceptor.lookupIdentity stores' did <;> rfl
          | listPending =>
              simp only [handle, htarget, htenant, route]
              cases service.hasApprovals <;> rfl
          | resolveApproval approvalId verdict reviewer =>
              simp only [handle, htarget, htenant, route]
              split_ifs <;> rfl
          | _ =>
              simp only [handle, htarget, htenant, route]
              rfl
  | invalid answer =>
      simp only [handle, htarget]
      cases getTenant a.xTenantId service.tenants <;> rfl
  | _ => simp only [handle, htarget]

/-- Another tenant gets the same response in states that agree. -/
theorem Agree.answer (h : Agree b own s t) (ha : servedAs a.xTenantId ≠ b)
    (hG : service.KeepsApart b own s a) : (service.serve s a).1 = (service.serve t a).1 := by
  unfold serve
  cases hanswer : BearerAuth.dispatch service.token a.path a.authorization with
  | error e => rfl
  | ok answer =>
      cases answer with
      | respond response => rfl
      | forward =>
          have htake : (s.limiter.dispatch a.xTenantId a.created a.taken).1 =
              (t.limiter.dispatch a.xTenantId a.created a.taken).1 := by
            simp only [TenantRateLimiter.dispatch, h.take ha]
          by_cases hpasses : (t.limiter.dispatch a.xTenantId a.created a.taken).1 = true
          · have hdid : ∀ request ∈ service.operation a, ¬ own request.operation.did := by
              intro request hrequest
              refine not_own_of_keepsApart ha hG (Option.mem_def.mpr ?_)
              rw [performed, if_pos ⟨hanswer, htake.trans hpasses⟩]
              exact hrequest
            simp only [htake, if_pos hpasses, handle_congr h.stores hdid]
          · simp only [htake, if_neg hpasses]

/-- Its request leaves states that agree. -/
theorem Agree.visible (h : Agree b own s t) (ha : servedAs a.xTenantId ≠ b)
    (hG : service.KeepsApart b own s a) :
    Agree b own (service.serve s a).2 (service.serve t a).2 where
  stores := by
    rw [serve_eq.1, serve_eq.1, ← h.performed_eq ha]
    cases hperformed : service.performed a s with
    | none => exact h.stores
    | some request => exact (h.stores.visible (not_own_of_keepsApart ha hG hperformed)).2
  rpm := rpm_serve.trans (h.rpm.trans rpm_serve.symm)
  burst := burst_serve.trans (h.burst.trans burst_serve.symm)
  buckets key hkey := by
    by_cases hforwards : service.Forwards a
    · rw [serve_limiter hforwards, serve_limiter hforwards]
      simp only [TenantRateLimiter.dispatch, h.take ha, PyDict.get_set, h.buckets key hkey]
    · rw [(serve_of_not_forwards hforwards).1, (serve_of_not_forwards hforwards).1]
      exact h.buckets key hkey

/-- The unwinding conditions, the requests that are not served as the tenant being visible. -/
theorem unwinds_tenants (b : PyStr) (own : PyStr → Prop) :
    service.serve.Unwinds (fun a => decide (servedAs a.xTenantId ≠ b)) (service.KeepsApart b own)
      (Agree b own) where
  symm := Agree.symm
  hidden h hhidden hG := h.hidden (by simpa using hhidden) hG
  answer h hvisible hG _ := h.answer (of_decide_eq_true hvisible) hG
  step h hvisible hG _ := h.visible (of_decide_eq_true hvisible) hG

/-- **Tenants of the service are isolated where one keeps apart**: whatever else a tenant sends,
and however often, the responses to everybody else are the same. -/
theorem isolated_of_keepsApart {as as' : List Arrival}
    (hsame : as.filter (fun a => servedAs a.xTenantId ≠ b) =
      as'.filter fun a => servedAs a.xTenantId ≠ b)
    (hapart : service.serve.Along (service.KeepsApart b own) s as)
    (hapart' : service.serve.Along (service.KeepsApart b own) s as') :
    service.serve.observed (fun a => servedAs a.xTenantId ≠ b) s as =
      service.serve.observed (fun a => servedAs a.xTenantId ≠ b) s as' :=
  (unwinds_tenants b own).noninterference
    ⟨⟨rfl, fun _ _ => rfl, fun _ _ => rfl⟩, rfl, rfl, fun _ _ => rfl⟩ hapart hapart' hsame

/-! ### A tenant that registers a stranger and uses up its bucket -/

/-- The quiet service with another tenant. -/
def quietForTwo : Service where
  token := quiet.token
  rt := quiet.rt
  shared := quiet.shared
  tenants := quiet.tenants.register ⟨py "b", py "B"⟩
  hasApprovals := quiet.hasApprovals

/-- The other tenant registers an agent nobody else is interested in. -/
def registerStranger : Arrival :=
  { registration PipelineWorld.stranger with xTenantId := some (py "b") }

/-- It asks for an evaluation, which is refused. -/
def evaluation : Arrival :=
  { authorized (py "/v1/evaluate") (evaluateTarget none) with xTenantId := some (py "b") }

theorem keepsApart_of_registration {tenant : PyStr} {identity : Identity}
    (h : service.operation a = some ⟨tenant, .upsertIdentity identity⟩) (htenant : tenant = b)
    (hown : own identity.did) (s : State) : service.KeepsApart b own s a := by
  intro request hrequest
  have hoperation := (Option.ite_none_right_eq_some.mp hrequest).2
  obtain rfl := Option.some.inj (h.symm.trans hoperation)
  rw [if_pos htenant]
  intro identity' hsame
  rwa [← Operation.upsertIdentity.inj hsame]

theorem keepsApart_of_other {request : Request} (h : service.operation a = some request)
    (htenant : request.tenant ≠ b) (hdid : ¬ own request.operation.did) (s : State) :
    service.KeepsApart b own s a := by
  intro request' hrequest'
  have hoperation := (Option.ite_none_right_eq_some.mp hrequest').2
  obtain rfl := Option.some.inj (h.symm.trans hoperation)
  rwa [if_neg htenant]

theorem keepsApart_of_none (h : service.operation a = none) (s : State) :
    service.KeepsApart b own s a := by
  intro request hrequest
  have hoperation := (Option.ite_none_right_eq_some.mp hrequest).2
  rw [h] at hoperation
  cases hoperation

theorem isolated_of_keepsApart_stranger :
    quietForTwo.serve.observed (fun a => servedAs a.xTenantId ≠ py "b") start
        [registerAgent, registerStranger, evaluation, registerStranger, askAgent] =
      quietForTwo.serve.observed (fun a => servedAs a.xTenantId ≠ py "b") start
        [registerAgent, askAgent] := by
  have hagent (s : State) : quietForTwo.KeepsApart (py "b")
      (· = PipelineWorld.stranger.did) s registerAgent :=
    keepsApart_of_other rfl (by decide) (by decide) s
  have hstranger (s : State) : quietForTwo.KeepsApart (py "b")
      (· = PipelineWorld.stranger.did) s registerStranger :=
    keepsApart_of_registration rfl rfl (by rfl) s
  have hask (s : State) : quietForTwo.KeepsApart (py "b")
      (· = PipelineWorld.stranger.did) s askAgent :=
    keepsApart_of_other rfl (by decide) (by decide) s
  exact isolated_of_keepsApart (by rfl)
    ⟨hagent _, hstranger _, keepsApart_of_none rfl _, hstranger _, hask _, trivial⟩
    ⟨hagent _, hask _, trivial⟩

end Service

end AgentSentinel
