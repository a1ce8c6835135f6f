import AgentSentinel.Models.ActionDocument
import AgentSentinel.Models.Decision
import AgentSentinel.PolicyPac.Loader

/-!
# AgentSentinel.Adapters.ApiGateways

The adapters for AWS API Gateway, Envoy and Kong. Each makes an action of an inbound
request, has the interceptor decide on it, and answers in the terms of its gateway.

The answer is as the interceptor decides, but there is not always one. The header that names
the agent goes into a field with a minimal length, a value that is there and null is not
replaced by the default, and lookups and slices are made on whatever the request holds. What
a request must look like for an answer is told exactly, for each of the adapters.
-/

namespace AgentSentinel

/-! ### Reading requests -/

/-- The name of a value's class in error messages. -/
def Value.typeName : Value → PyStr
  | .none => py "NoneType"
  | .bool _ => py "bool"
  | .int _ => py "int"
  | .float _ => py "float"
  | .str _ => py "str"
  | .bytes _ => py "bytes"
  | .list _ => py "list"
  | .tuple _ => py "tuple"
  | .set _ => py "set"
  | .dict _ => py "dict"
  | .date _ => py "datetime.date"
  | .datetime _ => py "datetime.datetime"
  | .object _ => py "object"

/-- `v.get(key, default)`. Only a dictionary has a `get`. -/
def Value.getDefault (v : Value) (key : PyStr) (default : Value) : Result Value :=
  match v with
  | .dict es => .ok ((Value.lookupStr es key).getD default)
  | v => .error ⟨.other (py "AttributeError"),
      py "'" ++ v.typeName ++ py "' object has no attribute 'get'"⟩

theorem Value.getDefault_eq_ok {v w default : Value} {key : PyStr} :
    v.getDefault key default = .ok w ↔
      ∃ es, v = .dict es ∧ (Value.lookupStr es key).getD default = w := by
  cases v <;> simp [getDefault]

/-- `v[:n]`. -/
def Value.sliceTo (v : Value) (n : ℕ) : Result Value :=
  match v with
  | .str s => .ok (.str (s.take n))
  | .bytes bs => .ok (.bytes (bs.take n))
  | .list xs => .ok (.list (xs.take n))
  | .tuple xs => .ok (.tuple (xs.take n))
  | .dict _ => .error ⟨.typeError, py "unhashable type: 'slice'"⟩
  | v => .error ⟨.typeError, py "'" ++ v.typeName ++ py "' object is not subscriptable"⟩

/-- `str(v)` and `f"{v}"`: the text of a container has the texts of its members in it. -/
def Value.format (rt : PyRuntime) (v : Value) : Result PyStr :=
  if v.printable then v.toStr rt
  else .error ⟨.valueError, py "Exceeds the limit (4300 digits) for integer string conversion"⟩

/-- The value has slices. -/
def Value.sliceable : Value → Bool
  | .str _ | .bytes _ | .list _ | .tuple _ => true
  | _ => false

theorem Value.sliceTo_eq_ok {v : Value} {n : ℕ} :
    (∃ w, v.sliceTo n = .ok w) ↔ v.sliceable = true := by
  cases v <;> simp [sliceTo, sliceable]

theorem Value.format_eq_ok (rt : PyRuntime) {v : Value} :
    (∃ s, v.format rt = .ok s) ↔ v.printable = true := by
  unfold format
  by_cases h : v.printable = true
  · rw [if_pos h, toStr_returns_iff]
  · rw [if_neg h]
    exact iff_of_false (by simp) h

/-! ### Building the action -/

/-- What an adapter works with: the interceptor, of which a decision is expected for every
action, the model library, and the defaults of a new action. -/
structure AdapterEnv where
  evaluate : Action → Decision
  lax : LaxValidators
  rt : PyRuntime
  defaults : ActionDefaults

/-- `did:unknown:anonymous`, for a request that names no agent. -/
def anonymousDid : Value := .str (py "did:unknown:anonymous")

/-- An inbound request. -/
abbrev GatewayRequest := PyDict Value

/-- `request.get(key, default)`. -/
def GatewayRequest.getDefault (request : GatewayRequest) (key : PyStr) (default : Value) : Value :=
  (request.get key).getD default

namespace AdapterEnv

variable (env : AdapterEnv)

/-- `Action(type=ActionType.HTTP_REQUEST, ...)`. -/
def httpRequest (agentDid : Value) (tool : PyStr) (arguments : PyDict Value) (intent : Value) :
    Result Action :=
  match env.lax.agentDid agentDid, LaxValidators.nullable env.lax.str intent with
  | .ok ⟨did, hdid⟩, .ok intent => .ok {
      id := env.defaults.id
      type := .httpRequest
      agentDid := did
      agentDid_length := hdid
      tool := some tool
      arguments
      intent
      context := env.defaults.context
      createdAt := env.defaults.createdAt }
  | .error _, .error _ => .error ⟨.validationError, py "2 validation errors for Action"⟩
  | _, _ => .error ⟨.validationError, py "1 validation error for Action"⟩

/-- `f"{method} {path}"`. -/
def requestLine (method path : Value) : Result PyStr := do
  let method ← method.format env.rt
  let path ← path.format env.rt
  return method ++ py " " ++ path

variable {env} {agentDid intent method path : Value} {tool : PyStr} {arguments : PyDict Value}

theorem httpRequest_eq_ok :
    (∃ action, env.httpRequest agentDid tool arguments intent = .ok action) ↔
      env.lax.AcceptsDid agentDid ∧ env.lax.AcceptsIntent intent := by
  rw [← LaxValidators.agentDid_eq_ok, ← LaxValidators.nullable_eq_ok, httpRequest]
  cases env.lax.agentDid agentDid <;>
    cases LaxValidators.nullable env.lax.str intent <;> simp

theorem requestLine_eq_ok : (∃ line, env.requestLine method path = .ok line) ↔
    method.printable = true ∧ path.printable = true := by
  rw [← Value.format_eq_ok env.rt, ← Value.format_eq_ok env.rt, requestLine]
  cases method.format env.rt <;> cases path.format env.rt <;>
    simp [bind, Except.bind, pure, Except.pure]

end AdapterEnv

/-- An adapter whose answers go by the verdict answers every request that it can make an
action of. -/
theorem answers_iff_builds {α : Type} (built : Result Action) (respond : Action → α)
    (allows : α → Prop) (evaluate : Action → Decision)
    (h : ∀ a, allows (respond a) ↔ (evaluate a).verdict = .allow) :
    (∃ a response, built = .ok a ∧ (do let a ← built; return respond a) = .ok response ∧
      (allows response ↔ (evaluate a).verdict = .allow)) ↔ ∃ a, built = .ok a := by
  constructor
  · intro hanswers
    obtain ⟨a, -, ha, -⟩ := hanswers
    exact ⟨a, ha⟩
  · intro hbuilt
    obtain ⟨a, ha⟩ := hbuilt
    exact ⟨a, respond a, ha, bind_eq_ok.mpr ⟨a, ha, rfl⟩, h a⟩

/-- The headers are a dictionary, and what they say of the agent is accepted. -/
def LaxValidators.AcceptsHeaders (lax : LaxValidators) (headers : Value) : Prop :=
  ∃ es, headers = .dict es ∧
    lax.AcceptsDid ((Value.lookupStr es (py "x-agent-did")).getD anonymousDid) ∧
    lax.AcceptsIntent ((Value.lookupStr es (py "x-agent-intent")).getD .none)

/-! ### AWS API Gateway -/

/-- The policy document and its context. -/
structure AuthorizerResponse where
  principalId : PyStr
  version : PyStr := py "2012-10-17"
  action : PyStr := py "execute-api:Invoke"
  effect : PyStr
  resource : Value
  sentinelDecision : PyStr
  explanation : PyStr

namespace AWSAPIGatewayAdapter

variable (env : AdapterEnv) (event : GatewayRequest)

def headers : Value := event.getDefault (py "headers") (.dict [])

/-- `event.get("queryStringParameters") or {}`. -/
def query : Value :=
  let parameters := event.getDefault (py "queryStringParameters") .none
  if parameters.truthy then parameters else .dict []

def arguments : PyDict Value where
  entries := [(py "headers", headers event), (py "query", query event)]
  nodup := (by decide : [py "headers", py "query"].Nodup)

/-- The action built from the event. -/
def action : Result Action := do
  let agentDid ← (headers event).getDefault (py "x-agent-did") anonymousDid
  let tool ← env.requestLine (event.getDefault (py "httpMethod") (.str (py "GET")))
    (event.getDefault (py "path") (.str (py "/")))
  let intent ← (headers event).getDefault (py "x-agent-intent") .none
  env.httpRequest agentDid tool (arguments event) intent

def respond (action : Action) (decision : Decision) : AuthorizerResponse where
  principalId := action.agentDid
  effect := if decision.verdict = .allow then py "Allow" else py "Deny"
  resource := event.getDefault (py "methodArn") (.str (py "*"))
  sentinelDecision := decision.verdict.value
  explanation := decision.explanation.summary.take 1024

def authorize : Result AuthorizerResponse := do
  let action ← action env event
  return respond event action (env.evaluate action)

/-- The adapter answers, and allows the request exactly when the interceptor allows the
action. -/
def Answers : Prop :=
  ∃ a response, action env event = .ok a ∧ authorize env event = .ok response ∧
    (response.effect = py "Allow" ↔ (env.evaluate a).verdict = .allow)

/-- The event is one the adapter can read. -/
structure Readable : Prop where
  headers : env.lax.AcceptsHeaders (headers event)
  method : (event.getDefault (py "httpMethod") (.str (py "GET"))).printable = true
  path : (event.getDefault (py "path") (.str (py "/"))).printable = true

variable {env event}

theorem respond_allows {a : Action} {decision : Decision} :
    (respond event a decision).effect = py "Allow" ↔ decision.verdict = .allow := by
  by_cases hallow : decision.verdict = .allow
  · simp [respond, hallow]
  · simpa [respond, hallow] using (by decide : py "Deny" ≠ py "Allow")

theorem action_eq_ok : (∃ a, action env event = .ok a) ↔ Readable env event := by
  constructor
  · intro h
    obtain ⟨a, h⟩ := h
    obtain ⟨_, hagent, h⟩ := bind_eq_ok.mp h
    obtain ⟨es, hes, rfl⟩ := Value.getDefault_eq_ok.mp hagent
    obtain ⟨_, hline, h⟩ := bind_eq_ok.mp h
    obtain ⟨hmethod, hpath⟩ := AdapterEnv.requestLine_eq_ok.mp ⟨_, hline⟩
    obtain ⟨_, hintent, h⟩ := bind_eq_ok.mp h
    obtain ⟨es', hes', rfl⟩ := Value.getDefault_eq_ok.mp hintent
    obtain rfl := Value.dict.inj (hes.symm.trans hes')
    exact ⟨⟨es, hes, AdapterEnv.httpRequest_eq_ok.mp ⟨a, h⟩⟩, hmethod, hpath⟩
  · intro h
    obtain ⟨⟨es, hes, haccepted⟩, hmethod, hpath⟩ := h
    have hget (key : PyStr) (default : Value) := Value.getDefault_eq_ok.mpr
      ⟨es, hes, (rfl : _ = (Value.lookupStr es key).getD default)⟩
    obtain ⟨line, hline⟩ := AdapterEnv.requestLine_eq_ok.mpr ⟨hmethod, hpath⟩
    obtain ⟨a, ha⟩ := AdapterEnv.httpRequest_eq_ok.mpr haccepted
    exact ⟨a, bind_eq_ok.mpr ⟨_, hget _ _, bind_eq_ok.mpr ⟨line, hline,
      bind_eq_ok.mpr ⟨_, hget _ _, ha⟩⟩⟩⟩

end AWSAPIGatewayAdapter

/-! ### Envoy -/

/-- A `CheckResponse`: code 0, or a denial with what is sent to the client. -/
inductive CheckResponse
  | ok
  | denied (code : ℕ) (status : ℕ) (body : PyStr) (decision : PyStr)

namespace EnvoyExtAuthzAdapter

variable (env : AdapterEnv) (checkRequest : GatewayRequest)

/-- `check_request.get("attributes", {}).get("request", {}).get("http", {})`. -/
def attrs : Result Value := do
  let attributes := checkRequest.getDefault (py "attributes") (.dict [])
  let request ← attributes.getDefault (py "request") (.dict [])
  request.getDefault (py "http") (.dict [])

def arguments (headers body : Value) : PyDict Value where
  entries := [(py "headers", headers), (py "body", body)]
  nodup := (by decide : [py "headers", py "body"].Nodup)

/-- The action built from the check request. -/
def action : Result Action := do
  let attrs ← attrs checkRequest
  let headers ← attrs.getDefault (py "headers") (.dict [])
  let agentDid ← headers.getDefault (py "x-agent-did") anonymousDid
  let method ← attrs.getDefault (py "method") (.str (py "GET"))
  let path ← attrs.getDefault (py "path") (.str (py "/"))
  let tool ← env.requestLine method path
  let body ← attrs.getDefault (py "body") (.str [])
  let body ← body.sliceTo 4096
  let intent ← headers.getDefault (py "x-agent-intent") .none
  env.httpRequest agentDid tool (arguments headers body) intent

def respond (decision : Decision) : CheckResponse :=
  if decision.verdict = .allow then .ok
  else
    -- 7 is PERMISSION_DENIED.
    .denied 7 403 (py "\x7b\"error\":\"blocked_by_sentinel\"\x7d") decision.verdict.value

def check : Result CheckResponse := do
  let action ← action env checkRequest
  return respond (env.evaluate action)

/-- The adapter answers, and lets the request pass exactly when the interceptor allows the
action. -/
def Answers : Prop :=
  ∃ a response, action env checkRequest = .ok a ∧ check env checkRequest = .ok response ∧
    (response = .ok ↔ (env.evaluate a).verdict = .allow)

/-- The check request is one the adapter can read; `http` are its attributes. -/
structure ReadableAs (http : List (Value × Value)) : Prop where
  attributes : ∃ attributes request,
    checkRequest.getDefault (py "attributes") (.dict []) = .dict attributes ∧
    (Value.lookupStr attributes (py "request")).getD (.dict []) = .dict request ∧
    (Value.lookupStr request (py "http")).getD (.dict []) = .dict http
  headers : env.lax.AcceptsHeaders ((Value.lookupStr http (py "headers")).getD (.dict []))
  method : ((Value.lookupStr http (py "method")).getD (.str (py "GET"))).printable = true
  path : ((Value.lookupStr http (py "path")).getD (.str (py "/"))).printable = true
  body : ((Value.lookupStr http (py "body")).getD (.str [])).sliceable = true

def Readable : Prop := ∃ http, ReadableAs env checkRequest http

variable {env checkRequest}

theorem attrs_eq_ok {v : Value} : attrs checkRequest = .ok v ↔ ∃ attributes request,
    checkRequest.getDefault (py "attributes") (.dict []) = .dict attributes ∧
    (Value.lookupStr attributes (py "request")).getD (.dict []) = .dict request ∧
    (Value.lookupStr request (py "http")).getD (.dict []) = v := by
  constructor
  · intro h
    obtain ⟨_, hrequest, h⟩ := bind_eq_ok.mp h
    obtain ⟨attributes, hattributes, rfl⟩ := Value.getDefault_eq_ok.mp hrequest
    obtain ⟨request, hdict, hv⟩ := Value.getDefault_eq_ok.mp h
    exact ⟨attributes, request, hattributes, hdict, hv⟩
  · intro h
    obtain ⟨attributes, request, hattributes, hdict, hv⟩ := h
    exact bind_eq_ok.mpr ⟨_, Value.getDefault_eq_ok.mpr ⟨attributes, hattributes, rfl⟩,
      Value.getDefault_eq_ok.mpr ⟨request, hdict, hv⟩⟩

theorem respond_allows {decision : Decision} :
    respond decision = .ok ↔ decision.verdict = .allow := by
  by_cases hallow : decision.verdict = .allow <;> simp [respond, hallow]

theorem action_eq_ok : (∃ a, action env checkRequest = .ok a) ↔ Readable env checkRequest := by
  constructor
  · intro h
    obtain ⟨a, h⟩ := h
    obtain ⟨_, hattrs, h⟩ := bind_eq_ok.mp h
    obtain ⟨_, hheaders, h⟩ := bind_eq_ok.mp h
    obtain ⟨http, rfl, rfl⟩ := Value.getDefault_eq_ok.mp hheaders
    obtain ⟨_, hagent, h⟩ := bind_eq_ok.mp h
    obtain ⟨es, hes, rfl⟩ := Value.getDefault_eq_ok.mp hagent
    obtain ⟨_, hmethod, h⟩ := bind_eq_ok.mp h
    obtain rfl := Except.ok.inj hmethod
    obtain ⟨_, hpath, h⟩ := bind_eq_ok.mp h
    obtain rfl := Except.ok.inj hpath
    obtain ⟨_, hline, h⟩ := bind_eq_ok.mp h
    obtain ⟨hmethod, hpath⟩ := AdapterEnv.requestLine_eq_ok.mp ⟨_, hline⟩
    obtain ⟨_, hbody, h⟩ := bind_eq_ok.mp h
    obtain rfl := Except.ok.inj hbody
    obtain ⟨body, hbody, h⟩ := bind_eq_ok.mp h
    obtain ⟨_, hintent, h⟩ := bind_eq_ok.mp h
    obtain ⟨es', hes', rfl⟩ := Value.getDefault_eq_ok.mp hintent
    obtain rfl := Value.dict.inj (hes.symm.trans hes')
    exact ⟨http, attrs_eq_ok.mp hattrs, ⟨es, hes, AdapterEnv.httpRequest_eq_ok.mp ⟨a, h⟩⟩,
      hmethod, hpath, Value.sliceTo_eq_ok.mp ⟨body, hbody⟩⟩
  · intro h
    obtain ⟨http, hattrs, ⟨es, hes, haccepted⟩, hmethod, hpath, hbody⟩ := h
    obtain ⟨line, hline⟩ := AdapterEnv.requestLine_eq_ok.mpr ⟨hmethod, hpath⟩
    obtain ⟨body, hbody⟩ := Value.sliceTo_eq_ok.mpr hbody
    obtain ⟨a, ha⟩ := AdapterEnv.httpRequest_eq_ok.mpr haccepted
    have hget (key : PyStr) (default : Value) := Value.getDefault_eq_ok.mpr
      ⟨es, hes, (rfl : _ = (Value.lookupStr es key).getD default)⟩
    refine ⟨a, bind_eq_ok.mpr ⟨_, attrs_eq_ok.mpr hattrs, bind_eq_ok.mpr ⟨_, rfl,
      bind_eq_ok.mpr ⟨_, hget _ _, bind_eq_ok.mpr ⟨_, rfl, bind_eq_ok.mpr ⟨_, rfl,
      bind_eq_ok.mpr ⟨line, hline, bind_eq_ok.mpr ⟨_, rfl, bind_eq_ok.mpr ⟨body, hbody,
      bind_eq_ok.mpr ⟨_, hget _ _, ?_⟩⟩⟩⟩⟩⟩⟩⟩⟩⟩
    exact ha

end EnvoyExtAuthzAdapter

/-! ### Kong -/

inductive KongBody
  | ok
  | blocked (explanation : DecisionExplanation)

/-- The triple for the plugin; its one header is `x-sentinel-decision`. -/
structure KongResponse where
  statusCode : ℕ
  body : KongBody
  decision : PyStr

namespace KongPluginAdapter

variable (env : AdapterEnv) (kongCtx : GatewayRequest)

def arguments (bodyPreview : PyStr) : PyDict Value where
  entries := [(py "headers", kongCtx.getDefault (py "headers") (.dict [])),
    (py "query", kongCtx.getDefault (py "query") (.dict [])),
    (py "body_preview", .str bodyPreview)]
  nodup := (by decide : [py "headers", py "query", py "body_preview"].Nodup)

/-- The action built from the context. -/
def action : Result Action := do
  let tool ← env.requestLine (kongCtx.getDefault (py "method") (.str (py "GET")))
    (kongCtx.getDefault (py "path") (.str (py "/")))
  let body ← (kongCtx.getDefault (py "body") (.str [])).format env.rt
  env.httpRequest (kongCtx.getDefault (py "agent_did") anonymousDid) tool
    (arguments kongCtx (body.take 4096)) (kongCtx.getDefault (py "intent") .none)

def respond (decision : Decision) : KongResponse :=
  if decision.verdict = .allow then ⟨200, .ok, py "allow"⟩
  else ⟨403, .blocked decision.explanation, decision.verdict.value⟩

def authorize : Result KongResponse := do
  let action ← action env kongCtx
  return respond (env.evaluate action)

/-- The adapter answers, and lets the request pass exactly when the interceptor allows the
action. -/
def Answers : Prop :=
  ∃ a response, action env kongCtx = .ok a ∧ authorize env kongCtx = .ok response ∧
    (response.statusCode = 200 ↔ (env.evaluate a).verdict = .allow)

/-- The context is one the adapter can read. -/
structure Readable : Prop where
  agentDid : env.lax.AcceptsDid (kongCtx.getDefault (py "agent_did") anonymousDid)
  intent : env.lax.AcceptsIntent (kongCtx.getDefault (py "intent") .none)
  method : (kongCtx.getDefault (py "method") (.str (py "GET"))).printable = true
  path : (kongCtx.getDefault (py "path") (.str (py "/"))).printable = true
  body : (kongCtx.getDefault (py "body") (.str [])).printable = true

variable {env kongCtx}

theorem respond_allows {decision : Decision} :
    (respond decision).statusCode = 200 ↔ decision.verdict = .allow := by
  by_cases hallow : decision.verdict = .allow <;> simp [respond, hallow]

theorem action_eq_ok : (∃ a, action env kongCtx = .ok a) ↔ Readable env kongCtx := by
  constructor
  · intro h
    obtain ⟨a, h⟩ := h
    obtain ⟨_, hline, h⟩ := bind_eq_ok.mp h
    obtain ⟨hmethod, hpath⟩ := AdapterEnv.requestLine_eq_ok.mp ⟨_, hline⟩
    obtain ⟨_, hbody, h⟩ := bind_eq_ok.mp h
    obtain ⟨hdid, hintent⟩ := AdapterEnv.httpRequest_eq_ok.mp ⟨a, h⟩
    exact ⟨hdid, hintent, hmethod, hpath, (Value.format_eq_ok env.rt).mp ⟨_, hbody⟩⟩
  · intro h
    obtain ⟨hdid, hintent, hmethod, hpath, hbody⟩ := h
    obtain ⟨line, hline⟩ := AdapterEnv.requestLine_eq_ok.mpr ⟨hmethod, hpath⟩
    obtain ⟨body, hbody⟩ := (Value.format_eq_ok env.rt).mpr hbody
    obtain ⟨a, ha⟩ := AdapterEnv.httpRequest_eq_ok.mpr ⟨hdid, hintent⟩
    exact ⟨a, bind_eq_ok.mpr ⟨line, hline, bind_eq_ok.mpr ⟨body, hbody, ha⟩⟩⟩

end KongPluginAdapter

/-! ### All three -/

/-- **Exactly the requests that can be read are answered**, and by the verdict. -/
theorem gateway_adapters_answer_iff (env : AdapterEnv) (request : GatewayRequest) :
    (AWSAPIGatewayAdapter.Answers env request ↔ AWSAPIGatewayAdapter.Readable env request) ∧
    (EnvoyExtAuthzAdapter.Answers env request ↔ EnvoyExtAuthzAdapter.Readable env request) ∧
    (KongPluginAdapter.Answers env request ↔ KongPluginAdapter.Readable env request) := by
  refine ⟨?_, ?_, ?_⟩
  · exact (answers_iff_builds _ (fun a => AWSAPIGatewayAdapter.respond request a (env.evaluate a))
      (fun r => r.effect = py "Allow") _ fun a => AWSAPIGatewayAdapter.respond_allows).trans
        AWSAPIGatewayAdapter.action_eq_ok
  · exact (answers_iff_builds _ (fun a => EnvoyExtAuthzAdapter.respond (env.evaluate a))
      (fun r => r = .ok) _ fun a => EnvoyExtAuthzAdapter.respond_allows).trans
        EnvoyExtAuthzAdapter.action_eq_ok
  · exact (answers_iff_builds _ (fun a => KongPluginAdapter.respond (env.evaluate a))
      (fun r => r.statusCode = 200) _ fun a => KongPluginAdapter.respond_allows).trans
        KongPluginAdapter.action_eq_ok

/-- An interceptor that allows everything, behind adapters that take text for text only. -/
def openEnv : AdapterEnv where
  evaluate action := {
    actionId := action.id
    verdict := .allow
    explanation := ⟨py "allowed", [], [], ⟨0, zero_mem_unit⟩, none, []⟩
    latencyMs := none
    degraded := false }
  lax := PolicyTools.exactTypes
  rt := default
  defaults := ⟨0, { sessionId := 0 }, .aware 0 0⟩

/-- A request with one entry. -/
def oneEntry (key : PyStr) (v : Value) : GatewayRequest := PyDict.empty.set key v

/-- A check request whose body is null. -/
def nullBody : GatewayRequest :=
  oneEntry (py "attributes") (.dict [(.str (py "request"),
    .dict [(.str (py "http"), .dict [(.str (py "body"), .none)])])])

/-- Headers that are null, a body that is null and an agent that is null are each answered
with an exception. -/
theorem null_requests_raise :
    ¬ AWSAPIGatewayAdapter.Answers openEnv (oneEntry (py "headers") .none) ∧
    ¬ EnvoyExtAuthzAdapter.Answers openEnv nullBody ∧
    ¬ KongPluginAdapter.Answers openEnv (oneEntry (py "agent_did") .none) := by
  refine ⟨fun h => ?_, fun h => ?_, fun h => ?_⟩
  · obtain ⟨a, -, ha, -⟩ := h
    have hraised : AWSAPIGatewayAdapter.action openEnv (oneEntry (py "headers") .none) =
        .error ⟨.other (py "AttributeError"), py "'NoneType' object has no attribute 'get'"⟩ := rfl
    rw [hraised] at ha
    cases ha
  · obtain ⟨a, -, ha, -⟩ := h
    have hraised : EnvoyExtAuthzAdapter.action openEnv nullBody =
        .error ⟨.typeError, py "'NoneType' object is not subscriptable"⟩ := rfl
    rw [hraised] at ha
    cases ha
  · obtain ⟨a, -, ha, -⟩ := h
    have hraised : KongPluginAdapter.action openEnv (oneEntry (py "agent_did") .none) =
        .error ⟨.validationError, py "1 validation error for Action"⟩ := rfl
    rw [hraised] at ha
    cases ha

end AgentSentinel
