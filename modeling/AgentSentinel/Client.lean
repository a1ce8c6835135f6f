import AgentSentinel.Identity.Signing
import AgentSentinel.Models.Decision

/-!
# AgentSentinel.Client

The SDK. An agent runtime hands it every action before execution; embedded, it asks an
interceptor, and remote, it posts the action to a control plane.

A remote client that fails closed turns every failure to get a successful response into a
denial. What a successful response says is read outside of the handler, and taken at its
word: a body that is no decision is an exception, and a decision is not compared with the
action.
-/

namespace AgentSentinel

/-- `Decision.deny`; `fresh` is the id made up where none is given. -/
def Decision.deny (reason : PyStr) (actionId : Option UUID) (degraded : Bool) (fresh : UUID) :
    Decision where
  actionId := actionId.getD fresh
  verdict := .deny
  decidedBy := py "sentinel.fail_closed"
  explanation := ⟨reason, [], [], ⟨1, one_mem_unit⟩, none, []⟩
  latencyMs := none
  degraded := degraded

/-- Where a hosted control plane is. -/
structure RemoteConfig where
  baseUrl : PyStr
  token : PyStr
  tenantId : PyStr := py "default"
  timeoutSeconds : ℚ := 5
  failClosed : Bool := true

/-- A request of the client. -/
structure HttpxRequest where
  baseUrl : PyStr
  path : PyStr
  headers : List (PyStr × PyStr)
  json : Value

/-- A response: its status, the text of the error that the status stands for, and what
`json()` makes of the body. -/
structure HttpxResponse where
  statusCode : ℕ
  statusError : PyStr
  json : Result Value

namespace HttpxResponse

/-- `is_success`. -/
def isSuccess (response : HttpxResponse) : Bool :=
  decide (200 ≤ response.statusCode ∧ response.statusCode ≤ 299)

def raiseForStatus (response : HttpxResponse) : Result Unit :=
  if response.isSuccess then .ok ()
  else .error ⟨.other (py "HTTPStatusError"), response.statusError⟩

end HttpxResponse

/-- What the client has of libraries and of the network: `post` is the control plane with
everything on the way to it, and may return any response or raise. -/
structure ClientEnv (SK PK : Type) where
  lib : SigningLibrary SK PK
  post : HttpxRequest → Result HttpxResponse
  modelValidate : Value → Result Decision
  freshId : UUID

variable {SK PK : Type}

/-- `Decision.model_validate(resp.json())`. -/
def HttpxResponse.decision (env : ClientEnv SK PK) (response : HttpxResponse) :
    Result Decision := do
  env.modelValidate (← response.json)

namespace RemoteConfig

variable (config : RemoteConfig) (env : ClientEnv SK PK) (action : Action)

/-- The request that a client posts for an action. -/
def request (body : Value) : HttpxRequest where
  baseUrl := config.baseUrl
  path := py "/v1/evaluate"
  headers := [(py "authorization", py "Bearer " ++ config.token),
    (py "x-tenant-id", config.tenantId), (py "content-type", py "application/json")]
  json := body

/-- The `try` block: a response with a successful status, or whatever went wrong. -/
def exchange : Result HttpxResponse := do
  let body ← action.modelDump env.lib
  let response ← env.post (config.request body)
  response.raiseForStatus
  return response

/-- The control plane answers the posted action with a response of a successful status. -/
def Succeeds (response : HttpxResponse) : Prop :=
  ∃ body, action.modelDump env.lib = .ok body ∧ env.post (config.request body) = .ok response ∧
    response.isSuccess = true

variable {config env action}

theorem exchange_eq_ok {response : HttpxResponse} :
    config.exchange env action = .ok response ↔ config.Succeeds env action response := by
  unfold exchange Succeeds HttpxResponse.raiseForStatus
  constructor
  · intro h
    obtain ⟨body, hbody, h⟩ := bind_eq_ok.mp h
    obtain ⟨posted, hpost, h⟩ := bind_eq_ok.mp h
    obtain ⟨_, hstatus, h⟩ := bind_eq_ok.mp h
    obtain rfl := Except.ok.inj h
    refine ⟨body, hbody, hpost, ?_⟩
    by_contra hfailed
    rw [if_neg hfailed] at hstatus
    cases hstatus
  · intro h
    obtain ⟨body, hbody, hpost, hsuccess⟩ := h
    refine bind_eq_ok.mpr ⟨body, hbody, bind_eq_ok.mpr ⟨response, hpost, ?_⟩⟩
    rw [if_pos hsuccess]
    rfl

end RemoteConfig

/-- SDK facade. It has an interceptor or a remote configuration. -/
structure Sentinel where
  interceptor : Option (Action → Result Decision)
  remote : Option RemoteConfig
  configured : interceptor.isSome = true ∨ remote.isSome = true

namespace Sentinel

/-- `Sentinel(remote=...)`. -/
def ofRemote (config : RemoteConfig) : Sentinel := ⟨none, some config, Or.inr rfl⟩

/-- `Sentinel(interceptor=...)`. -/
def ofInterceptor (interceptor : Action → Result Decision) : Sentinel :=
  ⟨some interceptor, none, Or.inl rfl⟩

def evaluate (sentinel : Sentinel) (env : ClientEnv SK PK) (action : Action) : Result Decision :=
  match sentinel.interceptor, sentinel.remote with
  | some interceptor, _ => interceptor action
  | none, none =>
    .error ⟨.other (py "RuntimeError"), py "Sentinel client not in remote mode"⟩
  | none, some config =>
    match config.exchange env action with
    | .error exc =>
      if config.failClosed then
        .ok (.deny (py "sentinel_unreachable: " ++ exc.msg) (some action.id) true env.freshId)
      else .error exc
    | .ok response => response.decision env

def allow (sentinel : Sentinel) (env : ClientEnv SK PK) (action : Action) : Result Bool := do
  let decision ← sentinel.evaluate env action
  return decision.verdict == .allow

variable {config : RemoteConfig} {env : ClientEnv SK PK} {action : Action}

theorem evaluate_of_succeeds {response : HttpxResponse}
    (h : config.Succeeds env action response) :
    (ofRemote config).evaluate env action = response.decision env := by
  simp only [evaluate, ofRemote, RemoteConfig.exchange_eq_ok.mpr h]

/-- Without a successful response, a client that fails closed denies. -/
theorem evaluate_of_not_succeeds (hclosed : config.failClosed = true)
    (h : ∀ response, ¬ config.Succeeds env action response) :
    ∃ d, (ofRemote config).evaluate env action = .ok d ∧ d.verdict = .deny := by
  cases hexchange : config.exchange env action with
  | ok response => exact absurd (RemoteConfig.exchange_eq_ok.mp hexchange) (h response)
  | error exc =>
      refine ⟨.deny (py "sentinel_unreachable: " ++ exc.msg) (some action.id) true env.freshId,
        ?_, rfl⟩
      simp only [evaluate, ofRemote, hexchange, hclosed, if_true]

theorem allow_eq_true_iff {sentinel : Sentinel} : sentinel.allow env action = .ok true ↔
    ∃ d, sentinel.evaluate env action = .ok d ∧ d.verdict = .allow := by
  unfold allow
  rw [bind_eq_ok]
  refine exists_congr fun d => and_congr_right fun _ => ?_
  simp [pure, Except.pure]

/-! ### Failing closed -/

/-- The successful response is a decision on the action that allows it. -/
def Allows (env : ClientEnv SK PK) (action : Action) (response : HttpxResponse) : Prop :=
  ∃ d, response.decision env = .ok d ∧ d.actionId = action.id ∧ d.verdict = .allow

/-- `evaluate` returns a decision, and `allow` is true on a successful response only that
allows this very action. -/
def FailsClosed (config : RemoteConfig) (env : ClientEnv SK PK) (action : Action) : Prop :=
  (∃ d, (ofRemote config).evaluate env action = .ok d) ∧
    ((ofRemote config).allow env action = .ok true →
      ∃ response, config.Succeeds env action response ∧ Allows env action response)

/-- Whatever successful response there is, it is a decision, and one that allows something
allows the action. -/
def ToldTheTruth (config : RemoteConfig) (env : ClientEnv SK PK) (action : Action) : Prop :=
  ∀ response, config.Succeeds env action response →
    ∃ d, response.decision env = .ok d ∧ (d.verdict = .allow → d.actionId = action.id)

/-- **The SDK fails closed exactly on what is told it truly**: on everything but successful
responses, and on those that are a decision which allows no other action. -/
theorem fails_closed_iff (hclosed : config.failClosed = true) :
    FailsClosed config env action ↔ ToldTheTruth config env action := by
  constructor
  · intro h response hsucceeds
    obtain ⟨⟨d, hd⟩, hallow⟩ := h
    refine ⟨d, (evaluate_of_succeeds hsucceeds).symm.trans hd, fun hverdict => ?_⟩
    obtain ⟨response', hsucceeds', d', hd', hid, -⟩ :=
      hallow (allow_eq_true_iff.mpr ⟨d, hd, hverdict⟩)
    have hsame : response'.decision env = .ok d := (evaluate_of_succeeds hsucceeds').symm.trans hd
    obtain rfl := Except.ok.inj (hsame.symm.trans hd')
    exact hid
  · intro h
    by_cases hsome : ∃ response, config.Succeeds env action response
    · obtain ⟨response, hsucceeds⟩ := hsome
      obtain ⟨d, hd, htrue⟩ := h response hsucceeds
      have hevaluate := (evaluate_of_succeeds hsucceeds).trans hd
      refine ⟨⟨d, hevaluate⟩, fun hallow => ⟨response, hsucceeds, d, hd, ?_⟩⟩
      obtain ⟨d', hd', hverdict⟩ := allow_eq_true_iff.mp hallow
      obtain rfl := Except.ok.inj (hevaluate.symm.trans hd')
      exact ⟨htrue hverdict, hverdict⟩
    · obtain ⟨d, hd, hdeny⟩ := evaluate_of_not_succeeds hclosed (not_exists.mp hsome)
      refine ⟨⟨d, hd⟩, fun hallow => ?_⟩
      obtain ⟨d', hd', hverdict⟩ := allow_eq_true_iff.mp hallow
      obtain rfl := Except.ok.inj (hd.symm.trans hd')
      rw [hdeny] at hverdict
      cases hverdict

/-! ### A control plane that answers -/

/-- Validation of the decisions below: two ids, and the verdict that allows. -/
def readDecision : Value → Result Decision
  | .dict es =>
    let given (key : PyStr) (text : PyStr) : Bool :=
      match Value.lookupStr es key with
      | some (.str s) => s == text
      | _ => false
    if given (py "verdict") (py "allow") then
      if given (py "action_id") (uuidText 0) then .ok (allowed 0)
      else if given (py "action_id") (uuidText 1) then .ok (allowed 1)
      else .error ⟨.validationError, py "1 validation error for Decision"⟩
    else .error ⟨.validationError, py "1 validation error for Decision"⟩
  | _ => .error ⟨.validationError, py "1 validation error for Decision"⟩
where
  allowed (id : UUID) : Decision := ⟨id, .allow, py "sentinel.pipeline",
    ⟨py "allowed", [], [], ⟨0, zero_mem_unit⟩, none, []⟩, none, false⟩

/-- A control plane that gives one answer to everything. -/
def answering (response : HttpxResponse) : ClientEnv PyBytes PyBytes :=
  ⟨ratioSigning, fun _ => .ok response, readDecision, 0⟩

/-- A response of status 200 that allows the action with the given id. -/
def allowing (id : UUID) : HttpxResponse :=
  ⟨200, [], .ok (.dict [(.str (py "action_id"), .str (uuidText id)),
    (.str (py "verdict"), .str (py "allow"))])⟩

/-- A page in place of the control plane. -/
def loginPage : HttpxResponse :=
  ⟨200, [], .error ⟨.valueError, py "Expecting value: line 1 column 1 (char 0)"⟩⟩

def localhost : RemoteConfig where
  baseUrl := py "http://localhost:8080"
  token := py "secret"

theorem answering_succeeds {response : HttpxResponse} (h : response.isSuccess = true) :
    localhost.Succeeds (answering response) default response := ⟨_, rfl, rfl, h⟩

theorem decision_allowing (id : UUID) (h : id = 0 ∨ id = 1) :
    (allowing id).decision (answering (allowing id)) = .ok (readDecision.allowed id) := by
  rcases h with rfl | rfl <;> rfl

theorem fails_closed_localhost :
    FailsClosed localhost (answering (allowing 0)) default ∧
      (ofRemote localhost).allow (answering (allowing 0)) default = .ok true := by
  have hdecision := decision_allowing 0 (Or.inl rfl)
  refine ⟨(fails_closed_iff rfl).mpr fun response hsucceeds => ?_, ?_⟩
  · obtain ⟨body, -, hpost, -⟩ := hsucceeds
    obtain rfl := Except.ok.inj hpost
    exact ⟨_, hdecision, fun _ => rfl⟩
  · exact allow_eq_true_iff.mpr
      ⟨_, (evaluate_of_succeeds (answering_succeeds rfl)).trans hdecision, rfl⟩

/-- A page with status 200 makes the client raise, and the permission for one action lets
another one pass. -/
theorem success_not_failed_closed :
    ¬ FailsClosed localhost (answering loginPage) default ∧
    ¬ FailsClosed localhost (answering (allowing 1)) default := by
  refine ⟨fun h => ?_, fun h => ?_⟩
  · obtain ⟨⟨d, hd⟩, -⟩ := h
    rw [evaluate_of_succeeds (answering_succeeds rfl)] at hd
    cases hd
  · have hdecision := decision_allowing 1 (Or.inr rfl)
    have hevaluate := (evaluate_of_succeeds (answering_succeeds rfl)).trans hdecision
    obtain ⟨response, ⟨_, -, hpost, -⟩, d, hd, hid, -⟩ :=
      h.2 (allow_eq_true_iff.mpr ⟨_, hevaluate, rfl⟩)
    obtain rfl := Except.ok.inj hpost
    obtain rfl := Except.ok.inj (hdecision.symm.trans hd)
    exact absurd hid (by decide)

end Sentinel

end AgentSentinel
