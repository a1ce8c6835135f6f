import AgentSentinel.Core.TrustGate
import AgentSentinel.Gateway.McpGateway
import AgentSentinel.Python.UrlParse

/-!
# AgentSentinel.Gateway.McpValidators

The stateless checks of an MCP invocation. They are documented to run before an action
is handed to the pipeline, and the gateway to refuse what they report at a severity of
0.9 or more; all of their factors are that severe.

The gateway does not run them. So a call they object to reaches the executor whenever
its action can be digested, as there is always a pipeline that allows it.
-/

namespace AgentSentinel

open Lib

/-- The minimal surface the gateway needs to validate an MCP call. -/
structure McpInvocation where
  tool : PyStr
  arguments : PyDict Value
  declaredCapability : Option PyStr := none
  resourceUri : Option PyStr := none

namespace McpInvocation

theorem severe_mem_unit : (19 / 20 : ℚ) ∈ Set.Icc (0 : ℚ) 1 := by norm_num

/-- Every factor of these detectors. -/
def factor (code : PyStr) (severity : UnitRat) (message : PyStr) (evidence : PyDict PyStr) :
    RiskFactor :=
  { code, severity, detector := py "mcp_validators", message, evidence }

def emptyName : RiskFactor :=
  factor (py "mcp.tool_name.empty") ⟨1, one_mem_unit⟩
    (py "MCP invocation arrived with an empty tool name.") .empty

def controlChars (name : PyStr) : RiskFactor :=
  factor (py "mcp.tool_name.control_chars") ⟨19 / 20, severe_mem_unit⟩
    (py "Tool name contains control or zero-width characters.")
    ⟨[(py "tool", name)], by simp⟩

def lookalike (name asciiName : PyStr) : RiskFactor :=
  factor (py "mcp.tool_name.lookalike") ⟨1, one_mem_unit⟩
    (py "Tool name matches an allowed tool after Unicode-stripping.")
    ⟨[(py "tool", name), (py "matches", asciiName)],
      show [py "tool", py "matches"].Nodup by decide⟩

def traversal (uri : PyStr) : RiskFactor :=
  factor (py "mcp.resource.traversal") ⟨1, one_mem_unit⟩
    (py "Resource URI contains traversal or sensitive-path indicators.")
    ⟨[(py "uri", uri.take 512)], by simp⟩

def spoof (declared expected : PyStr) : RiskFactor :=
  factor (py "mcp.capability.spoof") ⟨19 / 20, severe_mem_unit⟩
    (py "Declared capability does not match the registered one for this tool.")
    ⟨[(py "declared", declared), (py "expected", expected)],
      show [py "declared", py "expected"].Nodup by decide⟩

/-- A control character or one of the zero-width characters. -/
def isControl (c : CodePoint) : Bool := c < 0x20 || (0x200B ≤ c && c ≤ 0x200F)

/-- `name.encode("ascii", "ignore").decode("ascii")`. -/
def asciiName (name : PyStr) : PyStr := name.filter (· < 0x80)

variable (invocation : McpInvocation)

def detectToolNameCollision (allowedNames : List PyStr) : List RiskFactor :=
  let name := invocation.tool
  if name.isEmpty then [emptyName]
  else
    (if name.any isControl then [controlChars name] else []) ++
      (if !allowedNames.contains name ∧ asciiName name ≠ name ∧
          allowedNames.contains (asciiName name) then
        [lookalike name (asciiName name)] else [])

/-- The resource the invocation names, if it is a string that is not empty. -/
def resource : Option PyStr :=
  match invocation.resourceUri.filter fun uri => !uri.isEmpty with
  | some uri => some uri
  | none =>
    match invocation.arguments.get (py "resource") with
    | some (.str uri) => if uri.isEmpty then none else some uri
    | _ => none

def suspicious : List PyStr :=
  [py "../", py "..\\", py "/etc/", py "/proc/", py "/root/", py "%2e%2e", py "%2f.."]

/-- Only the ASCII letters matter for the lower case: no other letter has one of those
in the patterns as its lower case. -/
def detectResourceTraversal (checkNetloc : PyStr → Result Unit) : Result (List RiskFactor) :=
  match invocation.resource with
  | none => .ok []
  | some uri => do
    let parsed ← UrlParse.path checkNetloc uri
    let path := if parsed.isEmpty then uri else parsed
    return if suspicious.any (lowerAscii path).contains then [traversal uri] else []

def detectCapabilitySpoofing (expected : Option PyStr) : List RiskFactor :=
  match invocation.declaredCapability, expected with
  | some declared, some expected =>
    if !declared.isEmpty ∧ !expected.isEmpty ∧ declared ≠ expected then [spoof declared expected]
    else []
  | _, _ => []

/-- `validate`. -/
def validate (checkNetloc : PyStr → Result Unit) (allowedNames : List PyStr)
    (expectedCapability : Option PyStr := none) : Result (List RiskFactor) := do
  let collision := invocation.detectToolNameCollision allowedNames
  let resource ← invocation.detectResourceTraversal checkNetloc
  return collision ++ resource ++ invocation.detectCapabilitySpoofing expectedCapability

/-- The validators report something the gateway is documented to refuse. -/
def Severe (checkNetloc : PyStr → Result Unit) (allowedNames : List PyStr) : Prop :=
  ∃ factors, invocation.validate checkNetloc allowedNames = .ok factors ∧
    ∃ f ∈ factors, 9 / 10 ≤ f.severity.val

variable {invocation} {checkNetloc : PyStr → Result Unit} {allowedNames : List PyStr}
  {expected : Option PyStr} {factors : List RiskFactor} {f : RiskFactor}

theorem severity_of_mem_collision (hf : f ∈ invocation.detectToolNameCollision allowedNames) :
    9 / 10 ≤ f.severity.val := by
  simp only [detectToolNameCollision] at hf
  split at hf
  · obtain rfl := List.mem_singleton.mp hf
    norm_num [emptyName, factor]
  · rcases List.mem_append.mp hf with hf | hf
    · obtain ⟨-, hf⟩ := List.mem_ite_nil_right.mp hf
      obtain rfl := List.mem_singleton.mp hf
      norm_num [controlChars, factor]
    · obtain ⟨-, hf⟩ := List.mem_ite_nil_right.mp hf
      obtain rfl := List.mem_singleton.mp hf
      norm_num [lookalike, factor]

theorem severity_of_mem_traversal
    (h : invocation.detectResourceTraversal checkNetloc = .ok factors) (hf : f ∈ factors) :
    9 / 10 ≤ f.severity.val := by
  unfold detectResourceTraversal at h
  split at h
  · obtain rfl := Except.ok.inj h
    cases hf
  · obtain ⟨parsed, -, h⟩ := bind_eq_ok.mp h
    obtain rfl := Except.ok.inj h
    obtain ⟨-, hf⟩ := List.mem_ite_nil_right.mp hf
    obtain rfl := List.mem_singleton.mp hf
    norm_num [traversal, factor]

theorem severity_of_mem_spoofing (hf : f ∈ invocation.detectCapabilitySpoofing expected) :
    9 / 10 ≤ f.severity.val := by
  unfold detectCapabilitySpoofing at hf
  split at hf
  · obtain ⟨-, hf⟩ := by simpa using hf
    subst hf
    norm_num [spoof, factor]
  · cases hf

/-- **Whatever the validators report is severe** enough to be refused. -/
theorem severity_of_mem_validate
    (h : invocation.validate checkNetloc allowedNames expected = .ok factors) (hf : f ∈ factors) :
    9 / 10 ≤ f.severity.val := by
  obtain ⟨resource, hresource, h⟩ := bind_eq_ok.mp h
  obtain rfl := Except.ok.inj h
  rcases List.mem_append.mp hf with hf | hf
  · rcases List.mem_append.mp hf with hf | hf
    · exact severity_of_mem_collision hf
    · exact severity_of_mem_traversal hresource hf
  · exact severity_of_mem_spoofing hf

end McpInvocation

/-! ### A pipeline that allows the call -/

namespace GatewayCall

/-- The invocation the validators would be given. -/
def invocation (call : GatewayCall) (arguments : PyDict Value) : McpInvocation where
  tool := call.tool
  arguments := arguments

/-- The call gives an action that can be digested. -/
def Digestible (call : GatewayCall) (lib : HashLibrary) (rt : PyRuntime)
    (arguments : PyDict Value) : Prop :=
  ∃ defaults action digest, call.action defaults arguments = .ok action ∧
    action.digest lib rt = .ok digest

theorem action_agent {call : GatewayCall} {defaults : ActionDefaults} {arguments : PyDict Value}
    {action : Action} (h : call.action defaults arguments = .ok action) :
    8 ≤ call.agent.length ∧ action.agentDid = call.agent ∧ action.payloadDigest = none := by
  unfold GatewayCall.action at h
  split at h
  · next hlength =>
      obtain rfl := Except.ok.inj h
      exact ⟨hlength, rfl, rfl⟩
  · cases h

end GatewayCall

namespace Interceptor

variable {lib : HashLibrary} {rt : PyRuntime} {action : Action}

/-- What the interceptor answers an action with, it has digested. -/
theorem digest_of_answer {pipeline : PipelineDeps} {d : Decision}
    (hnone : action.payloadDigest = none)
    (h : (Interceptor.mk pipeline lib).Answers rt action (.ok d)) :
    ∃ digest, action.digest lib rt = .ok digest := by
  obtain ⟨r, elapsedMs, hanswer⟩ := h
  obtain ⟨stamped, -, hstamp, -⟩ := evaluate_eq_ok hanswer.symm
  simp only [stamp, hnone] at hstamp
  obtain ⟨digest, hdigest, -⟩ := bind_eq_ok.mp hstamp
  exact ⟨digest, hdigest⟩

end Interceptor

namespace GatewayWorld

/-- No other coroutine changes the arguments. -/
def Undisturbed (_ : GatewayWorld) (e : GatewayEvent) : Prop := ∀ args heap, e ≠ .mutate args heap

/-- The runs of a call with the arguments it is made with. -/
def callRuns (interceptor : Interceptor) (rt : PyRuntime) (call : GatewayCall)
    (args : Option (PyDict ObjRef)) (heap : ObjRef → Value) :
    TransitionSystem GatewayWorld GatewayEvent :=
  ((runs (interceptor.Answers rt) call).startingAt { args, heap }).restrict Undisturbed

/-- What the validators find severe is not executed, whatever the pipeline. -/
def Guarded (checkNetloc : PyStr → Result Unit) (lib : HashLibrary) (rt : PyRuntime)
    (call : GatewayCall) (args : Option (PyDict ObjRef)) (heap : ObjRef → Value)
    (allowedNames : List PyStr) : Prop :=
  (call.invocation ((argsOrEmpty args).map heap)).Severe checkNetloc allowedNames →
    ∀ pipeline w, (callRuns ⟨pipeline, lib⟩ rt call args heap).Reachable w → w.executed = []

variable {lib : HashLibrary} {rt : PyRuntime} {call : GatewayCall}
  {args : Option (PyDict ObjRef)} {heap : ObjRef → Value} {pipeline : PipelineDeps}
  {w w' : GatewayWorld} {e : GatewayEvent}

/-- What the phases of an undisturbed call say about its action. -/
structure CallInv (lib : HashLibrary) (rt : PyRuntime) (call : GatewayCall)
    (args : Option (PyDict ObjRef)) (heap : ObjRef → Value) (w : GatewayWorld) : Prop where
  args_eq : w.args = args
  heap_eq : w.heap = heap
  waiting : ∀ pending, w.phase = .waiting pending →
    ∃ defaults, call.action defaults ((argsOrEmpty args).map heap) = .ok (pending.current heap)
  answered : ∀ pending d, w.phase = .answered pending (.ok d) →
    call.Digestible lib rt ((argsOrEmpty args).map heap)
  executed : w.executed ≠ [] →
    call.hasRunner = true ∧ call.Digestible lib rt ((argsOrEmpty args).map heap)

/-- The executor is only invoked where there is one. -/
theorem hasRunner_of_resume {pending : PendingAction} {d : Decision}
    (hphase : w.phase = .answered pending (.ok d)) (hallow : d.verdict = .allow)
    (hstep : w.step call .resume = some w') (hexecuted : w'.executed ≠ w.executed) :
    call.hasRunner = true := by
  by_contra hnone
  simp only [step, hphase, hallow, hnone, ne_eq, not_true_eq_false, if_false,
    Option.some.injEq] at hstep
  exact hexecuted (hstep ▸ rfl)

theorem CallInv.step (h : w.CallInv lib rt call args heap)
    (hstep : (callRuns ⟨pipeline, lib⟩ rt call args heap).step w e w') :
    w'.CallInv lib rt call args heap := by
  obtain ⟨⟨hstep, hanswers⟩, hquiet⟩ := hstep
  have hstep' := hstep
  rcases step_cases hstep with ⟨_, exc, -, hphase, rfl⟩ |
    ⟨defaults, action, -, hphase, haction, rfl⟩ | ⟨args', heap', rfl, rfl⟩ |
    ⟨result, pending, rfl, hphase, rfl⟩ | ⟨pending, answer, result, -, hphase, -, rfl⟩ |
    ⟨pending, decision, rfl, hphase, hallow, rfl⟩ | ⟨output, decision, -, hphase, rfl⟩
  · exact ⟨h.args_eq, h.heap_eq, by simp, by simp, h.executed⟩
  · refine ⟨h.args_eq, h.heap_eq, fun pending hpending => ⟨defaults, ?_⟩, by simp, h.executed⟩
    obtain rfl := GatewayPhase.waiting.inj hpending
    rw [h.args_eq, h.heap_eq] at haction
    rw [haction, PendingAction.current, h.args_eq, ← (GatewayCall.action_eq_ok haction).2]
  · exact absurd rfl (hquiet args' heap')
  · refine ⟨h.args_eq, h.heap_eq, by simp, fun pending' d hanswered => ?_, h.executed⟩
    obtain ⟨rfl, rfl⟩ := GatewayPhase.answered.inj hanswered
    obtain ⟨defaults, haction⟩ := h.waiting pending hphase
    have hanswer := hanswers (.ok d) pending rfl hphase
    rw [h.heap_eq] at hanswer
    obtain ⟨digest, hdigest⟩ :=
      Interceptor.digest_of_answer (GatewayCall.action_agent haction).2.2 hanswer
    exact ⟨defaults, _, digest, haction, hdigest⟩
  · exact ⟨h.args_eq, h.heap_eq, by simp, by simp, h.executed⟩
  · refine ⟨h.args_eq, h.heap_eq, by simp, by simp, fun _ => ⟨?_, h.answered pending _ hphase⟩⟩
    exact hasRunner_of_resume hphase hallow hstep' (by simp)
  · exact ⟨h.args_eq, h.heap_eq, by simp, by simp, h.executed⟩

end GatewayWorld

end AgentSentinel
