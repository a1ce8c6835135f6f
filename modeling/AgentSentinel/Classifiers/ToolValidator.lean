import AgentSentinel.Models.Action
import AgentSentinel.Models.Decision
import AgentSentinel.Models.Identity

/-!
# AgentSentinel.Classifiers.ToolValidator

The tool validator checks an action against a registry of known tools, the
identity's capability grants and the tool's argument schema. Without an identity
the capability is not checked.

JSON Schema validation is a library's: it is any function of the arguments and
the schema that accepts, reports a violation, or raises something else.
-/

namespace AgentSentinel

/-- Declaration for a single tool the system permits. -/
structure ToolSpec where
  name : PyStr
  capability : PyStr
  argsSchema : PyDict Value := .empty
  quarantined : Bool := false
  sensitivity : ℚ := 0

/-- What `jsonschema.validate` does: it returns, raises a `ValidationError` with a
message and the path of the offending element, or raises something else. -/
inductive SchemaOutcome
  | valid
  | invalid (message : PyStr) (path : List PyStr)
  | raised (e : PyExc)

/-- Enforce capability bindings and tool argument schemas. -/
structure ToolValidator where
  registry : PyDict ToolSpec
  schemaValidate : PyDict Value → PyDict Value → SchemaOutcome

namespace ToolValidator

/-- Every factor of this detector. -/
def factor (code : PyStr) (severity : UnitRat) (message : PyStr) (evidence : PyDict PyStr) :
    RiskFactor :=
  { code, severity, detector := py "tool_validator", message, evidence }

def unknownTool (tool : PyStr) : RiskFactor :=
  factor (py "tool.unknown") ⟨7 / 10, by norm_num⟩
    (py "Tool '" ++ tool ++ py "' is not registered with sentinel.")
    ⟨[(py "references", py "OWASP-AGENT-03")], by decide⟩

def quarantinedTool (spec : ToolSpec) : RiskFactor :=
  factor (py "tool.quarantined") ⟨19 / 20, by norm_num⟩
    (py "Tool '" ++ spec.name ++ py "' is currently quarantined.")
    ⟨[(py "references", py "OWASP-AGENT-03,OWASP-AGENT-06")], by decide⟩

/-- The sensitivity of the tool is not validated, so constructing the factor can
raise. -/
def noCapability (identity : Identity) (spec : ToolSpec) : Result RiskFactor :=
  RiskFactor.make (py "tool.no_capability") (max (3 / 5) spec.sensitivity) (py "tool_validator")
    (py "Identity " ++ identity.did ++ py " lacks capability '" ++ spec.capability ++
      py "' required to invoke '" ++ spec.name ++ py "'.")
    ⟨[(py "required_capability", spec.capability), (py "references", py "OWASP-AGENT-04")],
      show [py "required_capability", py "references"].Nodup by decide⟩

def argsInvalid (spec : ToolSpec) (message : PyStr) (path : List PyStr) : RiskFactor :=
  factor (py "tool.args_invalid") ⟨4 / 5, by norm_num⟩
    (py "Tool arguments failed schema validation: " ++ message)
    ⟨[(py "tool", spec.name), (py "error_path", PyStr.join (py "/") path),
        (py "references", py "OWASP-AGENT-03")],
      show [py "tool", py "error_path", py "references"].Nodup by decide⟩

variable (v : ToolValidator) (now : PyDatetime) (action : Action) (identity : Option Identity)

/-- The capability check of a registered tool. -/
def checkCapability (spec : ToolSpec) : Result (List RiskFactor) :=
  match identity with
  | none => .ok []
  | some identity => do
    -- Comparing an expiry with the time of day raises for one without a time zone.
    if ← identity.hasCapability now spec.capability then return []
    return [← noCapability identity spec]

/-- The argument check of a registered tool; a tool without a schema takes any
arguments. -/
def checkSchema (spec : ToolSpec) : Result (List RiskFactor) :=
  if spec.argsSchema.entries.isEmpty then .ok []
  else
    match v.schemaValidate action.arguments spec.argsSchema with
    | .valid => .ok []
    | .invalid message path => .ok [argsInvalid spec message path]
    | .raised e => .error e

def validate : Result (List RiskFactor) :=
  match action.toolName with
  | none => .ok []
  | some tool =>
    match v.registry.get tool with
    | none => .ok [unknownTool tool]
    | some spec =>
      if spec.quarantined then .ok [quarantinedTool spec]
      else do
        let capability ← checkCapability now identity spec
        let schema ← v.checkSchema action spec
        return capability ++ schema

/-- The arguments satisfy the tool's schema. -/
def ArgsValid (spec : ToolSpec) : Prop :=
  spec.argsSchema.entries = [] ∨ v.schemaValidate action.arguments spec.argsSchema = .valid

/-- The tool the action calls, if any, is registered and not quarantined, the
identity holds its capability and the arguments satisfy its schema. -/
def Clears (identity : Identity) : Prop :=
  ∀ tool, action.toolName = some tool →
    ∃ spec, v.registry.get tool = some spec ∧ spec.quarantined = false ∧
      identity.Holds now spec.capability ∧ v.ArgsValid action spec

variable {v now action identity}

/-- A capability check that returns found the capability, had nobody to check, or
reports the lack of it at a severity of at least 0.6. -/
theorem checkCapability_eq_ok {spec : ToolSpec} {fs : List RiskFactor}
    (h : checkCapability now identity spec = .ok fs) :
    (fs = [] ∧ ∀ i, identity = some i → i.Holds now spec.capability) ∨
      ∃ f, fs = [f] ∧ 3 / 5 ≤ f.severity.val := by
  cases identity with
  | none => exact Or.inl ⟨(Except.ok.inj h).symm, by simp⟩
  | some i =>
      obtain ⟨held, hheld, hrest⟩ := bind_eq_ok.mp h
      cases held with
      | true =>
          refine Or.inl ⟨(Except.ok.inj hrest).symm, fun j hj => ?_⟩
          exact Option.some.inj hj ▸ Identity.holds_of_hasCapability hheld
      | false =>
          obtain ⟨f, hf, hfs⟩ := bind_eq_ok.mp hrest
          refine Or.inr ⟨f, (Except.ok.inj hfs).symm, ?_⟩
          rw [RiskFactor.make_severity hf]
          exact le_max_left _ _

theorem checkSchema_eq_ok {spec : ToolSpec} {fs : List RiskFactor}
    (h : v.checkSchema action spec = .ok fs) :
    (fs = [] ∧ v.ArgsValid action spec) ∨ ∃ f, fs = [f] ∧ 3 / 5 ≤ f.severity.val := by
  unfold checkSchema at h
  split at h
  case isTrue hempty =>
      exact Or.inl ⟨(Except.ok.inj h).symm, Or.inl (List.isEmpty_iff.mp hempty)⟩
  case isFalse =>
      cases hout : v.schemaValidate action.arguments spec.argsSchema with
      | valid =>
          rw [hout] at h
          exact Or.inl ⟨(Except.ok.inj h).symm, Or.inr hout⟩
      | invalid message path =>
          rw [hout] at h
          refine Or.inr ⟨_, (Except.ok.inj h).symm, ?_⟩
          norm_num [argsInvalid, factor]
      | raised e =>
          rw [hout] at h
          cases h

/-- **What a validator that returns has found**: nothing, and then the action
clears all its checks for the identity it was given, or factors none of which is
weaker than 0.6. -/
theorem validate_eq_ok {fs : List RiskFactor} (h : v.validate now action identity = .ok fs) :
    (fs = [] ∧ ∀ i, identity = some i → v.Clears now action i) ∨
      ∃ f ∈ fs, 3 / 5 ≤ f.severity.val := by
  unfold validate at h
  cases htool : action.toolName with
  | none =>
      rw [htool] at h
      exact Or.inl ⟨(Except.ok.inj h).symm, fun i _ tool ht => by simp [htool] at ht⟩
  | some tool =>
      simp only [htool] at h
      cases hspec : v.registry.get tool with
      | none =>
          rw [hspec] at h
          refine Or.inr ⟨unknownTool tool, ?_, by norm_num [unknownTool, factor]⟩
          simp [← Except.ok.inj h]
      | some spec =>
          simp only [hspec] at h
          cases hquar : spec.quarantined with
          | true =>
              rw [if_pos hquar] at h
              refine Or.inr ⟨quarantinedTool spec, ?_, by norm_num [quarantinedTool, factor]⟩
              simp [← Except.ok.inj h]
          | false =>
              rw [if_neg (by simp [hquar])] at h
              obtain ⟨cs, hcs, hrest⟩ := bind_eq_ok.mp h
              obtain ⟨ss, hss, hfs⟩ := bind_eq_ok.mp hrest
              obtain rfl := Except.ok.inj hfs
              rcases checkCapability_eq_ok hcs with ⟨rfl, hholds⟩ | ⟨f, rfl, hf⟩
              · rcases checkSchema_eq_ok hss with ⟨rfl, hargs⟩ | ⟨f, rfl, hf⟩
                · refine Or.inl ⟨rfl, fun i hi t ht => ?_⟩
                  obtain rfl := Option.some.inj (htool.symm.trans ht)
                  exact ⟨spec, hspec, hquar, hholds i hi, hargs⟩
                · exact Or.inr ⟨f, by simp, hf⟩
              · exact Or.inr ⟨f, by simp, hf⟩

theorem clears_of_nil {i : Identity} (h : v.validate now action (some i) = .ok []) :
    v.Clears now action i := by
  rcases validate_eq_ok h with ⟨-, hclears⟩ | ⟨f, hf, -⟩
  · exact hclears i rfl
  · cases hf

/-- Where the validator has nothing to report on an identity, it has nothing to
report without one. -/
theorem validate_none_of_nil {i : Identity} (h : v.validate now action (some i) = .ok [])
    (later : PyDatetime) :
    v.validate later action none = .ok [] := by
  unfold validate at h ⊢
  cases htool : action.toolName with
  | none => rfl
  | some tool =>
      simp only [htool] at h ⊢
      cases hspec : v.registry.get tool with
      | none => simp [hspec] at h
      | some spec =>
          simp only [hspec] at h ⊢
          cases hquar : spec.quarantined with
          | true => simp [hquar] at h
          | false =>
              simp only [hquar, Bool.false_eq_true, if_false] at h ⊢
              obtain ⟨cs, -, hrest⟩ := bind_eq_ok.mp h
              obtain ⟨ss, hss, hfs⟩ := bind_eq_ok.mp hrest
              -- Without an identity only the schema is checked, and it had nothing to say.
              have hnil : ss = [] := (List.append_eq_nil_iff.mp (Except.ok.inj hfs)).2
              exact bind_eq_ok.mpr ⟨[], rfl, bind_eq_ok.mpr ⟨ss, hss, by rw [hnil]; rfl⟩⟩

end ToolValidator

end AgentSentinel
