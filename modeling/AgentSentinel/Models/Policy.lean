import Mathlib.Data.List.Sort
import AgentSentinel.Models.Decision

/-!
# AgentSentinel.Models.Policy

Policy rules and bundles. A rule's match expression is an untyped dictionary; the
model validates nothing about it beyond its keys being strings.
-/

namespace AgentSentinel

/-- The effect a matching rule has on the action. -/
inductive RuleEffect
  | allow
  | deny
  | escalate
  | throttle
  deriving DecidableEq

/-- The verdict of the same name. -/
def RuleEffect.verdict : RuleEffect → DecisionVerdict
  | allow => .allow
  | deny => .deny
  | escalate => .escalate
  | throttle => .throttle

-- The default priority is a literal of `Fin 10001`.
instance priority_neZero : NeZero (10001 : ℕ) := ⟨by decide⟩

/-- A single evaluable rule. The field's bounds `0 ≤ priority ≤ 10000` are its type. -/
structure PolicyRule where
  id : PyStr
  effect : RuleEffect
  priority : Fin 10001 := 100
  enabled : Bool := true
  matchOn : PyDict Value := .empty

/-- A signed, versioned set of rules. -/
structure PolicyBundle where
  rules : List PolicyRule

namespace PolicyBundle

/-- The order `by_priority` sorts by: ascending priority. -/
def priorityLe (r s : PolicyRule) : Prop := r.priority ≤ s.priority

instance : DecidableRel priorityLe :=
  fun r s => inferInstanceAs (Decidable (r.priority ≤ s.priority))

/-- Enabled rules sorted by priority ascending; the sort is stable. -/
def byPriority (b : PolicyBundle) : List PolicyRule :=
  (b.rules.filter (·.enabled)).insertionSort priorityLe

@[simp] theorem mem_byPriority {b : PolicyBundle} {r : PolicyRule} :
    r ∈ b.byPriority ↔ r ∈ b.rules ∧ r.enabled = true := by
  simp [byPriority]

end PolicyBundle

end AgentSentinel
