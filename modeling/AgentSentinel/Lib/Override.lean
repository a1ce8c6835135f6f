import Mathlib.Order.BoundedOrder.Basic
import Mathlib.Order.Lattice

/-!
# AgentSentinel.Lib.Override

Decisions by precedence. Over an order whose bottom means "nothing to object",
`override a b` lets the first source decide whenever it objects and asks the
second one otherwise.

The strictest of several sources is their supremum, and precedence is not that:
a weak objection of an early source hides a strong one of a later source. What
this costs is said exactly by `override_le_override_iff`: when every source
becomes stricter, the decision becomes laxer only by an early source beginning to
object more weakly than the later ones did.
-/

namespace AgentSentinel.Lib

variable {α : Type*}

section Order

variable [PartialOrder α] [OrderBot α] [DecidableEq α] {a b : α}

/-- `a` where it objects, `b` otherwise. -/
def override (a b : α) : α := if a = ⊥ then b else a

@[simp] theorem override_bot_left : override ⊥ b = b := if_pos rfl

theorem override_of_ne_bot (h : a ≠ ⊥) : override a b = a := if_neg h

/-- The first source is never overruled. -/
theorem le_override : a ≤ override a b := by
  by_cases h : a = ⊥
  · exact h ▸ bot_le
  · exact (override_of_ne_bot h).ge

/-- Nothing is objected to exactly when neither source objects. -/
@[simp] theorem override_eq_bot_iff : override a b = ⊥ ↔ a = ⊥ ∧ b = ⊥ := by
  unfold override
  split
  case isTrue h => simp [h]
  case isFalse h => simp [h]

end Order

section Linear

-- The equality test is a parameter of its own: `override` computes with the one its type has.
variable [LinearOrder α] [OrderBot α] [DecidableEq α] {a a' b b' : α}

/-- **When both sources become stricter**, so does the decision, unless the first
one had nothing to object, begins to, and objects more weakly than the second
one did. The second source matters only where the first one is silent. -/
theorem override_le_override_iff (ha : a ≤ a') (hb : a' = ⊥ → b ≤ b') :
    override a b ≤ override a' b' ↔ ¬ (a = ⊥ ∧ a' ≠ ⊥ ∧ a' < b) := by
  by_cases hbot : a = ⊥
  · by_cases hbot' : a' = ⊥
    · simp [hbot, hbot', hb hbot']
    · simp [hbot, hbot', override_of_ne_bot hbot']
  · have hbot' : a' ≠ ⊥ := fun h => hbot (le_bot_iff.mp (h ▸ ha))
    simp [hbot, override_of_ne_bot hbot, override_of_ne_bot hbot', ha]

end Linear

end AgentSentinel.Lib
