import AgentSentinel.Python.Str

/-!
# AgentSentinel.Python.Exceptions

Exceptions as values. The modelled handlers tell a handful of classes apart and
read nothing of an exception but its class and its text.
-/

namespace AgentSentinel

/-- The exception classes some modelled `except` clause names, and the rest.
`asyncio.CancelledError` is not among them: it is no `Exception`. -/
inductive ExcKind
  | identityError
  | dependencyUnavailable
  | validationError
  | typeError
  | valueError
  | overflowError
  | other (name : PyStr)
  deriving DecidableEq

/-- A raised exception: its class and `str(exc)`. -/
structure PyExc where
  kind : ExcKind
  msg : PyStr
  deriving DecidableEq

/-- What a Python call does: return or raise. -/
abbrev Result (α : Type) := Except PyExc α

/-- Whether a call raised. -/
def Raised {α : Type} (r : Result α) : Prop := ∃ e, r = .error e

/-- A sequence returns when its first part does and its rest does. -/
theorem bind_eq_ok {α β : Type} {x : Result α} {f : α → Result β} {b : β} :
    (x >>= f) = .ok b ↔ ∃ a, x = .ok a ∧ f a = .ok b := by
  cases x <;> simp [bind, Except.bind]

/-- A sequence raises when its first part does or its rest does. -/
theorem bind_eq_error {α β : Type} {x : Result α} {f : α → Result β} {e : PyExc} :
    (x >>= f) = .error e ↔ x = .error e ∨ ∃ a, x = .ok a ∧ f a = .error e := by
  cases x <;> simp [bind, Except.bind]

theorem map_eq_ok {α β : Type} {x : Result α} {f : α → β} {b : β} :
    x.map f = .ok b ↔ ∃ a, x = .ok a ∧ f a = b := by
  cases x <;> simp [Except.map]

theorem toOption_eq_some {α : Type} {r : Result α} {a : α} : r.toOption = some a ↔ r = .ok a := by
  cases r <;> simp [Except.toOption]

theorem not_raised_ok {α : Type} {a : α} : ¬ Raised (.ok a : Result α) := by
  intro hraised
  obtain ⟨e, h⟩ := hraised
  cases h

/-- A call that does not raise returns. -/
theorem not_raised_iff {α : Type} {r : Result α} : ¬ Raised r ↔ ∃ a, r = .ok a := by
  cases r with
  | ok a => simp [not_raised_ok]
  | error e => simp [Raised]

theorem map_injective {α β : Type} {f : α → β} (hf : Function.Injective f) :
    Function.Injective (Except.map f : Result α → Result β) := by
  intro r r' h
  cases r with
  | ok a =>
      cases r' with
      | ok a' => exact congrArg Except.ok (hf (Except.ok.inj h))
      | error e => cases h
  | error e =>
      cases r' with
      | ok a => cases h
      | error e' => exact congrArg Except.error (Except.error.inj h)

/-- A sequence goes on alike from results that its rest does not tell apart. -/
theorem bind_congr_of_map {α β γ : Type} {f : α → β} {g : α → Result γ} {x y : Result α}
    (h : x.map f = y.map f) (hg : ∀ a b, f a = f b → g a = g b) : (x >>= g) = (y >>= g) := by
  cases x with
  | error e =>
      cases y with
      | error e' => rw [Except.error.inj h]
      | ok b => cases h
  | ok a =>
      cases y with
      | error e' => cases h
      | ok b => exact hg a b (Except.ok.inj h)

theorem exists_of_isOk {α : Type} {r : Result α} (h : r.isOk = true) : ∃ a, r = .ok a := by
  cases r with
  | ok a => exact ⟨a, rfl⟩
  | error e => cases h

/-- A chain of `if not check: return False` statements before a final `return
True`: the first check that fails or raises decides. -/
def checkAll : List (Result Bool) → Result Bool
  | [] => .ok true
  | .ok true :: cs => checkAll cs
  | r :: _ => r

@[simp] theorem checkAll_nil : checkAll [] = .ok true := rfl

@[simp] theorem checkAll_pass (cs : List (Result Bool)) :
    checkAll (.ok true :: cs) = checkAll cs := rfl

theorem checkAll_stop {r : Result Bool} (h : r ≠ .ok true) (cs : List (Result Bool)) :
    checkAll (r :: cs) = r := by
  unfold checkAll
  split
  · contradiction
  · next heq =>
      obtain ⟨rfl, -⟩ := List.cons.inj heq
      exact absurd rfl h
  · next heq => exact (List.cons.inj heq).1.symm

/-- The chain returns `True` exactly when every check passes. -/
theorem checkAll_eq_true {cs : List (Result Bool)} :
    checkAll cs = .ok true ↔ ∀ c ∈ cs, c = .ok true := by
  induction cs with
  | nil => simp
  | cons c cs ih =>
      by_cases hc : c = .ok true
      · subst hc
        simp [ih]
      · rw [checkAll_stop hc]
        simp [hc]

end AgentSentinel
