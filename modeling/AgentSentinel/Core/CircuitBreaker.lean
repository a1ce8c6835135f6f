import Mathlib.Algebra.Order.Ring.Rat
import AgentSentinel.Python.Exceptions

/-!
# AgentSentinel.Core.CircuitBreaker

The circuit breaker as its two critical sections. `enterCall` is the block `call`
runs under the lock before it invokes the dependency; `recordSuccess` and
`recordFailure` are the blocks it runs under the lock afterwards. The lock makes
each of them one step, and nothing else touches the state. A completed call
carries nothing over from its admission: the second block acts on whatever state
it finds.
-/

namespace AgentSentinel

inductive CircuitState
  | closed
  | open
  | halfOpen
  deriving DecidableEq

/-- The breaker: its configuration and its state. Times are readings of the
monotonic clock in seconds, here exact rationals where the code has doubles: a
difference of two of them is not rounded. -/
structure CircuitBreaker where
  name : PyStr := py "breaker"
  /-- Consecutive failures that trip the breaker. -/
  failureThreshold : ℤ := 5
  /-- Seconds before the breaker moves from open to half-open. -/
  resetTimeout : ℚ := 30
  /-- Number of probe calls allowed while half-open. -/
  halfOpenProbes : ℤ := 3
  state : CircuitState := .closed
  failures : ℕ := 0
  openedAt : ℚ := 0
  probesInFlight : ℕ := 0
  deriving DecidableEq

namespace CircuitBreaker

def maybeTransitionToHalfOpen (b : CircuitBreaker) (now : ℚ) : CircuitBreaker :=
  if b.state = .open ∧ b.resetTimeout ≤ now - b.openedAt then
    { b with state := .halfOpen, probesInFlight := 0 }
  else b

/-- What a refused call raises. -/
def unavailable (b : CircuitBreaker) (why : PyStr) : PyExc :=
  ⟨.dependencyUnavailable, py "circuit '" ++ b.name ++ py "' " ++ why⟩

/-- The first critical section of `call`: admit the call or refuse it. A refusal
keeps the transition to half-open, if there was one. -/
def enterCall (b : CircuitBreaker) (now : ℚ) : Result Unit × CircuitBreaker :=
  let b := b.maybeTransitionToHalfOpen now
  match b.state with
  | .open => (.error (b.unavailable (py "is open")), b)
  | .halfOpen =>
    if b.halfOpenProbes ≤ b.probesInFlight then
      (.error (b.unavailable (py "half-open probe budget exhausted")), b)
    else (.ok (), { b with probesInFlight := b.probesInFlight + 1 })
  | .closed => (.ok (), b)

def trip (b : CircuitBreaker) (now : ℚ) : CircuitBreaker :=
  { b with state := .open, openedAt := now, probesInFlight := 0 }

def recordFailure (b : CircuitBreaker) (now : ℚ) : CircuitBreaker :=
  let b := { b with failures := b.failures + 1 }
  if b.state = .halfOpen ∨ b.failureThreshold ≤ b.failures then b.trip now else b

def recordSuccess (b : CircuitBreaker) : CircuitBreaker :=
  if b.state = .halfOpen then
    let b := { b with probesInFlight := b.probesInFlight - 1 }
    if b.probesInFlight = 0 then { b with state := .closed, failures := 0 } else b
  else { b with failures := 0 }

/-- `call` with nothing else running in between: admission at `start`, the
dependency's answer, and its record, a failure reading the clock at `finish`. -/
def call {α : Type} (b : CircuitBreaker) (start finish : ℚ) (answer : Result α) :
    Result α × CircuitBreaker :=
  match b.enterCall start with
  | (.error e, b) => (.error e, b)
  | (.ok (), b) =>
    match answer with
    | .error e => (.error e, b.recordFailure finish)
    | .ok a => (.ok a, b.recordSuccess)

/-- As a breaker is created. -/
def Fresh (b : CircuitBreaker) : Prop :=
  b.state = .closed ∧ b.failures = 0 ∧ b.openedAt = 0 ∧ b.probesInFlight = 0

instance (b : CircuitBreaker) : Decidable b.Fresh := inferInstanceAs (Decidable (_ ∧ _))

/-- The breaker lets a call through at `now`. -/
def Admits (b : CircuitBreaker) (now : ℚ) : Prop := (b.enterCall now).1 = .ok ()

instance (b : CircuitBreaker) (now : ℚ) : Decidable (b.Admits now) :=
  inferInstanceAs (Decidable (_ = _))

/-- A call at `now` would start a half-open episode. -/
def EntersHalfOpen (b : CircuitBreaker) (now : ℚ) : Prop :=
  b.state = .open ∧ b.resetTimeout ≤ now - b.openedAt

instance (b : CircuitBreaker) (now : ℚ) : Decidable (b.EntersHalfOpen now) :=
  inferInstanceAs (Decidable (_ ∧ _))

/-! ### What each critical section can do -/

section Steps

variable {b : CircuitBreaker} {now : ℚ}

theorem maybeTransition_of_enters (h : b.EntersHalfOpen now) :
    b.maybeTransitionToHalfOpen now = { b with state := .halfOpen, probesInFlight := 0 } :=
  if_pos h

theorem maybeTransition_of_not_enters (h : ¬ b.EntersHalfOpen now) :
    b.maybeTransitionToHalfOpen now = b :=
  if_neg h

/-- The outcomes of the first critical section: through while closed, through as
a probe, refused without a trace, or refused on entering a half-open state that
has no budget at all. -/
theorem enterCall_cases (b : CircuitBreaker) (now : ℚ) :
    (b.state = .closed ∧ b.enterCall now = (.ok (), b)) ∨
    (b.EntersHalfOpen now ∧ 0 < b.halfOpenProbes ∧
      b.enterCall now = (.ok (), { b with state := .halfOpen, probesInFlight := 1 })) ∨
    (b.state = .halfOpen ∧ b.probesInFlight < b.halfOpenProbes ∧
      b.enterCall now = (.ok (), { b with probesInFlight := b.probesInFlight + 1 })) ∨
    ((∃ e, b.enterCall now = (.error e, b) ∧ e.kind = .dependencyUnavailable) ∧
      ((b.state = .open ∧ ¬ b.EntersHalfOpen now) ∨
        (b.state = .halfOpen ∧ b.halfOpenProbes ≤ b.probesInFlight))) ∨
    (b.EntersHalfOpen now ∧ b.halfOpenProbes ≤ 0 ∧
      ∃ e, b.enterCall now = (.error e, { b with state := .halfOpen, probesInFlight := 0 }) ∧
        e.kind = .dependencyUnavailable) := by
  unfold enterCall
  by_cases henter : b.EntersHalfOpen now
  · rw [maybeTransition_of_enters henter]
    by_cases hbudget : 0 < b.halfOpenProbes
    · right; left
      refine ⟨henter, hbudget, ?_⟩
      simp [hbudget]
    · right; right; right; right
      refine ⟨henter, not_lt.mp hbudget,
        b.unavailable (py "half-open probe budget exhausted"), ?_, rfl⟩
      simp [not_lt.mp hbudget, unavailable]
  · rw [maybeTransition_of_not_enters henter]
    cases hstate : b.state with
    | closed =>
        left
        simp [hstate]
    | «open» =>
        -- Still open: the timeout is not over.
        right; right; right; left
        exact ⟨⟨b.unavailable (py "is open"), by simp only [hstate], rfl⟩, Or.inl ⟨rfl, henter⟩⟩
    | halfOpen =>
        by_cases hbudget : b.probesInFlight < b.halfOpenProbes
        · right; right; left
          refine ⟨rfl, hbudget, ?_⟩
          simp [hstate, not_le.mpr hbudget]
        · right; right; right; left
          exact ⟨⟨b.unavailable (py "half-open probe budget exhausted"),
            by simp only [hstate, if_pos (not_lt.mp hbudget)], rfl⟩,
            Or.inr ⟨rfl, not_lt.mp hbudget⟩⟩

/-- A refusal is reported as the dependency being unavailable. -/
theorem enterCall_error {e : PyExc} (h : (b.enterCall now).1 = .error e) :
    e.kind = .dependencyUnavailable := by
  rcases enterCall_cases b now with ⟨-, ha⟩ | ⟨-, -, ha⟩ | ⟨-, -, ha⟩ | ⟨⟨e', ha, hk⟩, -⟩ |
    ⟨-, -, e', ha, hk⟩
  all_goals rw [ha] at h
  · cases h
  · cases h
  · cases h
  · exact Except.error.inj h ▸ hk
  · exact Except.error.inj h ▸ hk

theorem admits_iff : b.Admits now ↔
    b.state = .closed ∨ (b.EntersHalfOpen now ∧ 0 < b.halfOpenProbes) ∨
      (b.state = .halfOpen ∧ b.probesInFlight < b.halfOpenProbes) := by
  unfold Admits
  rcases enterCall_cases b now with ⟨hst, ha⟩ | ⟨hen, hb, ha⟩ | ⟨hst, hb, ha⟩ |
    ⟨⟨e, ha, -⟩, ⟨hst, hno⟩ | ⟨hst, hb⟩⟩ | ⟨hen, hb, e, ha, -⟩
  · simp [ha, hst]
  · simp [ha, hen, hb]
  · simp [ha, hst, hb]
  · simp [ha, hst, hno]
  · have hno : ¬ b.EntersHalfOpen now := fun hen => by simpa [hst] using hen.1
    simp [ha, hst, hno, hb]
  · simp [ha, hen.1, hb]

/-- What the breaker reports is the dependency's answer where it lets the
call through. -/
theorem call_of_admits {α : Type} {start finish : ℚ} {answer : Result α}
    (h : b.Admits start) : (b.call start finish answer).1 = answer := by
  unfold Admits at h
  unfold call
  rcases hentered : b.enterCall start with ⟨res, b'⟩
  rw [hentered] at h
  obtain rfl : res = .ok () := h
  cases answer <;> rfl

/-- A refused call reports the dependency as unavailable. -/
theorem call_of_refused {α : Type} {start : ℚ} (h : ¬ b.Admits start) (finish : ℚ)
    (answer : Result α) :
    ∃ e, (b.call start finish answer).1 = .error e ∧ e.kind = .dependencyUnavailable := by
  unfold Admits at h
  unfold call
  rcases hentered : b.enterCall start with ⟨res, b'⟩
  cases res with
  | ok u => exact absurd (by rw [hentered]) h
  | error e => exact ⟨e, rfl, enterCall_error (by rw [hentered])⟩

/-- A call that is let through leaves its record on the admitting breaker. -/
theorem call_snd_of_admits {α : Type} {start finish : ℚ} {answer : Result α}
    (h : b.Admits start) :
    (b.call start finish answer).2 =
      match answer with
      | .error _ => (b.enterCall start).2.recordFailure finish
      | .ok _ => (b.enterCall start).2.recordSuccess := by
  unfold Admits at h
  unfold call
  rcases hentered : b.enterCall start with ⟨res, b'⟩
  rw [hentered] at h
  obtain rfl : res = .ok () := h
  cases answer <;> rfl

/-- A failure trips the breaker or is only counted. -/
theorem recordFailure_cases (b : CircuitBreaker) (now : ℚ) :
    ((b.state = .halfOpen ∨ b.failureThreshold ≤ b.failures + 1) ∧
      b.recordFailure now = ({ b with failures := b.failures + 1 } : CircuitBreaker).trip now) ∨
    (b.state ≠ .halfOpen ∧ b.failures + 1 < b.failureThreshold ∧
      b.recordFailure now = { b with failures := b.failures + 1 }) := by
  unfold recordFailure
  by_cases h : b.state = .halfOpen ∨ b.failureThreshold ≤ b.failures + 1
  · exact Or.inl ⟨h, by simp [h]⟩
  · rw [not_or, not_le] at h
    exact Or.inr ⟨h.1, h.2, by simp [h.1, not_le.mpr h.2]⟩

/-- A success outside the half-open state clears the count; inside it gives a
slot back, and closes the breaker when that was the last one. -/
theorem recordSuccess_cases (b : CircuitBreaker) :
    (b.state ≠ .halfOpen ∧ b.recordSuccess = { b with failures := 0 }) ∨
    (b.state = .halfOpen ∧ b.probesInFlight ≤ 1 ∧
      b.recordSuccess = { b with state := .closed, failures := 0, probesInFlight := 0 }) ∨
    (b.state = .halfOpen ∧ 1 < b.probesInFlight ∧
      b.recordSuccess = { b with probesInFlight := b.probesInFlight - 1 }) := by
  unfold recordSuccess
  by_cases hstate : b.state = .halfOpen
  · by_cases hlast : b.probesInFlight ≤ 1
    · have hzero : b.probesInFlight - 1 = 0 := by omega
      exact Or.inr (Or.inl ⟨hstate, hlast, by simp [hstate, hzero]⟩)
    · have hpos : b.probesInFlight - 1 ≠ 0 := by omega
      exact Or.inr (Or.inr ⟨hstate, not_le.mp hlast, by simp [hstate, hpos]⟩)
  · exact Or.inl ⟨hstate, by simp [hstate]⟩

end Steps

end CircuitBreaker

end AgentSentinel
