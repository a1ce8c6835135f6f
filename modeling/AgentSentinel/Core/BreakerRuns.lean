import AgentSentinel.Core.CircuitBreaker
import AgentSentinel.Lib.Transition

/-!
# AgentSentinel.Core.BreakerRuns

Overlapping calls on one circuit breaker, as a transition system. A step is one
critical section of one call, the cancellation of a call that awaits its
dependency, or the clock moving on; every order of steps is a run. Clock and
timeout are rationals, as in the breaker.

Beside the breaker the state keeps the history the properties speak of: how often
the breaker has entered the half-open state (its *episode*), and for each
admitted call in which state it was admitted and how it has ended. The breaker
never reads any of this.
-/

namespace AgentSentinel

open Lib

/-- The state a call was admitted in: closed, or as a probe of an episode. -/
inductive Admission
  | closed
  | probe (episode : ℕ)
  deriving DecidableEq

inductive CallStatus
  | outstanding
  | succeeded
  | failed
  | cancelled
  deriving DecidableEq

/-- An admitted call. -/
structure CallRecord where
  admission : Admission
  status : CallStatus
  deriving DecidableEq

/-- The breaker, the clock and the history. A call is named by its place in
`calls`. -/
structure BreakerWorld where
  breaker : CircuitBreaker
  clock : ℚ
  episode : ℕ
  calls : List CallRecord
  deriving DecidableEq

inductive BreakerEvent
  /-- The clock moves on. -/
  | advance (dt : ℚ)
  /-- A call runs its first critical section. -/
  | attempt
  /-- The dependency returned to call `i`, which records the success. -/
  | succeed (i : ℕ)
  /-- The dependency raised an `Exception` in call `i`, which records the failure. -/
  | fail (i : ℕ)
  /-- Call `i` is cancelled before either handler has run: `CancelledError` is no
  `Exception`, and nothing is recorded. -/
  | cancel (i : ℕ)
  deriving DecidableEq

namespace BreakerWorld

/-- Call `i` is outstanding and ends with status `s`, leaving the breaker as `b`. -/
def settle (w : BreakerWorld) (i : ℕ) (s : CallStatus) (b : CircuitBreaker) :
    Option BreakerWorld :=
  match w.calls[i]? with
  | some c =>
    if c.status = .outstanding then
      some { w with breaker := b, calls := w.calls.set i { c with status := s } }
    else none
  | none => none

/-- The episode after a call is attempted. -/
def nextEpisode (w : BreakerWorld) : ℕ :=
  if w.breaker.EntersHalfOpen w.clock then w.episode + 1 else w.episode

/-- One step; `none` where the event cannot happen. -/
def step (w : BreakerWorld) : BreakerEvent → Option BreakerWorld
  | .advance dt => if 0 ≤ dt then some { w with clock := w.clock + dt } else none
  | .attempt =>
    match w.breaker.enterCall w.clock with
    | (.ok (), b) =>
      let admission := if b.state = .halfOpen then .probe w.nextEpisode else .closed
      some { w with
        breaker := b, episode := w.nextEpisode, calls := w.calls ++ [⟨admission, .outstanding⟩] }
    | (.error _, b) => some { w with breaker := b, episode := w.nextEpisode }
  | .succeed i => w.settle i .succeeded w.breaker.recordSuccess
  | .fail i => w.settle i .failed (w.breaker.recordFailure w.clock)
  | .cancel i => w.settle i .cancelled w.breaker

/-- The number of probes of the current episode with status `s`. -/
def probes (w : BreakerWorld) (s : CallStatus) : ℕ :=
  w.calls.count ⟨.probe w.episode, s⟩

/-- Call `i` was admitted as a probe of the current episode. -/
def IsCurrentProbe (w : BreakerWorld) (i : ℕ) : Prop :=
  w.calls[i]?.map CallRecord.admission = some (.probe w.episode)

instance (w : BreakerWorld) (i : ℕ) : Decidable (w.IsCurrentProbe i) :=
  inferInstanceAs (Decidable (_ = _))

end BreakerWorld

namespace CircuitBreaker

/-- The breaker `b` before its first call. -/
def world (b : CircuitBreaker) (clock : ℚ) : BreakerWorld := ⟨b, clock, 0, []⟩

/-- All runs of calls on the breaker `b`. -/
def runs (b : CircuitBreaker) : TransitionSystem BreakerWorld BreakerEvent where
  init w := ∃ clock, w = b.world clock
  step w e w' := w.step e = some w'

end CircuitBreaker

namespace BreakerWorld

variable {w w' : BreakerWorld}

/-! ### What a step does -/

theorem step_advance_eq_some {dt : ℚ} :
    w.step (.advance dt) = some w' ↔ 0 ≤ dt ∧ w' = { w with clock := w.clock + dt } := by
  simp only [step, Option.ite_none_right_eq_some, Option.some.injEq]
  exact and_congr_right fun _ => eq_comm

theorem settle_eq_some {i : ℕ} {s : CallStatus} {b : CircuitBreaker} :
    w.settle i s b = some w' ↔ ∃ c, w.calls[i]? = some c ∧ c.status = .outstanding ∧
      w' = { w with breaker := b, calls := w.calls.set i { c with status := s } } := by
  unfold settle
  cases w.calls[i]? with
  | none => simp
  | some c =>
      by_cases hc : c.status = .outstanding
      · simp [hc, eq_comm]
      · simp [hc]

/-- The outcomes of an attempted call, as `CircuitBreaker.enterCall_cases` has them. -/
theorem step_attempt_cases (h : w.step .attempt = some w') :
    (w.breaker.state = .closed ∧
      w' = { w with calls := w.calls ++ [⟨.closed, .outstanding⟩] }) ∨
    (w.breaker.EntersHalfOpen w.clock ∧ 0 < w.breaker.halfOpenProbes ∧
      w' = { w with
        breaker := { w.breaker with state := .halfOpen, probesInFlight := 1 },
        episode := w.episode + 1,
        calls := w.calls ++ [⟨.probe (w.episode + 1), .outstanding⟩] }) ∨
    (w.breaker.state = .halfOpen ∧ w.breaker.probesInFlight < w.breaker.halfOpenProbes ∧
      w' = { w with
        breaker := { w.breaker with probesInFlight := w.breaker.probesInFlight + 1 },
        calls := w.calls ++ [⟨.probe w.episode, .outstanding⟩] }) ∨
    w' = w ∨
    (w.breaker.EntersHalfOpen w.clock ∧ w.breaker.halfOpenProbes ≤ 0 ∧
      w' = { w with
        breaker := { w.breaker with state := .halfOpen, probesInFlight := 0 },
        episode := w.episode + 1 }) := by
  -- A new episode begins exactly where the breaker goes to half-open.
  have hstay : ¬ w.breaker.EntersHalfOpen w.clock → w.nextEpisode = w.episode :=
    fun hno => if_neg hno
  have henter : w.breaker.EntersHalfOpen w.clock → w.nextEpisode = w.episode + 1 :=
    fun hyes => if_pos hyes
  have hnotOpen {st : CircuitState} (hst : w.breaker.state = st) (hne : st ≠ .open) :
      ¬ w.breaker.EntersHalfOpen w.clock := fun hyes => hne (hst ▸ hyes.1)
  rcases CircuitBreaker.enterCall_cases w.breaker w.clock with ⟨hst, ha⟩ | ⟨hen, hb, ha⟩ |
    ⟨hst, hb, ha⟩ | ⟨⟨e, ha, -⟩, hwhy⟩ | ⟨hen, hb, e, ha, -⟩
  all_goals simp only [step, ha, Option.some.injEq] at h
  · rw [hstay (hnotOpen hst (by decide))] at h
    exact Or.inl ⟨hst, by simp [← h, hst]⟩
  · rw [henter hen] at h
    exact Or.inr (Or.inl ⟨hen, hb, by simp [← h]⟩)
  · rw [hstay (hnotOpen hst (by decide))] at h
    exact Or.inr (Or.inr (Or.inl ⟨hst, hb, by simp [← h, hst]⟩))
  · have hno : ¬ w.breaker.EntersHalfOpen w.clock := by
      rcases hwhy with ⟨-, hno⟩ | ⟨hst, -⟩
      · exact hno
      · exact hnotOpen hst (by decide)
    rw [hstay hno] at h
    exact Or.inr (Or.inr (Or.inr (Or.inl h.symm)))
  · rw [henter hen] at h
    exact Or.inr (Or.inr (Or.inr (Or.inr ⟨hen, hb, h.symm⟩)))

end BreakerWorld

end AgentSentinel
