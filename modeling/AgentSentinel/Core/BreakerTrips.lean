import AgentSentinel.Core.BreakerRecovery

/-!
# AgentSentinel.Core.BreakerTrips

When the breaker trips, and what tripping does. It isolates the dependency: for
`reset_timeout` seconds after a trip no call is admitted, whatever earlier calls
report meanwhile. And it happens exactly on consecutive failures.

What "consecutive" means is a matter of history: the failures are counted from the
last success, or from the last time the breaker was closed. `RecordedWorld` keeps
that history beside the breaker, which never reads it.
-/

namespace AgentSentinel

open Lib

namespace CircuitBreaker

/-- One more failure trips the breaker. -/
def TripsOnFailure (b : CircuitBreaker) : Prop :=
  b.state = .halfOpen ∨ b.failureThreshold ≤ b.failures + 1

instance (b : CircuitBreaker) : Decidable b.TripsOnFailure :=
  inferInstanceAs (Decidable (_ ∨ _))

theorem recordFailure_of_trips {b : CircuitBreaker} (h : b.TripsOnFailure) (now : ℚ) :
    b.recordFailure now = ({ b with failures := b.failures + 1 } : CircuitBreaker).trip now :=
  if_pos h

end CircuitBreaker

namespace BreakerWorld

variable {w w' : BreakerWorld}

/-! ### Isolation -/

/-- The step runs `_trip`, also where the breaker is open already. -/
def Trips (w : BreakerWorld) (e : BreakerEvent) : Prop :=
  e.isFailure = true ∧ w.breaker.TripsOnFailure

instance (w : BreakerWorld) : DecidablePred w.Trips :=
  fun _ => inferInstanceAs (Decidable (_ ∧ _))

/-- The breaker tripped at `t` or later, and is open while the timeout that began at
`t` is running. -/
structure ClosedOffSince (t : ℚ) (w : BreakerWorld) : Prop where
  started : t ≤ w.breaker.openedAt
  past : t ≤ w.clock
  isOpen : w.clock < t + w.breaker.resetTimeout → w.breaker.state = .open

theorem closedOffSince_of_trips {e : BreakerEvent} (htrips : w.Trips e)
    (hstep : w.step e = some w') : w'.ClosedOffSince w'.clock := by
  obtain ⟨hfailure, htrips⟩ := htrips
  cases e with
  | fail i =>
      obtain ⟨c, -, -, rfl⟩ := settle_eq_some.mp hstep
      constructor <;> simp [CircuitBreaker.recordFailure_of_trips htrips, CircuitBreaker.trip]
  | _ => cases hfailure

/-- Nothing ends the isolation early: an attempt does not reach the half-open state, a
success does not close an open breaker, and a failure at most restarts the timer. -/
theorem ClosedOffSince.step {t : ℚ} {e : BreakerEvent} (h : w.ClosedOffSince t)
    (hstep : w.step e = some w') : w'.ClosedOffSince t := by
  obtain ⟨hstarted, hpast, hopen⟩ := h
  cases e with
  | advance dt =>
      obtain ⟨hdt, rfl⟩ := step_advance_eq_some.mp hstep
      have hlater : w.clock ≤ w.clock + dt := le_add_of_nonneg_right hdt
      exact ⟨hstarted, hpast.trans hlater, fun hearly => hopen (hlater.trans_lt hearly)⟩
  | attempt =>
      -- The breaker lets a probe in only once the timeout is over.
      have hlate (hen : w.breaker.EntersHalfOpen w.clock) :
          ¬ w.clock < t + w.breaker.resetTimeout := by
        have := hen.2
        intro hearly
        linarith
      rcases step_attempt_cases hstep with ⟨-, rfl⟩ | ⟨hen, -, rfl⟩ | ⟨-, -, rfl⟩ | rfl |
        ⟨hen, -, rfl⟩
      · exact ⟨hstarted, hpast, hopen⟩
      · exact ⟨hstarted, hpast, fun hearly => absurd hearly (hlate hen)⟩
      · exact ⟨hstarted, hpast, hopen⟩
      · exact ⟨hstarted, hpast, hopen⟩
      · exact ⟨hstarted, hpast, fun hearly => absurd hearly (hlate hen)⟩
  | succeed i =>
      obtain ⟨c, -, -, rfl⟩ := settle_eq_some.mp hstep
      rcases w.breaker.recordSuccess_cases with ⟨-, hb⟩ | ⟨hst, -, hb⟩ | ⟨-, -, hb⟩
      · constructor <;> simpa only [hb]
      -- Half-open, so the timeout is over.
      · refine ⟨by simpa only [hb], hpast, fun hearly => ?_⟩
        simp only [hb] at hearly
        rw [hopen hearly] at hst
        cases hst
      · constructor <;> simpa only [hb]
  | fail i =>
      obtain ⟨c, -, -, rfl⟩ := settle_eq_some.mp hstep
      rcases w.breaker.recordFailure_cases w.clock with ⟨-, hb⟩ | ⟨-, -, hb⟩
      · constructor <;> simp [hb, CircuitBreaker.trip, hpast]
      · constructor <;> simpa only [hb]
  | cancel i =>
      obtain ⟨c, -, -, rfl⟩ := settle_eq_some.mp hstep
      exact ⟨hstarted, hpast, hopen⟩

/-- A breaker with a budget of probes that refuses a call keeps its state. -/
theorem enterCall_of_refused {b : CircuitBreaker} {now : ℚ} (hb : 1 ≤ b.halfOpenProbes)
    (h : ¬ b.Admits now) :
    (∃ e, b.enterCall now = (.error e, b)) ∧ ¬ b.EntersHalfOpen now := by
  rw [CircuitBreaker.admits_iff, not_or, not_or] at h
  obtain ⟨hnotClosed, hnoProbe, hfull⟩ := h
  have hwait : ¬ b.EntersHalfOpen now := fun hen => hnoProbe ⟨hen, by omega⟩
  rcases b.enterCall_cases now with ⟨hst, -⟩ | ⟨hen, -⟩ | ⟨hst, hfree, -⟩ | ⟨⟨e, ha, -⟩, -⟩ |
    ⟨hen, -⟩
  · exact absurd hst hnotClosed
  · exact absurd hen hwait
  · exact absurd ⟨hst, hfree⟩ hfull
  · exact ⟨⟨e, ha⟩, hwait⟩
  · exact absurd hen hwait

theorem step_attempt_of_refused (hb : 1 ≤ w.breaker.halfOpenProbes)
    (h : ¬ w.breaker.Admits w.clock) : w.step .attempt = some w := by
  obtain ⟨⟨e, ha⟩, hwait⟩ := enterCall_of_refused hb h
  simp only [BreakerWorld.step, ha, nextEpisode, if_neg hwait]

/-- What it means that the breaker isolates the dependency: after a trip no call is
admitted until the timeout is over, and a refused call changes nothing. -/
def Isolates (b : CircuitBreaker) : Prop :=
  (∀ w₀ e w₁ w, b.runs.Reachable w₀ → b.runs.step w₀ e w₁ → w₀.Trips e →
    (b.runs.startingAt w₁).Reachable w → w.clock < w₁.clock + b.resetTimeout →
      ¬ w.breaker.Admits w.clock) ∧
  ∀ w, b.runs.Reachable w → ¬ w.breaker.Admits w.clock →
    (w.breaker.enterCall w.clock).2 = w.breaker ∧ w.step .attempt = some w

/-- **Isolation.** -/
theorem isolates_dependency (b : CircuitBreaker) (hb : 1 ≤ b.halfOpenProbes) : Isolates b := by
  constructor
  · intro w₀ e w₁ w hr₀ htrip htrips hr hearly hadmits
    have hconfig₁ := config_of_reachable (hr₀.step htrip)
    have hinv : w.ClosedOffSince w₁.clock ∧ w.breaker.resetTimeout = b.resetTimeout := by
      refine hr.invariant (I := fun w =>
        w.ClosedOffSince w₁.clock ∧ w.breaker.resetTimeout = b.resetTimeout) ?_ ?_
      · intro w hw
        obtain rfl : w = w₁ := hw
        exact ⟨closedOffSince_of_trips htrips htrip, hconfig₁.2⟩
      · intro w e w' _ hI hstep
        exact ⟨hI.1.step hstep, (step_config hstep).2.trans hI.2⟩
    obtain ⟨hclosedOff, htimeout⟩ := hinv
    have hopen := hclosedOff.isOpen (htimeout.symm ▸ hearly)
    -- Open, and with the timer still running: neither way in.
    rcases CircuitBreaker.admits_iff.mp hadmits with hst | ⟨hen, -⟩ | ⟨hst, -⟩
    · rw [hopen] at hst
      cases hst
    · have hover := hen.2
      have hstarted := hclosedOff.started
      linarith
    · rw [hopen] at hst
      cases hst
  · intro w hr hrefused
    have hprobes : 1 ≤ w.breaker.halfOpenProbes := (config_of_reachable hr).1.symm ▸ hb
    obtain ⟨⟨e, ha⟩, -⟩ := enterCall_of_refused hprobes hrefused
    exact ⟨by rw [ha], step_attempt_of_refused hprobes hrefused⟩

theorem isolates_dependency_default : Isolates {} := isolates_dependency {} (by decide)

end BreakerWorld

/-! ### Consecutive failures -/

/-- What the history keeps of a run. -/
inductive BreakerMark
  | failed
  | succeeded
  | closed
  deriving DecidableEq

/-- The breaker with its history, the latest mark first. -/
structure RecordedWorld where
  world : BreakerWorld
  history : List BreakerMark
  deriving DecidableEq

/-- What a step adds to the history: the completion, and that the breaker has been
closed by it. -/
def BreakerEvent.marks (w : BreakerWorld) (w' : BreakerWorld) (e : BreakerEvent) :
    List BreakerMark :=
  let closed := if w.breaker.state ≠ .closed ∧ w'.breaker.state = .closed then [.closed] else []
  match e with
  | .succeed _ => closed ++ [.succeeded]
  | .fail _ => closed ++ [.failed]
  | _ => closed

/-- The failing completions since the later of the last success and the last time the
breaker was closed. -/
def consecutiveFailures (history : List BreakerMark) : ℕ :=
  (history.takeWhile (· = .failed)).length

@[simp] theorem consecutiveFailures_failed (history : List BreakerMark) :
    consecutiveFailures (.failed :: history) = consecutiveFailures history + 1 := by
  simp [consecutiveFailures]

@[simp] theorem consecutiveFailures_succeeded (history : List BreakerMark) :
    consecutiveFailures (.succeeded :: history) = 0 := by
  simp [consecutiveFailures]

@[simp] theorem consecutiveFailures_closed (history : List BreakerMark) :
    consecutiveFailures (.closed :: history) = 0 := by
  simp [consecutiveFailures]

theorem BreakerEvent.marks_of_same_state {w w' : BreakerWorld} {e : BreakerEvent}
    (h : w'.breaker.state = w.breaker.state) :
    e.marks w w' = match e with
      | .succeed _ => [.succeeded]
      | .fail _ => [.failed]
      | _ => [] := by
  have hno : ¬ (w.breaker.state ≠ .closed ∧ w'.breaker.state = .closed) :=
    fun hboth => hboth.1 (h ▸ hboth.2)
  cases e <;> simp [marks, if_neg hno]

namespace RecordedWorld

variable {b : CircuitBreaker} {r r' : RecordedWorld}

def step (r : RecordedWorld) (e : BreakerEvent) : Option RecordedWorld :=
  (r.world.step e).map fun w' => ⟨w', e.marks r.world w' ++ r.history⟩

/-- The runs of calls on the breaker `b`, recorded. A breaker is closed when it is
created. -/
def runs (b : CircuitBreaker) : TransitionSystem RecordedWorld BreakerEvent where
  init r := ∃ clock, r = ⟨b.world clock, [.closed]⟩
  step r e r' := r.step e = some r'

theorem step_eq_some {e : BreakerEvent} : r.step e = some r' ↔
    r.world.step e = some r'.world ∧ r'.history = e.marks r.world r'.world ++ r.history := by
  obtain ⟨w', history'⟩ := r'
  simp only [step, Option.map_eq_some_iff, mk.injEq]
  constructor
  · intro h
    obtain ⟨w'', hstep, rfl, rfl⟩ := h
    exact ⟨hstep, rfl⟩
  · intro h
    exact ⟨w', h.1, rfl, h.2.symm⟩

/-- Recording changes nothing about the runs. -/
theorem exists_recorded_iff {w : BreakerWorld} :
    (∃ r, (runs b).Reachable r ∧ r.world = w) ↔ b.runs.Reachable w := by
  constructor
  · intro h
    obtain ⟨r, hr, rfl⟩ := h
    refine hr.invariant (I := fun r => b.runs.Reachable r.world) ?_ ?_
    · intro r hinit
      obtain ⟨clock, rfl⟩ := hinit
      exact .init ⟨clock, rfl⟩
    · intro r e r' _ ih hstep
      exact ih.step (step_eq_some.mp hstep).1
  · intro h
    induction h with
    | init hw =>
        obtain ⟨clock, rfl⟩ := hw
        exact ⟨⟨b.world clock, [.closed]⟩, .init ⟨clock, rfl⟩, rfl⟩
    | @step w w' e _ hstep ih =>
        obtain ⟨r, hr, rfl⟩ := ih
        have hnext : r.step e = some ⟨w', e.marks r.world w' ++ r.history⟩ :=
          step_eq_some.mpr ⟨hstep, rfl⟩
        exact ⟨_, hr.step hnext, rfl⟩

/-- What a step can do to the closed state: nothing, clear the counter, count a
failure, or trip. All other steps begin and end outside of it. -/
theorem step_cases {e : BreakerEvent} (hstep : r.step e = some r') :
    r'.world.breaker.failureThreshold = r.world.breaker.failureThreshold ∧
    ((e.isFailure = false ∧ r'.world.breaker = r.world.breaker ∧ r'.history = r.history) ∨
    (e.isFailure = false ∧ r'.world.breaker.state = .closed ∧ r'.world.breaker.failures = 0 ∧
      consecutiveFailures r'.history = 0) ∨
    (e.isFailure = true ∧ r'.world.breaker.state = r.world.breaker.state ∧
      r.world.breaker.failures + 1 < r.world.breaker.failureThreshold ∧
      r'.world.breaker.failures = r.world.breaker.failures + 1 ∧
      r'.history = .failed :: r.history) ∨
    (e.isFailure = true ∧ r'.world.breaker.state = .open ∧ r.world.breaker.TripsOnFailure ∧
      r'.history = .failed :: r.history) ∨
    (r.world.breaker.state ≠ .closed ∧ r'.world.breaker.state ≠ .closed)) := by
  obtain ⟨w, history⟩ := r
  obtain ⟨w', history'⟩ := r'
  obtain ⟨hstep, hmarks⟩ := step_eq_some.mp hstep
  simp only at hstep hmarks ⊢
  cases e with
  | advance dt =>
      obtain ⟨-, rfl⟩ := BreakerWorld.step_advance_eq_some.mp hstep
      refine ⟨rfl, Or.inl ⟨rfl, rfl, ?_⟩⟩
      rw [hmarks, BreakerEvent.marks_of_same_state (by rfl)]
      rfl
  | attempt =>
      -- An attempt marks the history only by moving the breaker to half-open.
      have hsame (hb : w'.breaker = w.breaker) : history' = history := by
        rw [hmarks, BreakerEvent.marks_of_same_state (by rw [hb])]
        rfl
      rcases BreakerWorld.step_attempt_cases hstep with ⟨-, rfl⟩ | ⟨hen, -, rfl⟩ | ⟨hst, -, rfl⟩ |
        rfl | ⟨hen, -, rfl⟩
      · exact ⟨rfl, Or.inl ⟨rfl, rfl, hsame rfl⟩⟩
      · exact ⟨rfl, Or.inr (Or.inr (Or.inr (Or.inr ⟨by simp [hen.1], by simp⟩)))⟩
      · exact ⟨rfl, Or.inr (Or.inr (Or.inr (Or.inr ⟨by simp [hst], by simp [hst]⟩)))⟩
      · exact ⟨rfl, Or.inl ⟨rfl, rfl, hsame rfl⟩⟩
      · exact ⟨rfl, Or.inr (Or.inr (Or.inr (Or.inr ⟨by simp [hen.1], by simp⟩)))⟩
  | succeed i =>
      obtain ⟨c, -, -, rfl⟩ := BreakerWorld.settle_eq_some.mp hstep
      rcases w.breaker.recordSuccess_cases with ⟨hst, hb⟩ | ⟨hst, -, hb⟩ | ⟨hst, -, hb⟩
      · refine ⟨by simp only [hb], ?_⟩
        rw [BreakerEvent.marks_of_same_state (by simp only [hb])] at hmarks
        by_cases hclosed : w.breaker.state = .closed
        · exact Or.inr (Or.inl ⟨rfl, by simp [hb, hclosed], by simp [hb], by simp [hmarks]⟩)
        · exact Or.inr (Or.inr (Or.inr (Or.inr ⟨hclosed, by simpa [hb] using hclosed⟩)))
      · refine ⟨by simp only [hb], Or.inr (Or.inl ⟨rfl, by simp [hb], by simp [hb], ?_⟩)⟩
        simp [hmarks, BreakerEvent.marks, hst, hb]
      · refine ⟨by simp only [hb], ?_⟩
        exact Or.inr (Or.inr (Or.inr (Or.inr ⟨by simp [hst], by simp [hb, hst]⟩)))
  | fail i =>
      obtain ⟨c, -, -, rfl⟩ := BreakerWorld.settle_eq_some.mp hstep
      rcases w.breaker.recordFailure_cases w.clock with ⟨htrips, hb⟩ | ⟨hst, hfew, hb⟩
      · refine ⟨by simp [hb, CircuitBreaker.trip], ?_⟩
        have hopen : (w.breaker.recordFailure w.clock).state = .open := by
          simp [hb, CircuitBreaker.trip]
        refine Or.inr (Or.inr (Or.inr (Or.inl ⟨rfl, hopen, htrips, ?_⟩)))
        simp [hmarks, BreakerEvent.marks, hb, CircuitBreaker.trip]
      · refine ⟨by simp only [hb], Or.inr (Or.inr (Or.inl ⟨rfl, by simp only [hb], hfew, ?_⟩))⟩
        rw [BreakerEvent.marks_of_same_state (by simp only [hb])] at hmarks
        exact ⟨by simp only [hb], hmarks⟩
  | cancel i =>
      obtain ⟨c, -, -, rfl⟩ := BreakerWorld.settle_eq_some.mp hstep
      refine ⟨rfl, Or.inl ⟨rfl, rfl, ?_⟩⟩
      rw [hmarks, BreakerEvent.marks_of_same_state (by rfl)]
      rfl

/-- While the breaker is closed its counter is the number of consecutive failures, and
below the threshold. -/
def CountsFailures (r : RecordedWorld) : Prop :=
  r.world.breaker.state = .closed →
    r.world.breaker.failures = consecutiveFailures r.history ∧
      (r.world.breaker.failures : ℤ) < r.world.breaker.failureThreshold

/-- The breaker leaves the closed state exactly by the failure that makes the number of
consecutive failures reach the threshold. -/
def TripsAtThreshold (r : RecordedWorld) (e : BreakerEvent) (r' : RecordedWorld) : Prop :=
  r.world.breaker.state = .closed → (r'.world.breaker.state ≠ .closed ↔
    e.isFailure = true ∧
      (consecutiveFailures r'.history : ℤ) = r.world.breaker.failureThreshold)

/-- The counter stays right, through open and half-open episodes: what is counted there
is dropped when the breaker is closed again. -/
theorem CountsFailures.step {e : BreakerEvent} (h : r.CountsFailures)
    (hthreshold : 1 ≤ r.world.breaker.failureThreshold) (hstep : r.step e = some r') :
    r'.CountsFailures := by
  intro hclosed
  obtain ⟨hconfig, hcases⟩ := step_cases hstep
  rw [hconfig]
  rcases hcases with ⟨-, hb, hh⟩ | ⟨-, -, hzero, hcount⟩ | ⟨-, hst, hfew, hone, hh⟩ |
    ⟨-, hopen, -⟩ | ⟨-, hno⟩
  · rw [hb, hh]
    exact h (hb ▸ hclosed)
  · rw [hzero, hcount]
    exact ⟨rfl, by omega⟩
  · obtain ⟨hcount, -⟩ := h (hst ▸ hclosed)
    rw [hone, hh, consecutiveFailures_failed, hcount]
    exact ⟨rfl, by omega⟩
  · rw [hopen] at hclosed
    cases hclosed
  · exact absurd hclosed hno

theorem CountsFailures.tripsAtThreshold {e : BreakerEvent} (h : r.CountsFailures)
    (hstep : r.step e = some r') : r.TripsAtThreshold e r' := by
  intro hclosed
  obtain ⟨hcount, hbelow⟩ := h hclosed
  obtain ⟨-, ⟨hno, hb, -⟩ | ⟨hno, hst, -⟩ | ⟨-, hst, hfew, -, hh⟩ | ⟨hyes, hopen, htrips, hh⟩ |
    ⟨hno, -⟩⟩ := step_cases hstep
  · simp [hno, hb, hclosed]
  · simp [hno, hst]
  -- One more failure, but not the one.
  · rw [hst, hh, consecutiveFailures_failed, ← hcount]
    refine iff_of_false (fun hleft => hleft hclosed) fun hreached => ?_
    have := hreached.2
    omega
  · rw [hopen, hh, consecutiveFailures_failed, ← hcount]
    refine iff_of_true (by decide) ⟨hyes, ?_⟩
    rcases htrips with hhalf | hmany
    · rw [hclosed] at hhalf
      cases hhalf
    · omega
  · exact absurd hclosed hno

/-- **Consecutive failures.** In every run the counter of a closed breaker is the number
of consecutive failures and below the threshold, and the breaker leaves the closed state
at the failure that reaches it. -/
theorem trips_on_consecutive_failures {b : CircuitBreaker} (hfresh : b.Fresh)
    (hthreshold : 1 ≤ b.failureThreshold) (hr : (runs b).Reachable r) :
    r.CountsFailures ∧ ∀ e r', (runs b).step r e r' → r.TripsAtThreshold e r' := by
  have hinv : r.CountsFailures ∧ r.world.breaker.failureThreshold = b.failureThreshold := by
    refine hr.invariant (I := fun r =>
      r.CountsFailures ∧ r.world.breaker.failureThreshold = b.failureThreshold) ?_ ?_
    · intro r hinit
      obtain ⟨clock, rfl⟩ := hinit
      have hzero : b.failures = 0 := hfresh.2.1
      refine ⟨fun _ => ?_, rfl⟩
      rw [consecutiveFailures_closed]
      refine ⟨hzero, ?_⟩
      simp only [CircuitBreaker.world, hzero]
      omega
    · intro r e r' _ hI hstep
      obtain ⟨hcounts, hconfig⟩ := hI
      exact ⟨hcounts.step (hconfig ▸ hthreshold) hstep, (step_cases hstep).1.trans hconfig⟩
  obtain ⟨hcounts, hconfig⟩ := hinv
  exact ⟨hcounts, fun e r' hstep => hcounts.tripsAtThreshold hstep⟩

/-- Four of six calls of the default breaker have failed. -/
theorem trips_on_consecutive_failures_four :
    (⟨BreakerWorld.counted { failures := 4 } 0 4 .outstanding,
        List.replicate 4 .failed ++ [.closed]⟩ : RecordedWorld).CountsFailures ∧
      ∀ e r', (runs {}).step ⟨BreakerWorld.counted { failures := 4 } 0 4 .outstanding,
          List.replicate 4 .failed ++ [.closed]⟩ e r' →
        TripsAtThreshold ⟨BreakerWorld.counted { failures := 4 } 0 4 .outstanding,
          List.replicate 4 .failed ++ [.closed]⟩ e r' :=
  trips_on_consecutive_failures (b := {}) (by decide) (by decide)
    (.replay (fun _ _ _ h => h) (.init ⟨0, rfl⟩) BreakerWorld.sixCalls (by decide +kernel))

end RecordedWorld

end AgentSentinel
