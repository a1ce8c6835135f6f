import AgentSentinel.Core.BreakerProbes

/-!
# AgentSentinel.Core.BreakerRecovery

When an open breaker recovers. `reset_timeout` is documented as the seconds before
the breaker moves from open to half-open, so the first call after the timeout
should be let through as a probe.

The timer is the time of the *last* trip, and a failure trips an open breaker once
more when enough failures are counted. Nothing but a failure of a call that was
admitted earlier can reach an open breaker's timer, so the promise is proved for
the runs in which no such failure restarts it.
-/

namespace AgentSentinel

open Lib

/-- A failure is recorded. -/
def BreakerEvent.isFailure : BreakerEvent → Bool
  | fail _ => true
  | _ => false

namespace BreakerWorld

variable {w w' : BreakerWorld}

/-- A call attempted now would be admitted, and as a probe. -/
def AdmitsProbe (w : BreakerWorld) : Prop :=
  ∃ w', w.step .attempt = some w' ∧ w'.breaker.state = .halfOpen ∧
    w'.calls = w.calls ++ [⟨.probe w'.episode, .outstanding⟩]

/-- No call is attempted from `due` on. -/
def NoCallFrom (due : ℚ) (w : BreakerWorld) (e : BreakerEvent) : Prop :=
  e = .attempt → w.clock < due

instance (due : ℚ) (w : BreakerWorld) : DecidablePred (w.NoCallFrom due) :=
  fun _ => inferInstanceAs (Decidable (_ → _))

/-- In the runs of `T`, once the breaker has moved to open at `w₁`, the first call
at or after that time plus `timeout` is admitted as a probe. -/
def RecoversOnTime (T : TransitionSystem BreakerWorld BreakerEvent) (timeout : ℚ) : Prop :=
  ∀ w₀ e w₁ w, T.Reachable w₀ → T.step w₀ e w₁ →
    w₀.breaker.state ≠ .open → w₁.breaker.state = .open →
    ((T.startingAt w₁).restrict (NoCallFrom (w₁.clock + timeout))).Reachable w →
    w₁.clock + timeout ≤ w.clock → w.AdmitsProbe

/-- A failure while the breaker is open is not counted up to the threshold, unless
restarting the timer makes no difference. -/
def SparesTimer (w : BreakerWorld) (e : BreakerEvent) : Prop :=
  e.isFailure = true → w.breaker.state = .open →
    w.breaker.failures + 1 < w.breaker.failureThreshold ∨ w.clock ≤ w.breaker.openedAt ∨
      w.breaker.resetTimeout ≤ 0

instance (w : BreakerWorld) : DecidablePred w.SparesTimer :=
  fun _ => inferInstanceAs (Decidable (_ → _ → _))

/-- An open breaker whose timer was started at `t`. Without a timeout it does not
matter when it was. -/
structure OpenSince (t : ℚ) (w : BreakerWorld) : Prop where
  isOpen : w.breaker.state = .open
  openedAt_le : w.breaker.openedAt ≤ w.clock
  started : t ≤ w.breaker.openedAt
  timer : w.breaker.openedAt = t ∨ w.breaker.resetTimeout ≤ 0

/-- A step into the open state starts the timer. -/
theorem openSince_of_trip {e : BreakerEvent} (hstep : w.step e = some w')
    (hfrom : w.breaker.state ≠ .open) (hto : w'.breaker.state = .open) :
    w'.OpenSince w'.clock := by
  cases e with
  | advance dt =>
      obtain ⟨-, rfl⟩ := step_advance_eq_some.mp hstep
      exact absurd hto hfrom
  | attempt =>
      rcases step_attempt_cases hstep with ⟨-, rfl⟩ | ⟨-, -, rfl⟩ | ⟨-, -, rfl⟩ | rfl | ⟨-, -, rfl⟩
      · exact absurd hto hfrom
      · cases hto
      · exact absurd hto hfrom
      · exact absurd hto hfrom
      · cases hto
  | succeed i =>
      obtain ⟨c, -, -, rfl⟩ := settle_eq_some.mp hstep
      rcases w.breaker.recordSuccess_cases with ⟨-, hb⟩ | ⟨-, -, hb⟩ | ⟨-, -, hb⟩
      · simp only [hb] at hto
        exact absurd hto hfrom
      · simp [hb] at hto
      · simp only [hb] at hto
        exact absurd hto hfrom
  | fail i =>
      obtain ⟨c, -, -, rfl⟩ := settle_eq_some.mp hstep
      rcases w.breaker.recordFailure_cases w.clock with ⟨-, hb⟩ | ⟨-, -, hb⟩
      · constructor <;> simp [hb, CircuitBreaker.trip]
      · simp only [hb] at hto
        exact absurd hto hfrom
  | cancel i =>
      obtain ⟨c, -, -, rfl⟩ := settle_eq_some.mp hstep
      exact absurd hto hfrom

/-- Until a call is attempted after the timeout, nothing such a run does makes the
breaker leave the open state or restarts the timer. -/
theorem OpenSince.step {t : ℚ} {e : BreakerEvent} (h : w.OpenSince t)
    (hstep : w.step e = some w') (hspares : w.SparesTimer e)
    (hearly : w.NoCallFrom (t + w.breaker.resetTimeout) e) : w'.OpenSince t := by
  obtain ⟨hopen, hclock, hstarted, htimer⟩ := h
  cases e with
  | advance dt =>
      obtain ⟨hdt, rfl⟩ := step_advance_eq_some.mp hstep
      exact ⟨hopen, hclock.trans (le_add_of_nonneg_right hdt), hstarted, htimer⟩
  | attempt =>
      -- Too early for a probe, so the call is refused.
      have hwait : ¬ w.breaker.EntersHalfOpen w.clock := by
        intro henters
        have hover := henters.2
        have hlate : w.clock < t + w.breaker.resetTimeout := hearly rfl
        linarith
      rcases step_attempt_cases hstep with ⟨hst, -⟩ | ⟨hen, -⟩ | ⟨hst, -⟩ | rfl | ⟨hen, -⟩
      · rw [hopen] at hst
        cases hst
      · exact absurd hen hwait
      · rw [hopen] at hst
        cases hst
      · exact ⟨hopen, hclock, hstarted, htimer⟩
      · exact absurd hen hwait
  | succeed i =>
      obtain ⟨c, -, -, rfl⟩ := settle_eq_some.mp hstep
      rcases w.breaker.recordSuccess_cases with ⟨-, hb⟩ | ⟨hst, -⟩ | ⟨hst, -⟩
      · constructor <;> simpa only [hb]
      · rw [hopen] at hst
        cases hst
      · rw [hopen] at hst
        cases hst
  | fail i =>
      obtain ⟨c, -, -, rfl⟩ := settle_eq_some.mp hstep
      rcases w.breaker.recordFailure_cases w.clock with ⟨hcount, hb⟩ | ⟨-, -, hb⟩
      -- The breaker trips again; the condition says that this changes nothing.
      · have hcount : w.breaker.failureThreshold ≤ w.breaker.failures + 1 := by
          rcases hcount with hst | hcount
          · rw [hopen] at hst
            cases hst
          · exact hcount
        rcases hspares rfl hopen with hfew | hsame | hzero
        · omega
        · have hnow : w.clock = w.breaker.openedAt := le_antisymm hsame hclock
          constructor <;> simp only [hb, CircuitBreaker.trip, le_refl]
          · exact hnow ▸ hstarted
          · exact hnow ▸ htimer
        · constructor <;> simp only [hb, CircuitBreaker.trip, le_refl]
          · exact hstarted.trans hclock
          · exact Or.inr hzero
      · constructor <;> simpa only [hb]
  | cancel i =>
      obtain ⟨c, -, -, rfl⟩ := settle_eq_some.mp hstep
      exact ⟨hopen, hclock, hstarted, htimer⟩

/-- Once its timeout is over, an open breaker with a budget lets a probe in. -/
theorem OpenSince.admitsProbe {t : ℚ} (h : w.OpenSince t) (hb : 1 ≤ w.breaker.halfOpenProbes)
    (hdue : t + w.breaker.resetTimeout ≤ w.clock) : w.AdmitsProbe := by
  have hover : w.breaker.resetTimeout ≤ w.clock - w.breaker.openedAt := by
    rcases h.timer with htimer | hzero
    · rw [htimer]
      linarith
    · have := h.openedAt_le
      linarith
  have henters : w.breaker.EntersHalfOpen w.clock := ⟨h.isOpen, hover⟩
  rcases CircuitBreaker.enterCall_cases w.breaker w.clock with ⟨hst, -⟩ | ⟨-, -, ha⟩ | ⟨hst, -⟩ |
    ⟨-, ⟨-, hno⟩ | ⟨hst, -⟩⟩ | ⟨-, hnone, -⟩
  · rw [h.isOpen] at hst
    cases hst
  · have hstep : w.step .attempt = some { w with
        breaker := { w.breaker with state := .halfOpen, probesInFlight := 1 },
        episode := w.nextEpisode,
        calls := w.calls ++ [⟨.probe w.nextEpisode, .outstanding⟩] } := by
      simp only [BreakerWorld.step, ha, if_true]
    exact ⟨_, hstep, rfl, rfl⟩
  · rw [h.isOpen] at hst
    cases hst
  · exact absurd henters hno
  · rw [h.isOpen] at hst
    cases hst
  · omega

/-- **Recovery on time, where nothing restarts the timer.** -/
theorem recoversOnTime_of_sparesTimer {b : CircuitBreaker} (hb : 1 ≤ b.halfOpenProbes) :
    RecoversOnTime (b.runs.restrict SparesTimer) b.resetTimeout := by
  intro w₀ e w₁ w hr₀ htrip hfrom hto hr hdue
  have hconfig₁ := config_of_reachable (hr₀.step htrip).of_restrict
  have hinv : w.OpenSince w₁.clock ∧ w.breaker.halfOpenProbes = b.halfOpenProbes ∧
      w.breaker.resetTimeout = b.resetTimeout := by
    refine hr.invariant (I := fun w => w.OpenSince w₁.clock ∧
      w.breaker.halfOpenProbes = b.halfOpenProbes ∧
      w.breaker.resetTimeout = b.resetTimeout) ?_ ?_
    · intro w hw
      obtain rfl : w = w₁ := hw
      exact ⟨openSince_of_trip htrip.1 hfrom hto, hconfig₁⟩
    · intro w e w' _ hI hnext
      obtain ⟨⟨hstep, hspares⟩, hearly⟩ := hnext
      obtain ⟨hsince, hprobes, htimeout⟩ := hI
      have hconfig := step_config hstep
      refine ⟨hsince.step hstep hspares (htimeout ▸ hearly), ?_, ?_⟩
      · exact hconfig.1.trans hprobes
      · exact hconfig.2.trans htimeout
  obtain ⟨hsince, hprobes, htimeout⟩ := hinv
  exact hsince.admitsProbe (hprobes ▸ hb) (htimeout ▸ hdue)

/-- Six calls are admitted and four fail; the failure of call 4 is the one that trips
the breaker. -/
def sixCalls : List BreakerEvent :=
  List.replicate 6 .attempt ++ [.fail 0, .fail 1, .fail 2, .fail 3]

/-- The default breaker after `sixCalls`, and after call 4 has failed as well. -/
def counted (b : CircuitBreaker) (clock : ℚ) (failed : ℕ) (last : CallStatus) : BreakerWorld where
  breaker := b
  clock := clock
  episode := 0
  calls := List.replicate failed ⟨.closed, .failed⟩ ++
    List.replicate (5 - failed) ⟨.closed, .outstanding⟩ ++ [⟨.closed, last⟩]

theorem recoversOnTime_of_sparesTimer_late :
    (counted { state := .open, failures := 0 } 30 5 .succeeded).AdmitsProbe :=
  recoversOnTime_of_sparesTimer (b := {}) (by decide) (counted { failures := 4 } 0 4 .outstanding)
    (.fail 4) (counted { state := .open, failures := 5 } 0 5 .outstanding) _
    (.replay_restrict (fun _ _ _ h => h) ⟨0, rfl⟩ sixCalls (by decide +kernel))
    ⟨(by decide +kernel : BreakerWorld.step _ _ = some _), by decide⟩ (by decide) rfl
    (.replay_restrict (f := fun w e => if w.SparesTimer e then w.step e else none)
      (fun _ _ _ h => (Option.ite_none_right_eq_some.mp h).symm) rfl
      [.advance 20, .succeed 5, .advance 10] (by decide +kernel)) (by decide +kernel)

/-- Call 5 was admitted before the breaker tripped at time 0. Its failure at time 20
restarts the timer, and the call attempted at time 30 is refused. -/
theorem late_failure_postpones_recovery : ¬ ∀ b : CircuitBreaker,
    b.Fresh → 1 ≤ b.failureThreshold → 1 ≤ b.halfOpenProbes →
      RecoversOnTime b.runs b.resetTimeout := by
  intro h
  have hlate := h {} (by decide) (by decide) (by decide)
    (counted { failures := 4 } 0 4 .outstanding) (.fail 4)
    (counted { state := .open, failures := 5 } 0 5 .outstanding)
    (counted { state := .open, failures := 6, openedAt := 20 } 30 5 .failed)
    (.replay (fun _ _ _ h => h) (.init ⟨0, rfl⟩) sixCalls (by decide +kernel))
    (by decide +kernel : BreakerWorld.step _ _ = some _) (by decide) rfl
    (.replay_restrict (fun _ _ _ h => h) rfl [.advance 20, .fail 5, .advance 10]
      (by decide +kernel))
    (by decide +kernel)
  obtain ⟨w', hstep, hprobe, -⟩ := hlate
  have hrefused : (counted { state := .open, failures := 6, openedAt := 20 } 30 5 .failed).step
      .attempt = some (counted { state := .open, failures := 6, openedAt := 20 } 30 5 .failed) := by
    decide +kernel
  rw [hrefused] at hstep
  obtain rfl := Option.some.inj hstep
  cases hprobe

end BreakerWorld

end AgentSentinel
