import AgentSentinel.Core.BreakerProbes

/-!
# AgentSentinel.Core.BreakerSafety

What a half-open episode promises: the breaker closes only after the episode's
probes have succeeded, the episode keeps to its budget of probes, and the breaker
always lets another call through in the end.

None of the three holds in every run. A completed call does not know in which
state it was admitted, so a success of an earlier call gives a probe's slot back,
and a cancelled probe never gives its own back. Each promise is proved for the
runs that stay clear of this, the condition being on the steps of the run, next
to a run of the default breaker that breaks the promise.
-/

namespace AgentSentinel

open Lib

namespace BreakerWorld

variable {w w' : BreakerWorld}

/-! ### A run of the default breaker -/

/-- Six calls are admitted, the first five fail and trip the breaker, and half a
minute passes. Call 5 still waits for its answer. -/
def outage : List BreakerEvent :=
  List.replicate 6 .attempt ++ [.fail 0, .fail 1, .fail 2, .fail 3, .fail 4, .advance 30]

/-- The breaker half-open after `outage`, with `slots` taken and the given calls
after the five that failed. -/
def probing (slots : ℕ) (calls : List CallRecord) : BreakerWorld where
  breaker := { state := .halfOpen, failures := 5, probesInFlight := slots }
  clock := 30
  episode := 1
  calls := List.replicate 5 ⟨.closed, .failed⟩ ++ calls

/-! ### Closing -/

/-- What closing the breaker should mean: a step from half-open to closed happens
only when the episode has admitted a probe and all of its probes have succeeded. -/
def ClosesSafely (w w' : BreakerWorld) : Prop :=
  w.breaker.state = .halfOpen → w'.breaker.state = .closed →
    (∃ c ∈ w'.calls, c.admission = .probe w.episode) ∧
      ∀ c ∈ w'.calls, c.admission = .probe w.episode → c.status = .succeeded

instance (w w' : BreakerWorld) : Decidable (w.ClosesSafely w') :=
  inferInstanceAs (Decidable (_ → _ → _))

/-- While the breaker is half-open, only probes of the current episode succeed. -/
def OwnSuccess (w : BreakerWorld) : BreakerEvent → Prop
  | .succeed i => w.breaker.state = .halfOpen → w.IsCurrentProbe i
  | _ => True

instance (w : BreakerWorld) : DecidablePred w.OwnSuccess := fun e => by
  cases e <;> unfold OwnSuccess <;> infer_instance

/-- With no success from outside, no slot is given back that was not taken. -/
theorem slots_exact {b : CircuitBreaker} (hfresh : b.Fresh)
    (h : (b.runs.restrict OwnSuccess).Reachable w) (hst : w.breaker.state = .halfOpen) :
    w.tally.outstanding + w.tally.cancelled ≤ w.tally.inFlight := by
  refine halfOpen_rule hfresh
    (I := fun w => w.tally.outstanding + w.tally.cancelled ≤ w.tally.inFlight) ?_ h hst
  intro w e w' hr hI hstep hown hopen
  have hpast := (halfOpenInv_of_reachable hfresh hr.of_restrict).past
  rcases halfOpen_step_cases hpast hstep hopen with ⟨ht, -⟩ | ⟨ht, -⟩ | ⟨hst, ht | ⟨-, ht⟩ |
    ⟨i, -, -, -, hout, ht⟩ | ⟨i, rfl, hforeign, -, -⟩ | ⟨i, -, -, hout, ht⟩⟩
  · simp [ht]
  · simp [ht]
  · rw [ht]
    exact hI hst
  · have := hI hst
    simp only [ht]
    omega
  · have := hI hst
    simp only [ht]
    omega
  -- The step the condition rules out: somebody else's success.
  · exact absurd (hown hst) hforeign
  -- A cancelled probe moves between the two counts on the left.
  · have := hI hst
    simp only [ht]
    omega

/-- Only a success that gives the last slot back closes the breaker. -/
theorem closing_step {e : BreakerEvent} (hstep : w.step e = some w')
    (hst : w.breaker.state = .halfOpen) (hclosed : w'.breaker.state = .closed) :
    ∃ i c, e = .succeed i ∧ w.tally.inFlight ≤ 1 ∧ w.calls[i]? = some c ∧
      c.status = .outstanding ∧
      w' = { w with
        breaker := w.breaker.recordSuccess,
        calls := w.calls.set i { c with status := .succeeded } } := by
  cases e with
  | advance dt =>
      obtain ⟨-, rfl⟩ := step_advance_eq_some.mp hstep
      rw [hst] at hclosed
      cases hclosed
  | attempt =>
      rcases step_attempt_cases hstep with ⟨hst', -⟩ | ⟨-, -, rfl⟩ | ⟨-, -, rfl⟩ | rfl | ⟨-, -, rfl⟩
      · rw [hst] at hst'
        cases hst'
      all_goals simp [hst] at hclosed
  | succeed i =>
      obtain ⟨c, hc, hout, hw'⟩ := settle_eq_some.mp hstep
      rcases w.breaker.recordSuccess_cases with ⟨hne, -⟩ | ⟨-, hlast, -⟩ | ⟨-, -, hb⟩
      · exact absurd hst hne
      · exact ⟨i, c, rfl, hlast, hc, hout, hw'⟩
      · rw [hw'] at hclosed
        simp [hb, hst] at hclosed
  | fail i =>
      obtain ⟨c, -, -, rfl⟩ := settle_eq_some.mp hstep
      rcases w.breaker.recordFailure_cases w.clock with ⟨-, hb⟩ | ⟨hne, -⟩
      · simp [hb, CircuitBreaker.trip] at hclosed
      · exact absurd hst hne
  | cancel i =>
      obtain ⟨c, -, -, rfl⟩ := settle_eq_some.mp hstep
      rw [hst] at hclosed
      cases hclosed

/-- A probe of the current episode with some status is counted. -/
theorem probes_pos {c : CallRecord} (hc : c ∈ w.calls)
    (hprobe : c.admission = .probe w.episode) : 0 < w.probes c.status := by
  refine List.count_pos_iff.mpr ?_
  rw [← hprobe]
  exact hc

/-- **Closing safety, where nobody else's success counts.** In every run in which
only probes of the current episode succeed while the breaker is half-open, it
closes only after every probe of the episode has succeeded, and there was one. -/
theorem closesSafely_of_ownSuccess {b : CircuitBreaker} (hfresh : b.Fresh)
    {e : BreakerEvent} (h : (b.runs.restrict OwnSuccess).Reachable w)
    (hstep : (b.runs.restrict OwnSuccess).step w e w') : w.ClosesSafely w' := by
  intro hst hclosed
  obtain ⟨hstep, hown⟩ := hstep
  obtain ⟨i, c, rfl, hlast, hc, hout, hw'⟩ := closing_step hstep hst hclosed
  have hprobe : c.admission = .probe w.episode := by
    simpa [IsCurrentProbe, hc] using hown hst
  obtain ⟨hleft, hrest⟩ := tally_settle_probe _ hc hout hprobe (by decide) hw'
  have hepisode : w'.episode = w.episode := by rw [hw']
  -- The slot given back was the last one, so nothing else of the episode is left.
  have hexact := slots_exact hfresh h hst
  have hfailed := (halfOpenInv_of_reachable hfresh h.of_restrict).noneFailed hst
  have hcount : w.probes .outstanding + w.probes .cancelled ≤ 1 := hexact.trans hlast
  have hnone : w'.probes .outstanding = 0 ∧ w'.probes .failed = 0 ∧ w'.probes .cancelled = 0 := by
    refine ⟨by omega, ?_, ?_⟩
    · rw [hrest .failed (by decide)]
      simpa [tally] using hfailed
    · rw [hrest .cancelled (by decide)]
      simp only [reduceCtorEq, if_false]
      omega
  constructor
  · have hi := (List.getElem?_eq_some_iff.mp hc).1
    refine ⟨{ c with status := .succeeded }, ?_, hprobe⟩
    rw [hw']
    exact List.mem_set hi _
  · intro d hd hd'
    have hpos := probes_pos hd (hepisode ▸ hd')
    cases hstatus : d.status with
    | succeeded => rfl
    | outstanding => rw [hstatus] at hpos; omega
    | failed => rw [hstatus] at hpos; omega
    | cancelled => rw [hstatus] at hpos; omega

theorem closesSafely_of_ownSuccess_probe :
    (probing 1 [⟨.closed, .outstanding⟩, ⟨.probe 1, .outstanding⟩]).ClosesSafely
      { probing 0 [⟨.closed, .outstanding⟩, ⟨.probe 1, .succeeded⟩] with breaker := {} } :=
  closesSafely_of_ownSuccess (b := {}) (e := .succeed 6) (by decide)
    (.replay_restrict (fun _ _ _ h => h) ⟨0, rfl⟩ (outage ++ [.attempt]) (by decide +kernel))
    ⟨(by decide +kernel : BreakerWorld.step _ _ = some _), by decide⟩

/-- Call 5, admitted before the breaker tripped, returns during the probe of the
half-open breaker and closes it. -/
theorem stale_success_closes : ¬ ∀ (b : CircuitBreaker) (w w' : BreakerWorld) (e : BreakerEvent),
    b.Fresh → 1 ≤ b.failureThreshold → 1 ≤ b.halfOpenProbes → b.runs.Reachable w →
      b.runs.step w e w' → w.ClosesSafely w' := by
  intro h
  have hrun : ({} : CircuitBreaker).runs.Reachable
      (probing 1 [⟨.closed, .outstanding⟩, ⟨.probe 1, .outstanding⟩]) :=
    .replay (fun _ _ _ h => h) (.init ⟨0, rfl⟩) (outage ++ [.attempt]) (by decide +kernel)
  have hsafe := h {} _ { probing 0 [⟨.closed, .succeeded⟩, ⟨.probe 1, .outstanding⟩] with
    breaker := {} } (.succeed 5) (by decide) (by decide) (by decide) hrun
      (by decide +kernel : BreakerWorld.step _ _ = some _)
  exact absurd hsafe (by decide +kernel)

/-! ### The budget -/

/-- While the breaker is half-open, a success of a call that is no probe of the
episode comes only when it closes the breaker or can give back the slot of a
cancelled probe. -/
def KeepsSlots (w : BreakerWorld) : BreakerEvent → Prop
  | .succeed i => w.breaker.state = .halfOpen → ¬ w.IsCurrentProbe i →
      w.tally.inFlight ≤ 1 ∨ w.tally.outstanding < w.tally.inFlight
  | _ => True

instance (w : BreakerWorld) : DecidablePred w.KeepsSlots := fun e => by
  cases e <;> unfold KeepsSlots <;> infer_instance

/-- Every outstanding probe then holds a slot. -/
theorem outstanding_le_inFlight {b : CircuitBreaker} (hfresh : b.Fresh)
    (h : (b.runs.restrict KeepsSlots).Reachable w) (hst : w.breaker.state = .halfOpen) :
    w.tally.outstanding ≤ w.tally.inFlight := by
  refine halfOpen_rule hfresh (I := fun w => w.tally.outstanding ≤ w.tally.inFlight) ?_ h hst
  intro w e w' hr hI hstep hkeeps hopen
  have hpast := (halfOpenInv_of_reachable hfresh hr.of_restrict).past
  rcases halfOpen_step_cases hpast hstep hopen with ⟨ht, -⟩ | ⟨ht, -⟩ | ⟨hst, ht | ⟨-, ht⟩ |
    ⟨i, -, -, hmany, hout, ht⟩ | ⟨i, rfl, hforeign, hmany, ht⟩ | ⟨i, -, -, hout, ht⟩⟩
  · simp [ht]
  · simp [ht]
  · rw [ht]
    exact hI hst
  · have := hI hst
    simp only [ht]
    omega
  · have := hI hst
    simp only [ht]
    omega
  -- Somebody else's success: the breaker stays half-open, so some slot was free to give.
  · have := hkeeps hst hforeign
    simp only [ht]
    omega
  · have := hI hst
    simp only [ht]
    omega

/-- **The probe budget**: in every run of such steps at most `half_open_probes`
probes of the episode are outstanding. -/
theorem outstanding_le_budget {b : CircuitBreaker} (hfresh : b.Fresh)
    (hb : 0 ≤ b.halfOpenProbes) (h : (b.runs.restrict KeepsSlots).Reachable w)
    (hst : w.breaker.state = .halfOpen) :
    (w.probes .outstanding : ℤ) ≤ b.halfOpenProbes := by
  have hconfig := halfOpenProbes_of_reachable h.of_restrict
  have hslots := outstanding_le_inFlight hfresh h hst
  have hbudget := (halfOpenInv_of_reachable hfresh h.of_restrict).budget hst (hconfig ▸ hb)
  rw [hconfig] at hbudget
  exact le_trans (Int.ofNat_le.mpr hslots) hbudget

theorem outstanding_le_budget_three :
    ((probing 3 (⟨.closed, .outstanding⟩ :: List.replicate 3 ⟨.probe 1, .outstanding⟩)).probes
      .outstanding : ℤ) ≤ 3 :=
  outstanding_le_budget (b := {}) (by decide) (by decide)
    (.replay_restrict (fun _ _ _ h => h) ⟨0, rfl⟩ (outage ++ List.replicate 3 .attempt)
      (by decide +kernel)) rfl

/-- Call 5 gives back the slot of one of three probes, and a fourth is let in. -/
theorem stale_success_exceeds_budget : ¬ ∀ (b : CircuitBreaker) (w : BreakerWorld),
    b.Fresh → 0 ≤ b.halfOpenProbes → b.runs.Reachable w → w.breaker.state = .halfOpen →
      (w.probes .outstanding : ℤ) ≤ b.halfOpenProbes := by
  intro h
  have hrun : ({} : CircuitBreaker).runs.Reachable
      (probing 3 (⟨.closed, .succeeded⟩ :: List.replicate 4 ⟨.probe 1, .outstanding⟩)) :=
    .replay (fun _ _ _ h => h) (.init ⟨0, rfl⟩)
      (outage ++ [.attempt, .attempt, .attempt, .succeed 5, .attempt]) (by decide +kernel)
  exact absurd (h {} _ (by decide) (by decide) hrun rfl) (by decide +kernel)

/-! ### Progress -/

/-- While the breaker is half-open, the last outstanding probe of the episode is
not cancelled once every slot is taken. -/
def SparesLastProbe (w : BreakerWorld) : BreakerEvent → Prop
  | .cancel i => w.breaker.state = .halfOpen → w.IsCurrentProbe i →
      1 < w.tally.outstanding ∨ w.tally.inFlight < w.breaker.halfOpenProbes
  | _ => True

instance (w : BreakerWorld) : DecidablePred w.SparesLastProbe := fun e => by
  cases e <;> unfold SparesLastProbe <;> infer_instance

/-- A half-open breaker then waits for a probe or has a slot left. -/
theorem waits_or_free {b : CircuitBreaker} (hfresh : b.Fresh) (hb : 1 ≤ b.halfOpenProbes)
    (h : (b.runs.restrict SparesLastProbe).Reachable w) (hst : w.breaker.state = .halfOpen) :
    0 < w.tally.outstanding ∨ (w.tally.inFlight : ℤ) < w.breaker.halfOpenProbes := by
  refine halfOpen_rule hfresh (I := fun w =>
    0 < w.tally.outstanding ∨ (w.tally.inFlight : ℤ) < w.breaker.halfOpenProbes) ?_ h hst
  intro w e w' hr hI hstep hspares hopen
  have hinv := halfOpenInv_of_reachable hfresh hr.of_restrict
  have hconfig := halfOpenProbes_of_reachable hr.of_restrict
  have hbudget := fun hst => hinv.budget hst (by omega)
  rw [step_halfOpenProbes hstep]
  rcases halfOpen_step_cases hinv.past hstep hopen with ⟨ht, -⟩ | ⟨-, hb'⟩ | ⟨hst, ht | ⟨-, ht⟩ |
    ⟨i, -, -, hmany, -, ht⟩ | ⟨i, -, -, hmany, ht⟩ | ⟨i, rfl, hown, hout, ht⟩⟩
  · simp [ht]
  · omega
  · rw [ht]
    exact hI hst
  · simp [ht]
  -- Whoever succeeds, a slot is given back, and the budget was kept before.
  · have := hbudget hst
    simp only [ht]
    omega
  · have := hbudget hst
    simp only [ht]
    omega
  · have := hspares hst hown
    simp only [ht]
    omega

/-- **The breaker never wedges** in a run of such steps: with no call outstanding
and, if it is open, the timeout over, the next call is admitted. -/
theorem admits_of_idle {b : CircuitBreaker} (hfresh : b.Fresh) (hb : 1 ≤ b.halfOpenProbes)
    (h : (b.runs.restrict SparesLastProbe).Reachable w)
    (hidle : ∀ c ∈ w.calls, c.status ≠ .outstanding)
    (htimeout : w.breaker.state = .open →
      w.breaker.resetTimeout ≤ w.clock - w.breaker.openedAt) :
    w.breaker.Admits w.clock := by
  have hconfig := halfOpenProbes_of_reachable h.of_restrict
  have hnone : w.tally.outstanding = 0 :=
    List.count_eq_zero.mpr fun hmem => hidle _ hmem rfl
  cases hst : w.breaker.state with
  | closed => exact CircuitBreaker.admits_iff.mpr (Or.inl hst)
  | «open» =>
      exact CircuitBreaker.admits_iff.mpr (Or.inr (Or.inl ⟨⟨hst, htimeout hst⟩, by omega⟩))
  | halfOpen =>
      rcases waits_or_free hfresh hb h hst with hout | hfree
      · omega
      · exact CircuitBreaker.admits_iff.mpr (Or.inr (Or.inr ⟨hst, hfree⟩))

theorem admits_of_idle_cancelled :
    (probing 1 [⟨.closed, .cancelled⟩, ⟨.probe 1, .cancelled⟩,
      ⟨.probe 1, .succeeded⟩]).breaker.Admits 30 :=
  admits_of_idle (b := {}) (by decide) (by decide)
    (.replay_restrict (fun _ _ _ h => h) ⟨0, rfl⟩
      (outage ++ [.cancel 5, .attempt, .attempt, .cancel 6, .succeed 7]) (by decide +kernel))
    (by decide) (by decide)

/-- Three cancelled probes keep the three slots for good. -/
theorem cancelled_probes_wedge : ¬ ∀ (b : CircuitBreaker) (w : BreakerWorld),
    b.Fresh → 1 ≤ b.halfOpenProbes → b.runs.Reachable w →
      (∀ c ∈ w.calls, c.status ≠ .outstanding) →
      (w.breaker.state = .open → w.breaker.resetTimeout ≤ w.clock - w.breaker.openedAt) →
      w.breaker.Admits w.clock := by
  intro h
  have hrun : ({} : CircuitBreaker).runs.Reachable
      (probing 3 (⟨.closed, .cancelled⟩ :: List.replicate 3 ⟨.probe 1, .cancelled⟩)) :=
    .replay (fun _ _ _ h => h) (.init ⟨0, rfl⟩)
      (outage ++ [.cancel 5, .attempt, .attempt, .attempt, .cancel 6, .cancel 7, .cancel 8])
      (by decide +kernel)
  exact absurd (h {} _ (by decide) (by decide) hrun (by decide) (by decide)) (by decide +kernel)

end BreakerWorld

end AgentSentinel
