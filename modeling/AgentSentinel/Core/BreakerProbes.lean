import AgentSentinel.Core.BreakerRuns

/-!
# AgentSentinel.Core.BreakerProbes

The accounting of half-open probes. `_probes_in_flight` is meant to count the
outstanding probes of the episode. It is compared here with the true numbers,
which the history has: admitting a probe raises both, but a success gives a slot
back *whoever's it was*, and a cancelled probe gives none back. All invariants
come from one lemma that says what a step into the half-open state does to these
numbers (`halfOpen_step_cases`).
-/

namespace AgentSentinel

open Lib

/-- The slot counter of the breaker beside the probes of the current episode that
are outstanding, have failed and were cancelled. -/
structure ProbeTally where
  inFlight : ℕ
  outstanding : ℕ
  failed : ℕ
  cancelled : ℕ

namespace BreakerWorld

variable {w w' : BreakerWorld}

def tally (w : BreakerWorld) : ProbeTally where
  inFlight := w.breaker.probesInFlight
  outstanding := w.probes .outstanding
  failed := w.probes .failed
  cancelled := w.probes .cancelled

/-- No call is tagged with an episode still to come. -/
def PastEpisodes (w : BreakerWorld) : Prop :=
  ∀ c ∈ w.calls, ∀ n, c.admission = .probe n → n ≤ w.episode

/-! ### Counting the probes of an episode -/

/-- Replacing a member trades its place in the counts. -/
theorem count_set_add {calls : List CallRecord} {i : ℕ} {c : CallRecord}
    (hc : calls[i]? = some c) (c' x : CallRecord) :
    (calls.set i c').count x + (if c = x then 1 else 0) =
      calls.count x + if c' = x then 1 else 0 := by
  obtain ⟨hi, hget⟩ := List.getElem?_eq_some_iff.mp hc
  -- The library's count subtracts what is replaced, which is sound as it is counted.
  rw [List.count_set hi, hget]
  simp only [beq_iff_eq]
  by_cases hx : c = x
  · have hpos : 0 < calls.count x := List.count_pos_iff.mpr (hx ▸ hget ▸ List.getElem_mem hi)
    simp only [if_pos hx]
    omega
  · simp only [if_neg hx]
    omega

/-- A probe of the current episode that ends moves from one count to another. -/
theorem tally_settle_probe {i : ℕ} {c : CallRecord} {s : CallStatus} (b : CircuitBreaker)
    (hc : w.calls[i]? = some c) (hout : c.status = .outstanding)
    (hprobe : c.admission = .probe w.episode) (hs : s ≠ .outstanding)
    (hw' : w' = { w with breaker := b, calls := w.calls.set i { c with status := s } }) :
    w'.probes .outstanding + 1 = w.probes .outstanding ∧
      ∀ t, t ≠ .outstanding → w'.probes t = w.probes t + if s = t then 1 else 0 := by
  subst hw'
  have hcx (t : CallStatus) : c = ⟨.probe w.episode, t⟩ ↔ t = .outstanding := by
    cases c
    simp_all [eq_comm]
  have hcount (t : CallStatus) :=
    count_set_add hc { c with status := s } ⟨.probe w.episode, t⟩
  simp only [hcx, hprobe, CallRecord.mk.injEq, true_and] at hcount
  refine ⟨?_, fun t ht => ?_⟩
  · have h := hcount .outstanding
    simp only [if_true, if_neg hs] at h
    simpa [probes, hprobe] using h
  · have h := hcount t
    rw [if_neg ht] at h
    simpa [probes, hprobe] using h

/-- Any other call that ends leaves the counts alone. -/
theorem probes_settle_other {i : ℕ} {c : CallRecord} {s : CallStatus} (b : CircuitBreaker)
    (hc : w.calls[i]? = some c) (hprobe : c.admission ≠ .probe w.episode)
    (hw' : w' = { w with breaker := b, calls := w.calls.set i { c with status := s } })
    (t : CallStatus) : w'.probes t = w.probes t := by
  subst hw'
  have hcount := count_set_add hc { c with status := s } ⟨.probe w.episode, t⟩
  have hne : c ≠ ⟨.probe w.episode, t⟩ := fun h => hprobe (by rw [h])
  have hne' : ({ c with status := s } : CallRecord) ≠ ⟨.probe w.episode, t⟩ :=
    fun h => hprobe (congrArg CallRecord.admission h)
  simp only [if_neg hne, if_neg hne', add_zero] at hcount
  exact hcount

/-- No call belongs to an episode that is only about to begin. -/
theorem PastEpisodes.count_next (h : w.PastEpisodes) (t : CallStatus) :
    w.calls.count ⟨.probe (w.episode + 1), t⟩ = 0 := by
  rw [List.count_eq_zero]
  intro hmem
  have := h _ hmem _ rfl
  omega

/-! ### Bookkeeping facts of every run -/

/-- No step changes the configuration. -/
theorem step_config {e : BreakerEvent} (h : w.step e = some w') :
    w'.breaker.halfOpenProbes = w.breaker.halfOpenProbes ∧
      w'.breaker.resetTimeout = w.breaker.resetTimeout := by
  cases e with
  | advance dt =>
      obtain ⟨-, rfl⟩ := step_advance_eq_some.mp h
      exact ⟨rfl, rfl⟩
  | attempt =>
      rcases step_attempt_cases h with ⟨-, rfl⟩ | ⟨-, -, rfl⟩ | ⟨-, -, rfl⟩ | rfl | ⟨-, -, rfl⟩ <;>
        exact ⟨rfl, rfl⟩
  | succeed i =>
      obtain ⟨c, -, -, rfl⟩ := settle_eq_some.mp h
      rcases w.breaker.recordSuccess_cases with ⟨-, hb⟩ | ⟨-, -, hb⟩ | ⟨-, -, hb⟩ <;>
        simp only [hb, and_self]
  | fail i =>
      obtain ⟨c, -, -, rfl⟩ := settle_eq_some.mp h
      rcases w.breaker.recordFailure_cases w.clock with ⟨-, hb⟩ | ⟨-, -, hb⟩ <;>
        simp only [hb, CircuitBreaker.trip, and_self]
  | cancel i =>
      obtain ⟨c, -, -, rfl⟩ := settle_eq_some.mp h
      exact ⟨rfl, rfl⟩

theorem step_halfOpenProbes {e : BreakerEvent} (h : w.step e = some w') :
    w'.breaker.halfOpenProbes = w.breaker.halfOpenProbes :=
  (step_config h).1

theorem PastEpisodes.settle {i : ℕ} {s : CallStatus} {b : CircuitBreaker}
    (h : w.PastEpisodes) (hstep : w.settle i s b = some w') : w'.PastEpisodes := by
  obtain ⟨c, hc, -, rfl⟩ := settle_eq_some.mp hstep
  intro d hd n hn
  rcases List.mem_or_eq_of_mem_set hd with hd | rfl
  · exact h d hd n hn
  · exact h c (List.mem_of_getElem? hc) n hn

theorem PastEpisodes.step {e : BreakerEvent} (h : w.PastEpisodes)
    (hstep : w.step e = some w') : w'.PastEpisodes := by
  have happend {m : ℕ} {a : Admission} (hm : w.episode ≤ m) (ha : ∀ n, a = .probe n → n ≤ m) :
      ∀ c ∈ w.calls ++ [⟨a, .outstanding⟩], ∀ n, c.admission = .probe n → n ≤ m := by
    intro c hc n hn
    rcases List.mem_append.mp hc with hc | hc
    · exact (h c hc n hn).trans hm
    · rw [List.mem_singleton.mp hc] at hn
      exact ha n hn
  cases e with
  | advance dt =>
      obtain ⟨-, rfl⟩ := step_advance_eq_some.mp hstep
      exact h
  | attempt =>
      rcases step_attempt_cases hstep with ⟨-, rfl⟩ | ⟨-, -, rfl⟩ | ⟨-, -, rfl⟩ | rfl | ⟨-, -, rfl⟩
      · exact happend le_rfl (by simp)
      · exact happend (Nat.le_succ _) (by simp)
      · exact happend le_rfl (by simp)
      · exact h
      · exact fun c hc n hn => (h c hc n hn).trans (Nat.le_succ _)
  | succeed i => exact h.settle hstep
  | fail i => exact h.settle hstep
  | cancel i => exact h.settle hstep

/-! ### Steps into the half-open state -/

/-- **Every way a step ends half-open.** Either the step enters the state, with
one probe or, without a budget, with none; or the breaker was half-open before,
in the same episode, and the numbers are unchanged, or a probe was admitted, or
one of the outstanding probes succeeded, or some *other* call succeeded and its
slot was given back nevertheless, or a probe was cancelled and its slot was not
given back. -/
theorem halfOpen_step_cases {e : BreakerEvent} (hpast : w.PastEpisodes)
    (h : w.step e = some w') (hopen : w'.breaker.state = .halfOpen) :
    (w'.tally = ⟨1, 1, 0, 0⟩ ∧ 0 < w.breaker.halfOpenProbes) ∨
    (w'.tally = ⟨0, 0, 0, 0⟩ ∧ w.breaker.halfOpenProbes ≤ 0) ∨
    (w.breaker.state = .halfOpen ∧
      (w'.tally = w.tally ∨
      (w.tally.inFlight < w.breaker.halfOpenProbes ∧
        w'.tally = { w.tally with
          inFlight := w.tally.inFlight + 1, outstanding := w.tally.outstanding + 1 }) ∨
      (∃ i, e = .succeed i ∧ w.IsCurrentProbe i ∧ 1 < w.tally.inFlight ∧
        1 ≤ w.tally.outstanding ∧
        w'.tally = { w.tally with
          inFlight := w.tally.inFlight - 1, outstanding := w.tally.outstanding - 1 }) ∨
      (∃ i, e = .succeed i ∧ ¬ w.IsCurrentProbe i ∧ 1 < w.tally.inFlight ∧
        w'.tally = { w.tally with inFlight := w.tally.inFlight - 1 }) ∨
      ∃ i, e = .cancel i ∧ w.IsCurrentProbe i ∧ 1 ≤ w.tally.outstanding ∧
        w'.tally = { w.tally with
          outstanding := w.tally.outstanding - 1, cancelled := w.tally.cancelled + 1 })) := by
  cases e with
  | advance dt =>
      obtain ⟨-, rfl⟩ := step_advance_eq_some.mp h
      exact Or.inr (Or.inr ⟨hopen, Or.inl rfl⟩)
  | attempt =>
      rcases step_attempt_cases h with ⟨hst, rfl⟩ | ⟨-, hb, rfl⟩ | ⟨hst, hb, rfl⟩ | rfl |
        ⟨-, hb, rfl⟩
      · simp [hst] at hopen
      · refine Or.inl ⟨?_, hb⟩
        simp [tally, probes, List.count_append, hpast.count_next]
      · refine Or.inr (Or.inr ⟨hst, Or.inr (Or.inl ⟨hb, ?_⟩)⟩)
        simp [tally, probes, List.count_append]
      · exact Or.inr (Or.inr ⟨hopen, Or.inl rfl⟩)
      · refine Or.inr (Or.inl ⟨?_, hb⟩)
        simp [tally, probes, hpast.count_next]
  | succeed i =>
      obtain ⟨c, hc, hout, hw'⟩ := settle_eq_some.mp h
      have hbreaker : w'.breaker = w.breaker.recordSuccess := by rw [hw']
      rcases w.breaker.recordSuccess_cases with ⟨hst, hb⟩ | ⟨-, -, hb⟩ | ⟨hst, hmany, hb⟩
      · rw [hbreaker, hb] at hopen
        exact absurd hopen hst
      · rw [hbreaker, hb] at hopen
        simp at hopen
      · have hslots : w'.breaker.probesInFlight = w.breaker.probesInFlight - 1 := by
          rw [hbreaker, hb]
        refine Or.inr (Or.inr ⟨hst, ?_⟩)
        -- The slot is given back without asking whose it was; only the history tells.
        by_cases hprobe : c.admission = .probe w.episode
        · have hown : w.IsCurrentProbe i := by simp [IsCurrentProbe, hc, hprobe]
          obtain ⟨hleft, hrest⟩ := tally_settle_probe _ hc hout hprobe (by decide) hw'
          refine Or.inr (Or.inr (Or.inl ⟨i, rfl, hown, hmany, ?_, ?_⟩))
          · show 1 ≤ w.probes .outstanding
            omega
          · simp only [tally, hslots, hrest .failed (by decide), hrest .cancelled (by decide)]
            simp [← hleft]
        · have hforeign : ¬ w.IsCurrentProbe i := by simp [IsCurrentProbe, hc, hprobe]
          have hsame := probes_settle_other _ hc hprobe hw'
          refine Or.inr (Or.inr (Or.inr (Or.inl ⟨i, rfl, hforeign, hmany, ?_⟩)))
          simp only [tally, hslots, hsame]
  | fail i =>
      -- Any failure seen half-open trips the breaker, so the step does not end there.
      obtain ⟨c, -, -, rfl⟩ := settle_eq_some.mp h
      rcases w.breaker.recordFailure_cases w.clock with ⟨-, hb⟩ | ⟨hst, -, hb⟩
      · simp [hb, CircuitBreaker.trip] at hopen
      · simp only [hb] at hopen
        exact absurd hopen hst
  | cancel i =>
      obtain ⟨c, hc, hout, hw'⟩ := settle_eq_some.mp h
      have hbreaker : w'.breaker = w.breaker := by rw [hw']
      refine Or.inr (Or.inr ⟨hbreaker ▸ hopen, ?_⟩)
      by_cases hprobe : c.admission = .probe w.episode
      · have hown : w.IsCurrentProbe i := by simp [IsCurrentProbe, hc, hprobe]
        obtain ⟨hleft, hrest⟩ := tally_settle_probe _ hc hout hprobe (by decide) hw'
        refine Or.inr (Or.inr (Or.inr (Or.inr ⟨i, rfl, hown, ?_, ?_⟩)))
        · show 1 ≤ w.probes .outstanding
          omega
        · simp only [tally, hbreaker, hrest .failed (by decide), hrest .cancelled (by decide)]
          simp [← hleft]
      · have hsame := probes_settle_other _ hc hprobe hw'
        exact Or.inl (by simp only [tally, hbreaker, hsame])

/-! ### What holds in every run -/

/-- In a half-open state no probe of the episode has failed, every slot taken is
that of an outstanding or a cancelled probe, and the budget is kept. -/
structure HalfOpenInv (w : BreakerWorld) : Prop where
  past : w.PastEpisodes
  noneFailed : w.breaker.state = .halfOpen → w.tally.failed = 0
  slots : w.breaker.state = .halfOpen →
    w.tally.inFlight ≤ w.tally.outstanding + w.tally.cancelled
  budget : w.breaker.state = .halfOpen → 0 ≤ w.breaker.halfOpenProbes →
    w.tally.inFlight ≤ w.breaker.halfOpenProbes

theorem HalfOpenInv.step {e : BreakerEvent} (h : w.HalfOpenInv) (hstep : w.step e = some w') :
    w'.HalfOpenInv := by
  have hconfig := step_halfOpenProbes hstep
  obtain ⟨hpast, hfailed, hslots, hbudget⟩ := h
  refine ⟨hpast.step hstep, fun hopen => ?_, fun hopen => ?_, fun hopen hnonneg => ?_⟩
  · rcases halfOpen_step_cases hpast hstep hopen with ⟨ht, -⟩ | ⟨ht, -⟩ | ⟨hst, ht | ⟨-, ht⟩ |
      ⟨-, -, -, -, -, ht⟩ | ⟨-, -, -, -, ht⟩ | ⟨-, -, -, -, ht⟩⟩
    · rw [ht]
    · rw [ht]
    all_goals
      rw [ht]
      exact hfailed hst
  · rcases halfOpen_step_cases hpast hstep hopen with ⟨ht, -⟩ | ⟨ht, -⟩ | ⟨hst, ht | ⟨-, ht⟩ |
      ⟨-, -, -, -, -, ht⟩ | ⟨-, -, -, -, ht⟩ | ⟨-, -, -, -, ht⟩⟩
    · simp [ht]
    · simp [ht]
    all_goals
      have := hslots hst
      simp only [ht]
      omega
  · rw [hconfig] at hnonneg ⊢
    rcases halfOpen_step_cases hpast hstep hopen with ⟨ht, hb⟩ | ⟨ht, -⟩ | ⟨hst, ht | ⟨hb, ht⟩ |
      ⟨-, -, -, -, -, ht⟩ | ⟨-, -, -, -, ht⟩ | ⟨-, -, -, -, ht⟩⟩
    · rw [ht]
      exact hb
    · rw [ht]
      exact hnonneg
    all_goals
      have := hbudget hst hnonneg
      simp only [ht]
      omega

theorem halfOpenInv_init {b : CircuitBreaker} (hfresh : b.Fresh) {clock : ℚ} :
    (b.world clock).HalfOpenInv := by
  have hclosed : (b.world clock).breaker.state ≠ .halfOpen := by
    show b.state ≠ .halfOpen
    rw [hfresh.1]
    decide
  exact ⟨fun c hc => by simp [CircuitBreaker.world] at hc, fun h => absurd h hclosed,
    fun h => absurd h hclosed, fun h => absurd h hclosed⟩

theorem halfOpenInv_of_reachable {b : CircuitBreaker} (hfresh : b.Fresh)
    (h : b.runs.Reachable w) : w.HalfOpenInv := by
  refine h.invariant ?_ fun _ _ _ _ hI hstep => hI.step hstep
  intro _ hinit
  obtain ⟨clock, rfl⟩ := hinit
  exact halfOpenInv_init hfresh

/-- **Half-open rule.** A breaker starts closed, so what every step into the
half-open state establishes, given that it held if the breaker was half-open
before, holds in every half-open state of a run. -/
theorem halfOpen_rule {b : CircuitBreaker} (hfresh : b.Fresh)
    {G : BreakerWorld → BreakerEvent → Prop} {I : BreakerWorld → Prop}
    (hinto : ∀ w e w', (b.runs.restrict G).Reachable w → (w.breaker.state = .halfOpen → I w) →
      w.step e = some w' → G w e → w'.breaker.state = .halfOpen → I w')
    (h : (b.runs.restrict G).Reachable w) (hst : w.breaker.state = .halfOpen) : I w := by
  refine h.invariant (I := fun w => w.breaker.state = .halfOpen → I w) ?_ ?_ hst
  · intro _ hinit hopen
    obtain ⟨clock, rfl⟩ := hinit
    have hclosed : b.state = .halfOpen := hopen
    rw [hfresh.1] at hclosed
    cases hclosed
  · intro w e w' hr hI hnext
    exact hinto w e w' hr hI hnext.1 hnext.2

/-- A run keeps the configuration of its breaker. -/
theorem config_of_reachable {b : CircuitBreaker} (h : b.runs.Reachable w) :
    w.breaker.halfOpenProbes = b.halfOpenProbes ∧ w.breaker.resetTimeout = b.resetTimeout := by
  refine h.invariant (I := fun w => w.breaker.halfOpenProbes = b.halfOpenProbes ∧
    w.breaker.resetTimeout = b.resetTimeout) ?_ ?_
  · intro _ hinit
    obtain ⟨clock, rfl⟩ := hinit
    exact ⟨rfl, rfl⟩
  · intro _ _ _ _ hI hstep
    have hconfig := step_config hstep
    exact ⟨hconfig.1.trans hI.1, hconfig.2.trans hI.2⟩

theorem halfOpenProbes_of_reachable {b : CircuitBreaker} (h : b.runs.Reachable w) :
    w.breaker.halfOpenProbes = b.halfOpenProbes :=
  (config_of_reachable h).1

end BreakerWorld

end AgentSentinel
