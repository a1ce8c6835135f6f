import Mathlib.Data.List.Induction
import Mathlib.Logic.Basic
import Mathlib.Tactic.TypeStar

/-!
# AgentSentinel.Lib.Transition

Labelled transition systems, their reachable states and the two induction rules
the development uses on them: an invariant of every run, and a property of every
step of every run.

A condition under which a run is well behaved is a predicate on *steps* (the
state before and the label), so "a run all of whose steps meet `G`" is a run of
the restricted system `T.restrict G`; nothing is ever assumed about the states
such a run reaches.
-/

namespace AgentSentinel.Lib

/-- A labelled transition system: where a run may start, and what a step may do. -/
structure TransitionSystem (σ ε : Type*) where
  init : σ → Prop
  step : σ → ε → σ → Prop

namespace TransitionSystem

variable {σ ε : Type*} {T : TransitionSystem σ ε}

/-- The states that some finite run of `T` reaches. -/
inductive Reachable (T : TransitionSystem σ ε) : σ → Prop
  | init {s : σ} : T.init s → T.Reachable s
  | step {s s' : σ} {e : ε} : T.Reachable s → T.step s e s' → T.Reachable s'

/-- The labels of a finite run of `T`, and where it ends. -/
inductive Run (T : TransitionSystem σ ε) : List ε → σ → Prop
  | init {s : σ} : T.init s → T.Run [] s
  | step {es : List ε} {s s' : σ} {e : ε} : T.Run es s → T.step s e s' → T.Run (es ++ [e]) s'

/-- The runs of `T` that take only steps meeting `G`. -/
def restrict (T : TransitionSystem σ ε) (G : σ → ε → Prop) : TransitionSystem σ ε where
  init := T.init
  step s e s' := T.step s e s' ∧ G s e

/-- The runs of `T` that start in `s`. -/
def startingAt (T : TransitionSystem σ ε) (s : σ) : TransitionSystem σ ε where
  init := (· = s)
  step := T.step

/-- **Invariant rule.** What holds at the start and is kept by every step from a
reachable state holds in every reachable state. -/
theorem Reachable.invariant {I : σ → Prop} (hinit : ∀ s, T.init s → I s)
    (hstep : ∀ s e s', T.Reachable s → I s → T.step s e s' → I s') {s : σ}
    (h : T.Reachable s) : I s := by
  induction h with
  | init hs => exact hinit _ hs
  | step hr ht ih => exact hstep _ _ _ hr ih ht

/-- Replaying a list of labels through a step function that the system allows
stays within the reachable states. -/
theorem Reachable.replay {f : σ → ε → Option σ}
    (hf : ∀ s e s', f s e = some s' → T.step s e s') {s s' : σ} (hs : T.Reachable s)
    (es : List ε) (h : es.foldlM f s = some s') : T.Reachable s' := by
  induction es generalizing s with
  | nil =>
      obtain rfl := Option.some.inj h
      exact hs
  | cons e es ih =>
      rw [List.foldlM_cons] at h
      obtain ⟨s₁, hstep, hrest⟩ := Option.bind_eq_some_iff.mp h
      exact ih (.step hs (hf _ _ _ hstep)) hrest

/-- A run has come by the end of its first part. -/
theorem Run.of_append {es es' : List ε} {s : σ} (h : T.Run (es ++ es') s) : ∃ s₀, T.Run es s₀ := by
  induction es' using List.reverseRecOn generalizing s with
  | nil => exact ⟨s, by rwa [List.append_nil] at h⟩
  | append_singleton es' e ih =>
      rw [← List.append_assoc] at h
      generalize hall : es ++ es' ++ [e] = all at h
      cases h with
      | init hs => simp at hall
      | step hrun hstep =>
          obtain ⟨rfl, -⟩ := List.append_inj' hall rfl
          exact ih hrun

/-- A list of labels that the step function accepts from an initial state is a run. -/
theorem Run.replay {f : σ → ε → Option σ} (hf : ∀ s e s', f s e = some s' → T.step s e s')
    {pre : List ε} {s s' : σ} (hs : T.Run pre s) (es : List ε) (h : es.foldlM f s = some s') :
    T.Run (pre ++ es) s' := by
  induction es generalizing pre s with
  | nil =>
      obtain rfl := Option.some.inj h
      rwa [List.append_nil]
  | cons e es ih =>
      rw [List.foldlM_cons] at h
      obtain ⟨s₁, hstep, hrest⟩ := Option.bind_eq_some_iff.mp h
      rw [List.append_cons]
      exact ih (.step hs (hf _ _ _ hstep)) hrest

/-- Replaying in a restricted system, checking the condition before each step. -/
theorem Reachable.replay_restrict {G : σ → ε → Prop} [∀ s, DecidablePred (G s)]
    {f : σ → ε → Option σ} (hf : ∀ s e s', f s e = some s' → T.step s e s') {s s' : σ}
    (hs : T.init s) (es : List ε)
    (h : es.foldlM (fun s e => if G s e then f s e else none) s = some s') :
    (T.restrict G).Reachable s' := by
  refine Reachable.replay (fun s e s' hstep => ?_) (.init hs) es h
  obtain ⟨hG, hstep⟩ := Option.ite_none_right_eq_some.mp hstep
  exact ⟨hf s e s' hstep, hG⟩

/-- Restricting the steps only loses runs. -/
theorem Reachable.of_restrict {G : σ → ε → Prop} {s : σ}
    (h : (T.restrict G).Reachable s) : T.Reachable s :=
  h.invariant (fun _ hs => .init hs) (fun _ _ _ _ ih ht => .step ih ht.1)

end TransitionSystem

end AgentSentinel.Lib
