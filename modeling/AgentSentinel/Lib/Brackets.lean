import AgentSentinel.Lib.SelfDelimiting
import Mathlib.Data.Int.Order.Basic

/-!
# AgentSentinel.Lib.Brackets

Texts with brackets and quoted strings, whatever their letters. A reader keeps the depth of
the brackets that are open, and does not count those inside a string. A text is balanced if
it closes what it opens and nothing else. What has been cut off a bracketed text is not.
-/

namespace AgentSentinel.Lib

variable {σ : Type*}

/-- What a letter does. -/
inductive BracketRole
  | opens
  | closes
  | quote
  | escape
  | other
  deriving DecidableEq

/-- Outside a string, in one, or in one after an escape. -/
inductive QuoteMode
  | outside
  | inside
  | escaped

@[ext]
structure BracketState where
  depth : ℤ
  mode : QuoteMode

namespace Brackets

variable (role : σ → BracketRole)

def step (s : BracketState) (c : σ) : BracketState :=
  match s.mode, role c with
  | .outside, .opens => { s with depth := s.depth + 1 }
  | .outside, .closes => { s with depth := s.depth - 1 }
  | .outside, .quote => { s with mode := .inside }
  | .outside, _ => s
  | .inside, .quote => { s with mode := .outside }
  | .inside, .escape => { s with mode := .escaped }
  | .inside, _ => s
  | .escaped, _ => { s with mode := .inside }

def read (s : BracketState) (w : List σ) : BracketState := w.foldl (step role) s

/-- Read from one mode to another, at no point below the depth it began with and at last
at that depth. -/
def Keeps (m m' : QuoteMode) (w : List σ) : Prop :=
  ∀ d, read role ⟨d, m⟩ w = ⟨d, m'⟩ ∧ ∀ p, p <+: w → d ≤ (read role ⟨d, m⟩ p).depth

/-- Every bracket is closed, and every string. -/
def Balanced (w : List σ) : Prop := Keeps role .outside .outside w

variable {role} {m m' m'' : QuoteMode} {w u : List σ} {o c : σ}

theorem read_append (s : BracketState) (w u : List σ) :
    read role s (w ++ u) = read role (read role s w) u :=
  List.foldl_append

theorem keeps_nil (m : QuoteMode) : Keeps role m m [] := by
  intro d
  refine ⟨rfl, fun p hp => ?_⟩
  rw [List.prefix_nil.mp hp]
  exact le_rfl

theorem Keeps.append (hw : Keeps role m m' w) (hu : Keeps role m' m'' u) :
    Keeps role m m'' (w ++ u) := by
  intro d
  refine ⟨by rw [read_append, (hw d).1, (hu d).1], fun p hp => ?_⟩
  obtain ⟨r, hr⟩ := hp
  rcases List.append_eq_append_iff.mp hr with ⟨q, hbefore, -⟩ | ⟨q, rfl, hq⟩
  · exact (hw d).2 p ⟨q, hbefore.symm⟩
  · rw [read_append, (hw d).1]
    exact (hu d).2 q ⟨r, hq.symm⟩

/-- One letter that leaves the depth alone. -/
theorem keeps_singleton (h : ∀ d, step role ⟨d, m⟩ c = ⟨d, m'⟩) : Keeps role m m' [c] := by
  intro d
  refine ⟨h d, fun p hp => ?_⟩
  rcases List.prefix_cons_iff.mp hp with rfl | ⟨q, rfl, hq⟩
  · exact le_rfl
  · rw [List.prefix_nil.mp hq]
    exact le_of_eq (congrArg BracketState.depth (h d)).symm

theorem keeps_cons (h : ∀ d, step role ⟨d, m⟩ c = ⟨d, m'⟩) (hw : Keeps role m' m'' w) :
    Keeps role m m'' (c :: w) :=
  (keeps_singleton h).append hw

theorem balanced_of_other (h : ∀ c ∈ w, role c = .other) : Balanced role w := by
  induction w with
  | nil => exact keeps_nil _
  | cons c w ih =>
      rw [List.forall_mem_cons] at h
      exact keeps_cons (fun d => by simp [step, h.1]) (ih h.2)

/-- A string between its quotes. -/
theorem balanced_quoted {q : σ} (hq : role q = .quote) (hw : Keeps role .inside .inside w) :
    Balanced role (q :: (w ++ [q])) :=
  keeps_cons (fun d => by simp [step, hq])
    (hw.append (keeps_singleton fun d => by simp [step, hq]))

/-- While a bracket is open, the depth is above the one it was opened at. -/
theorem depth_of_prefix (ho : role o = .opens) (hw : Balanced role w) (d : ℤ) {p : List σ}
    (hp : p <+: w) : d + 1 ≤ (read role ⟨d, .outside⟩ (o :: p)).depth := by
  have hstep : step role ⟨d, .outside⟩ o = ⟨d + 1, .outside⟩ := by simp [step, ho]
  rw [read, List.foldl_cons, hstep]
  exact (hw (d + 1)).2 p hp

theorem balanced_enclosed (ho : role o = .opens) (hc : role c = .closes)
    (hw : Balanced role w) : Balanced role (o :: (w ++ [c])) := by
  intro d
  have hopen : step role ⟨d, .outside⟩ o = ⟨d + 1, .outside⟩ := by simp [step, ho]
  have hclose : step role ⟨d + 1, .outside⟩ c = ⟨d, .outside⟩ := by simp [step, hc]
  have hread : read role ⟨d, .outside⟩ (o :: (w ++ [c])) = ⟨d, .outside⟩ := by
    rw [read, List.foldl_cons, hopen, ← read, read_append, (hw (d + 1)).1]
    exact hclose
  refine ⟨hread, fun p hp => ?_⟩
  rcases List.prefix_cons_iff.mp hp with rfl | ⟨q, rfl, hq⟩
  · exact le_rfl
  · rcases List.prefix_concat_iff.mp hq with rfl | hq
    · rw [hread]
    · have hdepth := depth_of_prefix ho hw d hq
      omega

theorem balanced_intercalate {sep : σ} (hsep : role sep = .other) {ws : List (List σ)}
    (hws : ∀ w ∈ ws, Balanced role w) : Balanced role ([sep].intercalate ws) := by
  cases ws with
  | nil => exact keeps_nil _
  | cons w ws =>
      rw [List.forall_mem_cons] at hws
      rw [intercalate_cons]
      refine hws.1.append ?_
      have hrest := hws.2
      clear hws
      induction ws with
      | nil => exact keeps_nil _
      | cons u us ih =>
          rw [List.forall_mem_cons] at hrest
          rw [List.flatMap_cons]
          exact (keeps_cons (fun d => by simp [step, hsep]) hrest.1).append (ih hrest.2)

/-- **A bracketed text that was cut** is not balanced, unless nothing is left of it. -/
theorem not_balanced_of_cut (ho : role o = .opens) (hw : Balanced role w) {p r : List σ}
    (hr : r ≠ []) (hcut : o :: (w ++ [c]) = p ++ r) (hp : p ≠ []) : ¬ Balanced role p := by
  intro hbalanced
  cases p with
  | nil => exact hp rfl
  | cons x p =>
      rw [List.cons_append, List.cons.injEq] at hcut
      obtain ⟨rfl, hcut⟩ := hcut
      have hprefix : p <+: w := by
        rcases List.prefix_concat_iff.mp ⟨r, hcut.symm⟩ with rfl | hprefix
        · exact absurd (List.self_eq_append_right.mp hcut) hr
        · exact hprefix
      have hdepth := depth_of_prefix ho hw 0 hprefix
      rw [(hbalanced 0).1] at hdepth
      exact absurd hdepth (by decide)

end Brackets

end AgentSentinel.Lib
