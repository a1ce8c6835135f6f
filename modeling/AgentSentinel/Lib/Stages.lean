import AgentSentinel.Lib.Noninterference

/-!
# AgentSentinel.Lib.Stages

Operations in two stages, each stage with a state of its own. Served one after the other, an
operation goes through both stages before the next one begins. Overlapping, it is queued after
the first stage, others begin in the meantime, and the queue is taken through the second stage
in order.

The overlapping run is the serial one with a delay: what has been through both stages are the
first of the serial answers (`Follows.finished_isPrefix`), and once the queue is empty both runs have
answered alike and are in the same state (`Follows.settled`).
-/

namespace AgentSentinel.Lib

namespace Server

variable {σ σ' α β ι φ ψ ω ω' : Type*}

/-- Two servers, the state of one read off the other's, and so its answers. -/
theorem answers_of_image {serve : Server σ ι ω} {serve' : Server σ' ι ω'} (g : σ → σ')
    (f : ω → ω') (h : ∀ s i, serve' (g s) i = (f (serve s i).1, g (serve s i).2)) (s : σ)
    (is : List ι) :
    serve'.answers (g s) is = (serve.answers s is).map (Prod.map id f) ∧
      serve'.after (g s) is = g (serve.after s is) := by
  induction is generalizing s with
  | nil => exact ⟨rfl, rfl⟩
  | cons i is ih =>
      obtain ⟨hanswers, hafter⟩ := ih (serve s i).2
      simp only [answers, after_cons, h, List.map_cons]
      exact ⟨congrArg _ hanswers, hafter⟩

variable (first : Server α ι (Option φ)) (second : Server β φ ψ)

/-- Both stages at once. The second one has to do only with what the first one hands on. -/
def inTurn : Server (α × β) ι (Option (φ × ψ)) := fun s i =>
  match (first s.1 i).1 with
  | none => (none, ((first s.1 i).2, s.2))
  | some x => (some (x, (second s.2 x).1), ((first s.1 i).2, (second s.2 x).2))

/-- What the first stage hands on. -/
def handedOn (a : α) (is : List ι) : List φ := (first.answers a is).filterMap Prod.snd

variable {first second} {a : α} {b : β}

theorem handedOn_append_singleton {is : List ι} {i : ι} : first.handedOn a (is ++ [i]) =
    first.handedOn a is ++ (first (first.after a is) i).1.toList := by
  rw [handedOn, answers_append, List.filterMap_append]
  cases h : (first (first.after a is) i).1 <;> simp [answers, h, handedOn]

/-- One after the other, the second stage serves what the first one hands on. -/
theorem inTurn_eq (is : List ι) :
    ((first.inTurn second).answers (a, b) is).filterMap Prod.snd =
        second.answers b (first.handedOn a is) ∧
      (first.inTurn second).after (a, b) is =
        (first.after a is, second.after b (first.handedOn a is)) := by
  induction is generalizing a b with
  | nil => exact ⟨rfl, rfl⟩
  | cons i is ih =>
      cases h : (first a i).1 with
      | none => simpa [inTurn, answers, handedOn, h] using ih
      | some x => simpa [inTurn, answers, handedOn, h] using ih

end Server

/-- Overlapping operations: what has been through the first stage only, and what has been
through both. -/
structure Staged (α β φ ψ : Type*) where
  front : α
  back : β
  queue : List φ
  finished : List (φ × ψ)

namespace Staged

variable {α β ι φ ψ : Type*}

/-- An operation begins. -/
def enter (first : Server α ι (Option φ)) (s : Staged α β φ ψ) (i : ι) : Staged α β φ ψ :=
  { s with front := (first s.front i).2, queue := s.queue ++ (first s.front i).1.toList }

/-- The first in the queue goes through the second stage. -/
def advance (second : Server β φ ψ) (s : Staged α β φ ψ) : Option (Staged α β φ ψ) :=
  match s.queue with
  | [] => none
  | x :: xs => some { s with
      back := (second s.back x).2
      queue := xs
      finished := s.finished ++ [(x, (second s.back x).1)] }

variable {first : Server α ι (Option φ)} {second : Server β φ ψ} {a : α} {b : β} {is : List ι}
  {s s' : Staged α β φ ψ}

/-- The operations `is` have begun, one of them after the other. -/
structure Follows (first : Server α ι (Option φ)) (second : Server β φ ψ) (a : α) (b : β)
    (is : List ι) (s : Staged α β φ ψ) : Prop where
  front : s.front = first.after a is
  queue : first.handedOn a is = s.finished.map Prod.fst ++ s.queue
  finished : s.finished = second.answers b (s.finished.map Prod.fst)
  back : s.back = second.after b (s.finished.map Prod.fst)

theorem follows_start : Follows first second a b [] ⟨a, b, [], []⟩ := ⟨rfl, rfl, rfl, rfl⟩

theorem Follows.enter (h : Follows first second a b is s) (i : ι) :
    Follows first second a b (is ++ [i]) (s.enter first i) where
  front := by
    rw [Server.after_append, ← h.front]
    rfl
  queue := by
    rw [Server.handedOn_append_singleton, h.queue, List.append_assoc, ← h.front]
    rfl
  finished := h.finished
  back := h.back

theorem Follows.advance (h : Follows first second a b is s) (hs : s.advance second = some s') :
    Follows first second a b is s' := by
  unfold Staged.advance at hs
  cases hqueue : s.queue with
  | nil =>
      rw [hqueue] at hs
      cases hs
  | cons x xs =>
      rw [hqueue] at hs
      obtain rfl := Option.some.inj hs
      constructor
      · exact h.front
      · simp [h.queue, hqueue]
      · simp only [List.map_append, List.map_cons, List.map_nil, Server.answers_append, ← h.back,
          ← h.finished]
        rfl
      · simp only [List.map_append, List.map_cons, List.map_nil, Server.after_append, ← h.back]
        rfl

/-- What has been through both stages are the first of the serial answers. -/
theorem Follows.finished_isPrefix (h : Follows first second a b is s) :
    s.finished <+: ((first.inTurn second).answers (a, b) is).filterMap Prod.snd := by
  rw [(Server.inTurn_eq is).1, h.queue, Server.answers_append, ← h.finished]
  exact List.prefix_append _ _

/-- With nothing in the queue the run has caught up with the serial one. -/
theorem Follows.settled (h : Follows first second a b is s) (hempty : s.queue = []) :
    s.finished = ((first.inTurn second).answers (a, b) is).filterMap Prod.snd ∧
      (s.front, s.back) = (first.inTurn second).after (a, b) is := by
  rw [(Server.inTurn_eq is).1, (Server.inTurn_eq is).2, h.queue, hempty, List.append_nil,
    ← h.finished, ← h.back, ← h.front]
  exact ⟨rfl, rfl⟩

end Staged

end AgentSentinel.Lib
