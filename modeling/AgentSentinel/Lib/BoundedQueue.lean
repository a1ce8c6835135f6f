import Mathlib.Algebra.Order.Group.Multiset
import Mathlib.Tactic.Abel

/-!
# AgentSentinel.Lib.BoundedQueue

A queue of bounded length that drops its oldest items when it overflows, together with
its history. The history is what properties are stated in: whatever has been added is
still queued, was taken from the front or was evicted, and what is not evicted leaves in
the order it came.
-/

namespace AgentSentinel.Lib

/-- A queue of at most `capacity` items, and all that has gone through it. -/
structure BoundedQueue (α : Type*) (capacity : ℕ) where
  items : List α
  added : List α
  taken : List α
  evicted : List α
  bounded : items.length ≤ capacity
  conserved : (taken : Multiset α) + items + evicted = added
  ordered : (taken ++ items).Sublist added

namespace BoundedQueue

variable {α : Type*} {capacity : ℕ}

/-- A queue nothing has gone through. -/
def empty : BoundedQueue α capacity :=
  ⟨[], [], [], [], Nat.zero_le capacity, rfl, List.Sublist.refl []⟩

theorem coe_take_add_drop (n : ℕ) (xs : List α) :
    (xs.take n : Multiset α) + xs.drop n = xs := by
  rw [Multiset.coe_add, List.take_append_drop]

variable (queue : BoundedQueue α capacity)

/-- Add an item at the end, and drop as many from the front as are too many. -/
def push (a : α) : BoundedQueue α capacity where
  items := (queue.items ++ [a]).drop ((queue.items ++ [a]).length - capacity)
  added := queue.added ++ [a]
  taken := queue.taken
  evicted := queue.evicted ++ (queue.items ++ [a]).take ((queue.items ++ [a]).length - capacity)
  bounded := by
    rw [List.length_drop]
    omega
  conserved := by
    let all := queue.items ++ [a]
    let excess := all.length - capacity
    calc (queue.taken : Multiset α) + all.drop excess + (queue.evicted ++ all.take excess : List α)
        = queue.taken + (all.take excess + all.drop excess) + queue.evicted := by
          rw [← Multiset.coe_add]
          abel
      _ = queue.taken + queue.items + queue.evicted + ([a] : List α) := by
          rw [coe_take_add_drop, ← Multiset.coe_add]
          abel
      _ = (queue.added ++ [a] : List α) := by rw [queue.conserved, Multiset.coe_add]
  ordered := by
    have hkept := List.drop_sublist ((queue.items ++ [a]).length - capacity) (queue.items ++ [a])
    have hall := queue.ordered.append_right [a]
    rw [List.append_assoc] at hall
    exact (hkept.append_left queue.taken).trans hall

/-- Take up to `n` items from the front. -/
def take (n : ℕ) : BoundedQueue α capacity where
  items := queue.items.drop n
  added := queue.added
  taken := queue.taken ++ queue.items.take n
  evicted := queue.evicted
  bounded := by
    have hbounded := queue.bounded
    rw [List.length_drop]
    omega
  conserved := by
    rw [← queue.conserved, ← Multiset.coe_add, add_assoc (queue.taken : Multiset α),
      coe_take_add_drop]
  ordered := by
    rw [List.append_assoc, List.take_append_drop]
    exact queue.ordered

end BoundedQueue

end AgentSentinel.Lib
