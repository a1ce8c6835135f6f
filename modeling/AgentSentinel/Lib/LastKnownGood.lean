import Mathlib.Data.List.Induction

/-!
# AgentSentinel.Lib.LastKnownGood

A source that may fail in front of a store that keeps what the source gave last. The store does
not hold a value but what was written of it, so that what it serves is a value that was read
back. Writing may break off. Then there is no new value, and what the store held before is
overwritten all the same.
-/

namespace AgentSentinel.Lib

/-- Attempts `ι` to get a value `β`: the new value if there is one, what is written to the store
if anything is, with the value it is the whole of, and what is read from the store. -/
structure LastKnownGood (ι β γ : Type*) where
  fresh : ι → Option β
  stores : ι → Option (Option β × γ)
  read : ι → γ → Option β

namespace LastKnownGood

variable {ι β γ : Type*} (system : LastKnownGood ι β γ)

/-- What an attempt serves, and what is stored after it. -/
def serve (store : Option γ) (i : ι) : Option β × Option γ :=
  let stored := ((system.stores i).map Prod.snd).or store
  ((system.fresh i).or (stored.bind (system.read i)), stored)

/-- What was written last among attempts. -/
def latest (is : List ι) : Option (Option β × γ) :=
  is.foldl (fun last i => (system.stores i).or last) none

/-- The value that was written last, if it was written to its end. -/
def known (is : List ι) : Option β := (system.latest is).bind Prod.fst

/-- The store after attempts, from an empty one. -/
def after (is : List ι) : Option γ := is.foldl (fun store i => (system.serve store i).2) none

variable {system} {is : List ι} {i : ι} {b : Option β} {c : γ}

theorem latest_concat : system.latest (is ++ [i]) = (system.stores i).or (system.latest is) := by
  simp [latest]

theorem after_concat : system.after (is ++ [i]) = (system.serve (system.after is) i).2 := by
  simp [after]

/-- **The store** holds what was written last. -/
theorem after_eq (is : List ι) : system.after is = (system.latest is).map Prod.snd := by
  induction is using List.reverseRecOn with
  | nil => rfl
  | append_singleton is i ih =>
    rw [after_concat, latest_concat, ih, serve]
    cases system.stores i with
    | none => rfl
    | some stored => rfl

/-- What was written last was written by one of the attempts. -/
theorem stores_of_latest (h : system.latest is = some (b, c)) :
    ∃ i ∈ is, system.stores i = some (b, c) := by
  induction is using List.reverseRecOn with
  | nil => cases h
  | append_singleton is i ih =>
    rw [latest_concat] at h
    cases hstored : system.stores i with
    | some found =>
      rw [hstored] at h
      exact ⟨i, by simp, hstored.trans h⟩
    | none =>
      rw [hstored] at h
      obtain ⟨j, hj, hjstored⟩ := ih h
      exact ⟨j, List.mem_append_left _ hj, hjstored⟩

end LastKnownGood

end AgentSentinel.Lib
