import Mathlib.Data.List.Basic

/-!
# AgentSentinel.Lib.EarlyExit

Loops that are left early. A loop looks at the elements of a list in order and goes on as
long as its test gives one particular answer; any other answer, and a test that fails, is
what the loop ends with. A search goes on on `false`, a conjunction on `true`.

What such a loop returns is decided by the first element that does not let it go on.
-/

namespace AgentSentinel.Lib

variable {α β ε : Type*} [DecidableEq β]

/-- The loop, which goes on on the answer `going`. -/
def earlyExit (going : β) (test : α → Except ε β) : List α → Except ε β
  | [] => .ok going
  | a :: as =>
    match test a with
    | .ok b => if b = going then earlyExit going test as else .ok b
    | .error e => .error e

variable {going : β} {test : α → Except ε β} {a : α} {as : List α}

@[simp] theorem earlyExit_nil : earlyExit going test [] = .ok going := rfl

theorem earlyExit_go_on (h : test a = .ok going) :
    earlyExit going test (a :: as) = earlyExit going test as := by
  simp [earlyExit, h]

theorem earlyExit_leave (h : test a ≠ .ok going) :
    earlyExit going test (a :: as) = test a := by
  unfold earlyExit
  cases htest : test a with
  | error e => rfl
  | ok b =>
      have hne : b ≠ going := fun heq => h (htest.trans (congrArg Except.ok heq))
      exact if_neg hne

/-- A loop over the first part of a list that goes through to the end goes on with the rest. -/
theorem earlyExit_append_go_on {bs : List α} (h : earlyExit going test as = .ok going) :
    earlyExit going test (as ++ bs) = earlyExit going test bs := by
  induction as with
  | nil => rfl
  | cons a as ih =>
      by_cases hgo : test a = .ok going
      · rw [earlyExit_go_on hgo] at h
        rw [List.cons_append, earlyExit_go_on hgo, ih h]
      · rw [earlyExit_leave hgo] at h
        exact absurd h hgo

/-- Once it is left in the first part, the rest is not looked at. -/
theorem earlyExit_append_leave {bs : List α} (h : earlyExit going test as ≠ .ok going) :
    earlyExit going test (as ++ bs) = earlyExit going test as := by
  induction as with
  | nil => exact absurd rfl h
  | cons a as ih =>
      by_cases hgo : test a = .ok going
      · rw [earlyExit_go_on hgo] at h
        rw [List.cons_append, earlyExit_go_on hgo, earlyExit_go_on hgo, ih h]
      · rw [List.cons_append, earlyExit_leave hgo, earlyExit_leave hgo]

/-- The loop goes through to the end when every element lets it go on. -/
theorem earlyExit_eq_going_iff :
    earlyExit going test as = .ok going ↔ ∀ a ∈ as, test a = .ok going := by
  induction as with
  | nil => simp
  | cons a as ih =>
      rw [List.forall_mem_cons]
      by_cases h : test a = .ok going
      · rw [earlyExit_go_on h, ih, and_iff_right h]
      · rw [earlyExit_leave h]
        simp [h]

/-- **The first element that does not let the loop go on decides**: any other result is the
answer for that element. -/
theorem earlyExit_eq_iff {r : Except ε β} (hr : r ≠ .ok going) :
    earlyExit going test as = r ↔ ∃ before a after, as = before ++ a :: after ∧
      (∀ b ∈ before, test b = .ok going) ∧ test a = r := by
  constructor
  · intro h
    induction as with
    | nil => exact absurd h.symm hr
    | cons a as ih =>
        by_cases hgo : test a = .ok going
        · rw [earlyExit_go_on hgo] at h
          obtain ⟨before, c, after, rfl, hbefore, hc⟩ := ih h
          exact ⟨a :: before, c, after, rfl, List.forall_mem_cons.mpr ⟨hgo, hbefore⟩, hc⟩
        · rw [earlyExit_leave hgo] at h
          exact ⟨[], a, as, rfl, by simp, h⟩
  · intro h
    obtain ⟨before, a, after, rfl, hbefore, rfl⟩ := h
    rw [earlyExit_append_go_on (earlyExit_eq_going_iff.mpr hbefore), earlyExit_leave hr]

/-- The loop returns unless the test fails on an element that is reached. -/
theorem earlyExit_returns_iff :
    (∃ b, earlyExit going test as = .ok b) ↔ ∀ before a after, as = before ++ a :: after →
      (∀ b ∈ before, test b = .ok going) → ∃ b, test a = .ok b := by
  constructor
  · intro h before a after has hbefore
    obtain ⟨b, hb⟩ := h
    by_contra hfails
    have hleave : earlyExit going test as = test a :=
      (earlyExit_eq_iff fun hgo => hfails ⟨going, hgo⟩).mpr ⟨before, a, after, has, hbefore, rfl⟩
    exact hfails ⟨b, hleave.symm.trans hb⟩
  · intro h
    cases hloop : earlyExit going test as with
    | ok b => exact ⟨b, rfl⟩
    | error e =>
        obtain ⟨before, a, after, has, hbefore, ha⟩ :=
          (earlyExit_eq_iff (r := .error e) (by simp)).mp hloop
        obtain ⟨b, hb⟩ := h before a after has hbefore
        cases ha.symm.trans hb

/-- The same by places: the loop returns unless the test fails at one that is reached. -/
theorem earlyExit_returns_iff_getElem :
    (∃ b, earlyExit going test as = .ok b) ↔ ∀ i (hi : i < as.length),
      (∀ j (hj : j < i), test as[j] = .ok going) → ∃ b, test as[i] = .ok b := by
  rw [earlyExit_returns_iff]
  constructor
  · intro h i hi hreached
    refine h (as.take i) as[i] (as.drop (i + 1)) (by simp) fun b hb => ?_
    obtain ⟨j, hj, rfl⟩ := List.mem_take_iff_getElem.mp hb
    exact hreached j (by omega)
  · rintro h before a after rfl hbefore
    have hplace := h before.length (by simp) fun j hj => by
      rw [List.getElem_append_left hj]
      exact hbefore _ (List.getElem_mem hj)
    simpa using hplace

end AgentSentinel.Lib
