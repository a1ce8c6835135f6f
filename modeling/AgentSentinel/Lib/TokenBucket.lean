import Mathlib.Algebra.Order.Field.Basic
import Mathlib.Data.List.Count
import Mathlib.Data.List.Induction
import Mathlib.Tactic.Linarith
import Mathlib.Tactic.Ring

/-!
# AgentSentinel.Lib.TokenBucket

Token buckets over an ordered field of times. A bucket fills at a constant rate up to its
capacity, and every request takes a token or is turned away. In every window of time as many
requests get through as the capacity and the refill of the window allow.

The account that shows it adds, for a window that began at some time, the requests that got
through to the tokens that are left: neither waiting nor taking a token lifts the sum above
capacity plus refill.
-/

namespace AgentSentinel.Lib

structure TokenBucket (K : Type*) where
  capacity : K
  refill : K
  tokens : K
  last : K

namespace TokenBucket

variable {K : Type*} [Field K] [LinearOrder K]

/-- The bucket refilled up to `now`. -/
def refilled (b : TokenBucket K) (now : K) : TokenBucket K :=
  { b with tokens := min b.capacity (b.tokens + (now - b.last) * b.refill), last := now }

/-- Take a token at `now` if there is one. -/
def take (b : TokenBucket K) (now : K) : Bool × TokenBucket K :=
  let b := b.refilled now
  if 1 ≤ b.tokens then (true, { b with tokens := b.tokens - 1 }) else (false, b)

/-- A bucket that is full. -/
def full (capacity refill now : K) : TokenBucket K := ⟨capacity, refill, capacity, now⟩

theorem take_cases (b : TokenBucket K) (now : K) :
    (1 ≤ (b.refilled now).tokens ∧ b.take now =
      (true, { b.refilled now with tokens := (b.refilled now).tokens - 1 })) ∨
    (¬ 1 ≤ (b.refilled now).tokens ∧ b.take now = (false, b.refilled now)) := by
  by_cases h : 1 ≤ (b.refilled now).tokens
  · exact Or.inl ⟨h, if_pos h⟩
  · exact Or.inr ⟨h, if_neg h⟩

@[simp] theorem take_capacity (b : TokenBucket K) (now : K) :
    (b.take now).2.capacity = b.capacity := by
  rcases b.take_cases now with ⟨-, h⟩ | ⟨-, h⟩ <;> rw [h] <;> rfl

@[simp] theorem take_refill (b : TokenBucket K) (now : K) : (b.take now).2.refill = b.refill := by
  rcases b.take_cases now with ⟨-, h⟩ | ⟨-, h⟩ <;> rw [h] <;> rfl

@[simp] theorem take_last (b : TokenBucket K) (now : K) : (b.take now).2.last = now := by
  rcases b.take_cases now with ⟨-, h⟩ | ⟨-, h⟩ <;> rw [h] <;> rfl

/-- A request that is turned away leaves what has been filled up. -/
theorem take_of_rejected {b : TokenBucket K} {now : K} (h : (b.take now).1 = false) :
    (b.take now).2 = b.refilled now := by
  rcases b.take_cases now with ⟨-, htake⟩ | ⟨-, htake⟩
  · rw [htake] at h
    cases h
  · rw [htake]

/-- Nothing more fills up in no time. -/
theorem take_refilled_tokens [IsStrictOrderedRing K] (b : TokenBucket K) (now : K) :
    ((b.take now).2.refilled now).tokens = (b.take now).2.tokens := by
  have hfull : (b.refilled now).tokens ≤ b.capacity := min_le_left _ _
  have hsame (c : TokenBucket K) (hlast : c.last = now) (htokens : c.tokens ≤ c.capacity) :
      (c.refilled now).tokens = c.tokens := by
    simp [refilled, hlast, htokens]
  rcases b.take_cases now with ⟨-, h⟩ | ⟨-, h⟩
  · rw [h]
    exact hsame _ rfl ((sub_le_self _ zero_le_one).trans hfull)
  · rw [h]
    exact hsame _ rfl hfull

section Window

/-- The requests that got through between `a` and `e`. -/
def within {K : Type*} [LinearOrder K] (passes : List K) (a e : K) : ℕ :=
  passes.countP fun p => a ≤ p ∧ p ≤ e

variable {K : Type*} [LinearOrder K] {passes : List K} {a e : K}

theorem within_cons (p : K) (passes : List K) (a e : K) :
    within (p :: passes) a e = within passes a e + if a ≤ p ∧ p ≤ e then 1 else 0 := by
  simp [within, List.countP_cons]

/-- Nothing gets through in a window that begins after all passes. -/
theorem within_eq_zero (h : ∀ p ∈ passes, p < a) : within passes a e = 0 := by
  refine List.countP_eq_zero.mpr fun p hp => ?_
  simpa using fun ha => absurd (h p hp) (not_lt.mpr ha)

/-- Two windows that end after all passes count the same. -/
theorem within_congr {e' : K} (h : ∀ p ∈ passes, p ≤ e) (h' : ∀ p ∈ passes, p ≤ e') :
    within passes a e = within passes a e' := by
  refine List.countP_congr fun p hp => ?_
  simp [h p hp, h' p hp]

end Window

/-- The requests that have got through, against the bucket as it is. -/
structure Accounts (b : TokenBucket K) (passes : List K) : Prop where
  tokens_nonneg : 0 ≤ b.tokens
  tokens_le : b.tokens ≤ b.capacity
  past : ∀ p ∈ passes, p ≤ b.last
  balance : ∀ a ≤ b.last, within passes a b.last + b.tokens ≤ b.capacity + (b.last - a) * b.refill
  window : ∀ a e, a ≤ e → (within passes a e : K) ≤ b.capacity + (e - a) * b.refill

variable [IsStrictOrderedRing K] {b : TokenBucket K} {passes : List K} {now : K}

theorem accounts_full {capacity refill : K} (hcapacity : 0 ≤ capacity) (hrefill : 0 ≤ refill)
    (now : K) : (full capacity refill now).Accounts [] := by
  have hwindow (a e : K) (h : a ≤ e) : 0 ≤ capacity + (e - a) * refill :=
    add_nonneg hcapacity (mul_nonneg (sub_nonneg.mpr h) hrefill)
  refine ⟨hcapacity, le_refl _, by simp, fun a ha => ?_, fun a e h => ?_⟩
  · simpa [within, full] using mul_nonneg (sub_nonneg.mpr ha) hrefill
  · simpa [within, full] using hwindow a e h

/-- **Waiting** keeps the account. -/
theorem Accounts.refilled (h : b.Accounts passes) (hrefill : 0 ≤ b.refill) (hnow : b.last ≤ now) :
    (b.refilled now).Accounts passes := by
  have hgain : 0 ≤ (now - b.last) * b.refill := mul_nonneg (sub_nonneg.mpr hnow) hrefill
  refine ⟨?_, min_le_left _ _, fun p hp => (h.past p hp).trans hnow, fun a ha => ?_, h.window⟩
  · exact le_min (h.tokens_nonneg.trans h.tokens_le) (add_nonneg h.tokens_nonneg hgain)
  · change (within passes a now : K) + min b.capacity (b.tokens + (now - b.last) * b.refill) ≤
      b.capacity + (now - a) * b.refill
    rcases le_or_gt a b.last with hlast | hlast
    · have hsame : within passes a now = within passes a b.last :=
        within_congr (fun p hp => (h.past p hp).trans hnow) h.past
      have hbefore := h.balance a hlast
      calc (within passes a now : K) + min b.capacity (b.tokens + (now - b.last) * b.refill)
          ≤ within passes a b.last + (b.tokens + (now - b.last) * b.refill) := by
            rw [hsame]
            exact add_le_add_right (min_le_right _ _) _
        _ ≤ b.capacity + (b.last - a) * b.refill + (now - b.last) * b.refill := by linarith
        _ = b.capacity + (now - a) * b.refill := by ring
    · have hnone : within passes a now = 0 :=
        within_eq_zero fun p hp => (h.past p hp).trans_lt hlast
      rw [hnone, Nat.cast_zero, zero_add]
      exact (min_le_left _ _).trans
        (le_add_of_nonneg_right (mul_nonneg (sub_nonneg.mpr ha) hrefill))

/-- **A request** keeps the account. -/
theorem Accounts.take (h : b.Accounts passes) (hrefill : 0 ≤ b.refill) (hnow : b.last ≤ now) :
    (b.take now).2.Accounts (if (b.take now).1 then now :: passes else passes) := by
  have h := h.refilled hrefill hnow
  rcases b.take_cases now with ⟨htoken, htake⟩ | ⟨-, htake⟩
  · rw [htake]
    have hbalance (a : K) (ha : a ≤ now) : (within (now :: passes) a now : K) +
        ((b.refilled now).tokens - 1) ≤ b.capacity + (now - a) * b.refill := by
      have hbefore : (within passes a now : K) + (b.refilled now).tokens ≤
          b.capacity + (now - a) * b.refill := h.balance a ha
      rw [within_cons, if_pos ⟨ha, le_refl now⟩, Nat.cast_add, Nat.cast_one]
      linarith
    have hpast : ∀ p ∈ now :: passes, p ≤ now := List.forall_mem_cons.mpr ⟨le_refl now, h.past⟩
    refine ⟨sub_nonneg.mpr htoken, (sub_le_self _ zero_le_one).trans h.tokens_le, hpast,
      hbalance, fun a e hae => ?_⟩
    change (within (now :: passes) a e : K) ≤ b.capacity + (e - a) * b.refill
    by_cases hin : a ≤ now ∧ now ≤ e
    -- The window sees the new pass, and so all it can see is over by now.
    · obtain ⟨ha, he⟩ := hin
      have hsame : within (now :: passes) a e = within (now :: passes) a now :=
        within_congr (fun p hp => (hpast p hp).trans he) hpast
      have hmore : (now - a) * b.refill ≤ (e - a) * b.refill :=
        mul_le_mul_of_nonneg_right (sub_le_sub_right he a) hrefill
      have := hbalance a ha
      rw [hsame]
      linarith
    · rw [within_cons, if_neg hin, Nat.add_zero]
      exact h.window a e hae
  · rw [htake]
    exact h

/-! ### Requests one after another -/

section Run

variable {K : Type*} [Field K] [LinearOrder K]

/-- A request at `now`, after requests of which those at some times have got through. -/
def next (s : List K × TokenBucket K) (now : K) : List K × TokenBucket K :=
  (if (s.2.take now).1 then now :: s.1 else s.1, (s.2.take now).2)

/-- Requests at the given times: the times of those that get through, the latest first, and the
bucket that is left. -/
def takeAll (b : TokenBucket K) (times : List K) : List K × TokenBucket K :=
  times.foldl next ([], b)

variable {b : TokenBucket K} {times : List K} {now : K}

theorem takeAll_concat : b.takeAll (times ++ [now]) = next (b.takeAll times) now := by
  simp [takeAll]

theorem takeAll_capacity : (b.takeAll times).2.capacity = b.capacity := by
  induction times using List.reverseRecOn with
  | nil => rfl
  | append_singleton times now ih => rw [takeAll_concat, next, take_capacity, ih]

theorem takeAll_refill : (b.takeAll times).2.refill = b.refill := by
  induction times using List.reverseRecOn with
  | nil => rfl
  | append_singleton times now ih => rw [takeAll_concat, next, take_refill, ih]

theorem takeAll_last_mem : (b.takeAll times).2.last ∈ b.last :: times := by
  induction times using List.reverseRecOn with
  | nil => exact List.mem_cons_self
  | append_singleton times now ih =>
    rw [takeAll_concat, next, take_last]
    simp

end Run

variable {times before later : List K} {now' : K}

/-- The account is kept by any number of requests. -/
theorem Accounts.takeAll (h : b.Accounts []) (hrefill : 0 ≤ b.refill)
    (horder : (b.last :: times).Pairwise (· ≤ ·)) :
    (b.takeAll times).2.Accounts (b.takeAll times).1 := by
  induction times using List.reverseRecOn with
  | nil => exact h
  | append_singleton times now ih =>
    rw [← List.cons_append] at horder
    obtain ⟨hbefore, -, hnow⟩ := List.pairwise_append.mp horder
    rw [takeAll_concat]
    refine (ih hbefore).take ?_ (hnow _ takeAll_last_mem now (by simp))
    rw [takeAll_refill]
    exact hrefill

/-- Waiting costs no tokens. -/
theorem le_refilled (h : b.tokens ≤ b.capacity) (hrefill : 0 ≤ b.refill) (hnow : b.last ≤ now) :
    b.tokens ≤ (b.refilled now).tokens :=
  le_min h (le_add_of_nonneg_right (mul_nonneg (sub_nonneg.mpr hnow) hrefill))

/-- Filling up in two steps is filling up in one. -/
theorem refilled_refilled (hrefill : 0 ≤ b.refill) (h : now ≤ now') :
    (b.refilled now).refilled now' = b.refilled now' := by
  have hgain : 0 ≤ (now' - now) * b.refill := mul_nonneg (sub_nonneg.mpr h) hrefill
  have htokens : min b.capacity (min b.capacity (b.tokens + (now - b.last) * b.refill) +
      (now' - now) * b.refill) = min b.capacity (b.tokens + (now' - b.last) * b.refill) := by
    rw [← min_add_add_right, ← min_assoc, min_eq_left (le_add_of_nonneg_right hgain)]
    congr 1
    ring
  simp only [refilled, htokens]

/-- After a request that is turned away, a later one finds what it would have found anyway. -/
theorem take_take_of_rejected (hrefill : 0 ≤ b.refill) (hrejected : (b.take now).1 = false)
    (h : now ≤ now') : (b.take now).2.take now' = b.take now' := by
  rw [take_of_rejected hrejected, take, refilled_refilled hrefill h]
  rfl

/-- **A request that is turned away consumes nothing**: without it the same others get
through. -/
theorem takeAll_of_rejected (hrefill : 0 ≤ b.refill)
    (horder : (before ++ now :: later).Pairwise (· ≤ ·))
    (hrejected : ((b.takeAll before).2.take now).1 = false) :
    (b.takeAll (before ++ now :: later)).1 = (b.takeAll (before ++ later)).1 := by
  have hnext : next (b.takeAll before) now =
      ((b.takeAll before).1, ((b.takeAll before).2.take now).2) := by
    simp [next, hrejected]
  cases later with
  | nil => rw [takeAll_concat, hnext, List.append_nil]
  | cons now' later =>
    have hnow : now ≤ now' :=
      (List.pairwise_cons.mp (List.pairwise_append.mp horder).2.1).1 now' List.mem_cons_self
    have hlater : next (next (b.takeAll before) now) now' = next (b.takeAll before) now' := by
      rw [hnext]
      simp only [next]
      rw [take_take_of_rejected (by rwa [takeAll_refill]) hrejected hnow]
    have hsplit (times : List K) : b.takeAll (before ++ times) =
        times.foldl next (b.takeAll before) := List.foldl_append
    rw [hsplit, hsplit, List.foldl_cons, List.foldl_cons, List.foldl_cons, hlater]

end TokenBucket

end AgentSentinel.Lib
