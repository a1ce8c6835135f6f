import Mathlib.Algebra.Order.Group.Defs
import Mathlib.Data.List.Induction
import Mathlib.Data.List.Pairwise
import Mathlib.Data.List.TakeWhile

/-!
# AgentSentinel.Lib.SlidingWindow

A window over a stream of events in the order of their times. An event is appended, and the
events that are then older than a horizon are dropped from the left. What a window holds is
settled at its last event; read at a later time it may still hold events that have become
stale.
-/

namespace AgentSentinel.Lib.SlidingWindow

variable {α K : Type*} [LinearOrder K]

/-! ### Parts of a stream -/

/-- The events from a time on. -/
def since (time : α → K) (cutoff : K) (events : List α) : List α :=
  events.filter fun a => cutoff ≤ time a

/-- The events come in the order of their times. -/
def InOrder (time : α → K) (events : List α) : Prop :=
  events.Pairwise fun a b => time a ≤ time b

variable {time : α → K} {cutoff cutoff' : K} {events : List α} {event : α}

/-- Events of a kind, of a stream that is in order, are in order. -/
theorem InOrder.map_filter {ι : Type*} (event : ι → α) {is : List ι} (p : ι → Bool)
    (h : InOrder (time ∘ event) is) : InOrder time ((is.filter p).map event) := by
  rw [InOrder, List.pairwise_map]
  exact h.sublist List.filter_sublist

theorem since_append (events' : List α) :
    since time cutoff (events ++ events') =
      since time cutoff events ++ since time cutoff events' := by
  simp [since]

theorem since_since (h : cutoff ≤ cutoff') :
    since time cutoff' (since time cutoff events) = since time cutoff' events := by
  unfold since
  rw [List.filter_filter]
  congr 1
  ext a
  by_cases ha : cutoff' ≤ time a
  · simp [ha, h.trans ha]
  · simp [ha]

theorem since_of_forall (h : ∀ a ∈ events, cutoff ≤ time a) :
    since time cutoff events = events := by
  unfold since
  rw [List.filter_eq_self]
  intro a ha
  simpa using h a ha

/-- Dropping the old events from the left drops all of them, as the events are in order. -/
theorem dropWhile_eq_since (h : InOrder time events) :
    (events.dropWhile fun a => time a < cutoff) = since time cutoff events := by
  induction events with
  | nil => rfl
  | cons a events ih =>
    obtain ⟨hfirst, hrest⟩ := List.pairwise_cons.mp h
    by_cases ha : time a < cutoff
    · rw [List.dropWhile_cons_of_pos (by simpa using ha), ih hrest]
      simp [since, not_le.mpr ha]
    -- From the first event that is not old on, none is.
    · rw [List.dropWhile_cons_of_neg (by simpa using ha)]
      have hall : ∀ b ∈ a :: events, cutoff ≤ time b := by
        intro b hb
        rcases List.mem_cons.mp hb with rfl | hb
        · exact not_lt.mp ha
        · exact (not_lt.mp ha).trans (hfirst b hb)
      exact (since_of_forall hall).symm

/-! ### The window -/

variable [AddCommGroup K]

/-- Append an event and drop what is older than the horizon. -/
def push (time : α → K) (horizon : K) (window : List α) (event : α) : List α :=
  (window ++ [event]).dropWhile fun a => time a < time event - horizon

/-- The window after a stream of events. -/
def after (time : α → K) (horizon : K) (events : List α) : List α :=
  events.foldl (push time horizon) []

variable {horizon : K}

theorem after_concat : after time horizon (events ++ [event]) =
    push time horizon (after time horizon events) event := by
  simp [after]

theorem after_sublist : (after time horizon events).Sublist events := by
  induction events using List.reverseRecOn with
  | nil => exact List.Sublist.refl _
  | append_singleton events event ih =>
    rw [after_concat]
    exact (List.dropWhile_sublist _).trans (ih.append_right _)

/-- In order, an event leaves those that are within the horizon of it. -/
theorem after_concat_eq_since (h : InOrder time (events ++ [event])) :
    after time horizon (events ++ [event]) =
      since time (time event - horizon) (after time horizon events ++ [event]) := by
  have horder : InOrder time (after time horizon events ++ [event]) :=
    h.sublist (after_sublist.append_right _)
  rw [after_concat, push, dropWhile_eq_since horder]

/-- The window has lost nothing that is within the horizon of a later time. -/
theorem since_after (h : InOrder time events) (hcutoff : ∀ a ∈ events, time a - horizon ≤ cutoff) :
    since time cutoff (after time horizon events) = since time cutoff events := by
  induction events using List.reverseRecOn with
  | nil => rfl
  | append_singleton events event ih =>
    have hinit : ∀ a ∈ events, time a - horizon ≤ cutoff := fun a ha =>
      hcutoff a (List.mem_append_left _ ha)
    have horder : InOrder time events := h.sublist (List.sublist_append_left _ _)
    rw [after_concat_eq_since h, since_since (hcutoff event (by simp)), since_append,
      ih horder hinit, since_append]

/-- A stream that is within the horizon of its last event is kept whole. -/
theorem after_of_close (h : InOrder time events)
    (hclose : ∀ a ∈ events, ∀ b ∈ events, time b - horizon ≤ time a) :
    after time horizon events = events := by
  induction events using List.reverseRecOn with
  | nil => rfl
  | append_singleton events event ih =>
    have hinit : ∀ a ∈ events, ∀ b ∈ events, time b - horizon ≤ time a := fun a ha b hb =>
      hclose a (List.mem_append_left _ ha) b (List.mem_append_left _ hb)
    have horder : InOrder time events := h.sublist (List.sublist_append_left _ _)
    rw [after_concat_eq_since h, ih horder hinit]
    exact since_of_forall fun a ha => hclose a ha event (by simp)

/-- A state with a window for each key, where a step appends an event to the window of its key
and leaves the others alone: each window is the one over the events of its key. -/
theorem read_foldl {σ ι κ ω : Type*} [DecidableEq κ] (read : σ → κ → ω) (wrap : List α → ω)
    {step : σ → ι → σ} {key : ι → κ} {event : ι → α}
    (hown : ∀ s i window, read s (key i) = wrap window →
      read (step s i) (key i) = wrap (push time horizon window (event i)))
    (hother : ∀ s i k, k ≠ key i → read (step s i) k = read s k)
    {s : σ} {k : κ} (hs : read s k = wrap []) (is : List ι) :
    read (is.foldl step s) k =
      wrap (after time horizon ((is.filter fun i => key i = k).map event)) := by
  induction is using List.reverseRecOn with
  | nil => exact hs
  | append_singleton is i ih =>
    rw [List.foldl_append, List.foldl_cons, List.foldl_nil, List.filter_append, List.map_append]
    by_cases hkey : key i = k
    · subst hkey
      rw [hown _ _ _ ih, ← after_concat]
      simp
    · rw [hother _ _ _ (Ne.symm hkey), ih]
      simp [hkey]

variable [IsOrderedAddMonoid K]

/-- **The window is the recent part of the stream**: in order, an event leaves of all the events
so far those that are within the horizon of it. -/
theorem after_eq_since (h : InOrder time (events ++ [event])) :
    after time horizon (events ++ [event]) =
      since time (time event - horizon) (events ++ [event]) := by
  obtain ⟨horder, -, hlast⟩ := List.pairwise_append.mp h
  have hcutoff : ∀ a ∈ events, time a - horizon ≤ time event - horizon := fun a ha =>
    sub_le_sub_right (hlast a ha event (by simp)) horizon
  rw [after_concat_eq_since h, since_append, since_after horder hcutoff, since_append]

/-- Without the events that are stale by then the window holds the others. -/
theorem after_since {now : K} (h : InOrder time events) (hnow : ∀ a ∈ events, time a ≤ now) :
    after time horizon (since time (now - horizon) events) =
      since time (now - horizon) events := by
  refine after_of_close (h.sublist List.filter_sublist) fun a ha b hb => ?_
  have hrecent : now - horizon ≤ time a := by simpa using (List.mem_filter.mp ha).2
  have hbefore : time b ≤ now := hnow b (List.mem_filter.mp hb).1
  exact (sub_le_sub_right hbefore horizon).trans hrecent

end AgentSentinel.Lib.SlidingWindow
