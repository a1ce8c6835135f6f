import AgentSentinel.Observability.SiemExporter

/-!
# AgentSentinel.Observability.SiemOrder

The order in which the exporter hands records to its transport.

The batches come off the front of one queue, so in the order of the calls of `send` they
are a subsequence of what was enqueued, in every run: whoever flushes, whatever overflows
and whichever sends fail. In the order in which the sends *return* this needs that no two
of them overlap. An exporter that is started once and then stopped once has two coroutines
that flush, the task and `stop`, and `stop` flushes only after the task has ended.
-/

namespace AgentSentinel

open Lib

namespace SiemWorld

variable {cfg : SiemConfig} {w w' : SiemWorld cfg} {e : SiemEvent} {es : List SiemEvent}
  {i j : ℕ} {a b : Activity} {outcome : SendOutcome}

/-! ### One send at a time -/

/-- No coroutine is in a send. -/
def NoSend (w : SiemWorld cfg) : Prop := ∀ i a, w.activity i = some a → ¬ a.InSend

/-- Only one coroutine can be in a send, and none is when the task wakes up to flush or
`stop` has waited for it to end. -/
structure Serial (w : SiemWorld cfg) : Prop where
  one : ∀ {i j a b}, w.activity i = some a → w.activity j = some b → a.InSend → b.InSend → i = j
  asleep : ∀ {i backoff}, w.activity i = some (.sleeping backoff) → w.NoSend
  joined : ∀ {i task}, w.activity i = some (.joining task) → w.activity task = some .finished →
    w.NoSend

/-- The batches whose sends have returned, in the order of the calls. -/
def returnedBatches (w : SiemWorld cfg) : List (List PyStr) :=
  (w.sends.filter fun s => s.outcome = .returned).map SendCall.batch

/-- Only the last send can be pending, its caller is in it, and the sends before have
returned in the order in which they were called. -/
structure LinedUp (w : SiemWorld cfg) : Prop where
  resolved : ∀ s ∈ w.sends.dropLast, s.outcome ≠ .pending
  owned : ∀ s ∈ w.sends, s.outcome = .pending →
    ∃ a, w.activity s.caller = some a ∧ a.InSend
  delivered : w.delivered = w.returnedBatches

/-- The same with no send pending. -/
structure Quiet (w : SiemWorld cfg) : Prop where
  resolved : ∀ s ∈ w.sends, s.outcome ≠ .pending
  delivered : w.delivered = w.returnedBatches

theorem activity_goto_self (h : (w.activity i).isSome = true) :
    (w.goto i a).activity i = some a := by
  simp only [activity, Option.isSome_map, Option.isSome_iff_exists] at h
  obtain ⟨c, hc⟩ := h
  obtain ⟨hlt, -⟩ := List.getElem?_eq_some_iff.mp hc
  simp [activity, goto, hlt]

theorem activity_goto_of_ne (h : i ≠ j) : (w.goto i a).activity j = w.activity j := by
  simp [activity, goto, h]

theorem activity_spawn_of (h : w.activity j = some b) : (w.spawn a).activity j = some b := by
  obtain ⟨c, hc, rfl⟩ := Option.map_eq_some_iff.mp h
  obtain ⟨hlt, -⟩ := List.getElem?_eq_some_iff.mp hc
  simp [activity, spawn, List.getElem?_append_left hlt, hc]

theorem LinedUp.quiet (h : w.LinedUp) (hno : w.NoSend) : w.Quiet := by
  refine ⟨fun s hs hpending => ?_, h.delivered⟩
  obtain ⟨a, ha, hin⟩ := h.owned s hs hpending
  exact hno _ a ha hin

theorem Quiet.linedUp (h : w.Quiet) : w.LinedUp :=
  ⟨fun s hs => h.resolved s (List.mem_of_mem_dropLast hs),
    fun s hs hpending => absurd hpending (h.resolved s hs), h.delivered⟩

/-- A flush with no send pending starts the only one. -/
theorem Quiet.flush (h : w.Quiet) (hi : (w.activity i).isSome = true) (ha : a.InSend) :
    (w.flush i a b).LinedUp := by
  rcases flush_cases (w := w) (i := i) (a := a) (b := b) with heq | ⟨batch, -, -, heq⟩
  · rw [heq]
    exact Quiet.linedUp ⟨h.resolved, h.delivered⟩
  · rw [heq]
    refine ⟨?_, ?_, ?_⟩
    · show ∀ s ∈ (w.sends ++ [(⟨i, batch, .pending⟩ : SendCall)]).dropLast, _
      rw [List.dropLast_concat]
      exact h.resolved
    · intro s hs hpending
      rcases List.mem_append.mp hs with hs | hs
      · exact absurd hpending (h.resolved s hs)
      · obtain rfl := List.mem_singleton.mp hs
        exact ⟨a, activity_goto_self hi, ha⟩
    · refine h.delivered.trans ?_
      simp [returnedBatches, goto]

/-- The end of a send leaves none pending, and what it delivers comes after what was
delivered. -/
theorem LinedUp.resolve (h : w.LinedUp) (hs : w.Serial) (ha : w.activity i = some a)
    (hin : a.InSend) (hended : outcome ≠ .pending) : (w.resolve i outcome).Quiet := by
  have hcaller : ∀ s ∈ w.sends, s.outcome = .pending → s.caller = i := by
    intro s hmem hpending
    obtain ⟨b, hb, hin'⟩ := h.owned s hmem hpending
    exact hs.one hb ha hin' hin
  refine ⟨?_, ?_⟩
  · intro s hmem
    obtain ⟨s', hs', rfl⟩ := List.mem_map.mp hmem
    split
    · exact hended
    · next hno => exact fun hpending => hno ⟨hcaller s' hs' hpending, hpending⟩
  · have hdelivered := h.delivered
    simp only [SiemWorld.resolve, returnedBatches] at hdelivered ⊢
    rw [hdelivered]
    rcases List.eq_nil_or_concat w.sends with hnil | ⟨before, last, hsends⟩
    · simp [hnil]
    · rw [List.concat_eq_append] at hsends
      have hresolved := h.resolved
      rw [hsends, List.dropLast_concat] at hresolved
      have hkeep : ∀ s ∈ before, ¬ (s.caller = i ∧ s.outcome = .pending) :=
        fun s hs hboth => hresolved s hs hboth.2
      have hmap : (before.map fun s =>
          if s.caller = i ∧ s.outcome = .pending then { s with outcome } else s) = before :=
        (List.map_congr_left fun s hs => if_neg (hkeep s hs)).trans (List.map_id before)
      have hnone : (before.filter fun s => s.caller = i ∧ s.outcome = .pending) = [] :=
        List.filter_eq_nil_iff.mpr fun s hs => by simpa using hkeep s hs
      rw [hsends, List.map_append, List.filter_append, List.filter_append, List.filter_append,
        hmap, hnone, List.map_append, List.map_append, List.append_assoc]
      -- Only the last send can still have been pending.
      by_cases hpending : last.outcome = .pending
      · have hlast := hcaller last (by simp [hsends]) hpending
        cases outcome <;> simp_all
      · simp [hpending]

theorem LinedUp.goto (h : w.LinedUp) (ha : w.activity i = some a) (hout : ¬ a.InSend) :
    (w.goto i b).LinedUp := by
  refine ⟨h.resolved, fun s hs hpending => ?_, h.delivered⟩
  obtain ⟨c, hc, hin⟩ := h.owned s hs hpending
  have hne : i ≠ s.caller := by
    rintro rfl
    exact hout (Option.some.inj (ha.symm.trans hc) ▸ hin)
  exact ⟨c, (activity_goto_of_ne hne).trans hc, hin⟩

theorem LinedUp.spawn (h : w.LinedUp) : (w.spawn a).LinedUp := by
  refine ⟨h.resolved, fun s hs hpending => ?_, h.delivered⟩
  obtain ⟨c, hc, hin⟩ := h.owned s hs hpending
  exact ⟨c, activity_spawn_of hc, hin⟩

theorem LinedUp.requestCancel (h : w.LinedUp) : (w.requestCancel i).LinedUp := by
  refine ⟨h.resolved, fun s hs hpending => ?_, h.delivered⟩
  obtain ⟨c, hc, hin⟩ := h.owned s hs hpending
  exact ⟨c, activity_requestCancel.trans hc, hin⟩

theorem isSome_activity (h : w.activity i = some a) : (w.activity i).isSome = true := by
  rw [h]
  rfl

/-- Sends stay lined up when `stop` does not flush while another coroutine is in a send. -/
theorem Steps.linedUp (h : w.Steps e w') (hw : w.LinedUp) (hs : w.Serial)
    (hstop : e = .stop → w.TaskDone → w.NoSend) : w'.LinedUp := by
  cases h with
  | enqueue line => exact ⟨hw.resolved, hw.owned, hw.delivered⟩
  | started _ =>
      have hspawn := hw.spawn (a := .created)
      exact ⟨hspawn.resolved, hspawn.owned, hspawn.delivered⟩
  | running _ => exact hw
  | stopped hdone =>
      have hquiet := hw.quiet (hstop rfl hdone)
      have hsome : ((w.spawn .finished).activity w.coroutines.length).isSome = true := by
        simp [activity, SiemWorld.spawn]
      exact Quiet.flush ⟨hquiet.resolved, hquiet.delivered⟩ hsome trivial
  | stopping _ _ => exact hw.requestCancel.spawn
  | moved _ ha hidle _ => exact hw.goto ha hidle.not_inSend
  | woken ha => exact (hw.quiet (hs.asleep ha)).flush (isSome_activity ha) trivial
  | @returned i a ha hin =>
      have hquiet : (w.resolve i .returned).Quiet := hw.resolve hs ha hin (by decide)
      exact hquiet.flush (isSome_activity ha) hin
  | @failed _ i a _ _ ha hin _ =>
      have hquiet : (w.resolve i .failed).Quiet := hw.resolve hs ha hin (by decide)
      exact Quiet.linedUp ⟨hquiet.resolved, hquiet.delivered⟩
  | joined ha hfinished =>
      have hquiet := hw.quiet (hs.joined ha hfinished)
      exact Quiet.flush ⟨hquiet.resolved, hquiet.delivered⟩ (isSome_activity ha) trivial

/-! ### One start and one stop -/

/-- The activities of the background task. -/
def OfLoop : Activity → Prop
  | .joining _ | .closing => False
  | _ => True

/-- What the coroutines are suspended in. -/
def activities (w : SiemWorld cfg) : List Activity := w.coroutines.map Coroutine.activity

/-- An exporter that is started and stopped at most once, by the calls so far: new, with
its task alone, with `stop` waiting for the task, or with `stop` in its own flush. -/
inductive Lifecycle (w : SiemWorld cfg) : List SiemEvent → Prop
  | new : w.activities = [] → w.task = none → Lifecycle w []
  | running {loop : Activity} : OfLoop loop → w.activities = [loop] → w.task = some 0 →
      Lifecycle w [.start]
  | stopping {loop : Activity} : OfLoop loop → w.activities = [loop, .joining 0] →
      w.task = some 0 → Lifecycle w [.start, .stop]
  | closed {closer : Activity} : closer = .closing ∨ closer = .finished →
      w.activities = [.finished, closer] → Lifecycle w [.start, .stop]

/-- The calls of `start` and `stop` in a run. -/
def calls (es : List SiemEvent) : List SiemEvent :=
  es.filter fun e => e = .start ∨ e = .stop

variable {cs : List SiemEvent}

theorem activity_eq : w.activity i = w.activities[i]? := List.getElem?_map.symm

theorem getElem?_pair {x y : Activity} (h : [x, y][i]? = some a) :
    (i = 0 ∧ x = a) ∨ (i = 1 ∧ y = a) := by
  match i, h with
  | 0, h => exact Or.inl ⟨rfl, Option.some.inj h⟩
  | 1, h => exact Or.inr ⟨rfl, Option.some.inj h⟩

theorem getElem?_single {x : Activity} (h : [x][i]? = some a) : i = 0 ∧ x = a := by
  match i, h with
  | 0, h => exact ⟨rfl, Option.some.inj h⟩

theorem activities_flush : ∃ c, (c = a ∨ c = b) ∧
    (w.flush i a b).activities = w.activities.set i c ∧ (w.flush i a b).task = w.task := by
  rcases flush_cases (w := w) (i := i) (a := a) (b := b) with heq | ⟨batch, -, -, heq⟩
  · exact ⟨b, Or.inr rfl, heq ▸ List.map_set, heq ▸ rfl⟩
  · exact ⟨a, Or.inl rfl, heq ▸ List.map_set, heq ▸ rfl⟩

/-- What there is: the task, and beside it `stop`, which waits for the task or comes after
it. -/
theorem Lifecycle.coroutine (h : w.Lifecycle cs) (ha : w.activity i = some a) :
    (i = 0 ∧ OfLoop a) ∨
      (i = 1 ∧ a = .joining 0 ∧ cs = [.start, .stop] ∧ ∃ loop, w.activities = [loop, .joining 0]) ∨
      (i = 1 ∧ (a = .closing ∨ a = .finished) ∧ w.activity 0 = some .finished) := by
  rw [activity_eq] at ha
  cases h with
  | new hnew _ =>
      rw [hnew] at ha
      cases ha
  | running hof hrunning _ =>
      rw [hrunning] at ha
      obtain ⟨rfl, rfl⟩ := getElem?_single ha
      exact Or.inl ⟨rfl, hof⟩
  | stopping hof hstopping _ =>
      rw [hstopping] at ha
      rcases getElem?_pair ha with ⟨rfl, rfl⟩ | ⟨rfl, rfl⟩
      · exact Or.inl ⟨rfl, hof⟩
      · exact Or.inr (Or.inl ⟨rfl, rfl, rfl, _, hstopping⟩)
  | closed hcloser hclosed =>
      rw [hclosed] at ha
      rcases getElem?_pair ha with ⟨rfl, rfl⟩ | ⟨rfl, rfl⟩
      · exact Or.inl ⟨rfl, trivial⟩
      · refine Or.inr (Or.inr ⟨rfl, hcloser, ?_⟩)
        rw [activity_eq, hclosed]
        rfl

/-- Whoever is in a send is the task, or `stop` after the task has ended. -/
theorem Lifecycle.inSend_cases (h : w.Lifecycle cs) (ha : w.activity i = some a)
    (hin : a.InSend) : i = 0 ∨ (i = 1 ∧ w.activity 0 = some .finished) := by
  rcases h.coroutine ha with ⟨rfl, -⟩ | ⟨-, rfl, -⟩ | ⟨rfl, -, hended⟩
  · exact Or.inl rfl
  · cases hin
  · exact Or.inr ⟨rfl, hended⟩

theorem not_inSend_of_finished (ha : w.activity i = some a) (hin : a.InSend) :
    w.activity i ≠ some .finished := by
  intro hended
  obtain rfl := Option.some.inj (ha.symm.trans hended)
  cases hin

theorem Lifecycle.serial (h : w.Lifecycle cs) : w.Serial := by
  refine ⟨?_, ?_, ?_⟩
  · intro i j a b ha hb hin hin'
    rcases h.inSend_cases ha hin with rfl | ⟨rfl, hended⟩
    · rcases h.inSend_cases hb hin' with rfl | ⟨rfl, hended⟩
      · rfl
      · exact absurd hended (not_inSend_of_finished ha hin)
    · rcases h.inSend_cases hb hin' with rfl | ⟨rfl, -⟩
      · exact absurd hended (not_inSend_of_finished hb hin')
      · rfl
  · intro i backoff ha j b hb hin
    rcases h.coroutine ha with ⟨rfl, -⟩ | ⟨-, hsleeping, -⟩ | ⟨-, hsleeping | hsleeping, -⟩
    · rcases h.inSend_cases hb hin with rfl | ⟨-, hended⟩
      · obtain rfl := Option.some.inj (ha.symm.trans hb)
        cases hin
      · cases ha.symm.trans hended
    · cases hsleeping
    · cases hsleeping
    · cases hsleeping
  · intro i task ha hfinished j b hb hin
    rcases h.coroutine ha with ⟨-, hof⟩ | ⟨rfl, hjoining, -⟩ | ⟨-, hjoining | hjoining, -⟩
    · cases hof
    · obtain rfl := Activity.joining.inj hjoining
      rcases h.inSend_cases hb hin with rfl | ⟨rfl, -⟩
      · exact not_inSend_of_finished hb hin hfinished
      · obtain rfl := Option.some.inj (ha.symm.trans hb)
        cases hin
    · cases hjoining
    · cases hjoining

/-- The task or the closing flush comes to its next suspension. -/
theorem Lifecycle.move {c : Activity} (h : w.Lifecycle cs) (ha : w.activity i = some a)
    (hactive : a.Idle ∨ a.InSend) (hloop : a ≠ .closing → OfLoop c)
    (hclosing : a = .closing → c = .closing ∨ c = .finished)
    (hactivities : w'.activities = w.activities.set i c) (htask : w'.task = w.task) :
    w'.Lifecycle cs := by
  rw [activity_eq] at ha
  cases h with
  | new hnew _ =>
      rw [hnew] at ha
      cases ha
  | running hof hrunning h0 =>
      rw [hrunning] at ha hactivities
      obtain ⟨rfl, rfl⟩ := getElem?_single ha
      exact .running (hloop (by rintro rfl; exact hof)) hactivities (htask.trans h0)
  | stopping hof hstopping h0 =>
      rw [hstopping] at ha hactivities
      rcases getElem?_pair ha with ⟨rfl, rfl⟩ | ⟨-, rfl⟩
      · exact .stopping (hloop (by rintro rfl; exact hof)) hactivities (htask.trans h0)
      · rcases hactive with h | h <;> cases h
  | closed hcloser hclosed =>
      rw [hclosed] at ha hactivities
      rcases getElem?_pair ha with ⟨-, rfl⟩ | ⟨rfl, rfl⟩
      · rcases hactive with h | h <;> cases h
      · rcases hcloser with rfl | rfl
        · exact .closed (hclosing rfl) hactivities
        · rcases hactive with h | h <;> cases h

theorem ofLoop_of_inSend (hin : a.InSend) (hne : a ≠ .closing) : OfLoop a := by
  cases a with
  | sending backoff => trivial
  | closing => exact absurd rfl hne
  | _ => cases hin

theorem activities_spawn : (w.spawn a).activities = w.activities ++ [a] := List.map_append

theorem activities_requestCancel : (w.requestCancel i).activities = w.activities := by
  refine List.ext_getElem? fun j => ?_
  rw [← activity_eq, ← activity_eq, activity_requestCancel]

/-- `stop` flushes after the task has ended. -/
theorem Lifecycle.close {x : Activity} (h : w.activities = [.finished, x]) :
    (w.close 1).Lifecycle [.start, .stop] := by
  obtain ⟨c, hc, hactivities, -⟩ := activities_flush (w := { w with task := none }) (i := 1)
    (a := .closing) (b := .finished)
  rw [show activities { w with task := none } = [.finished, x] from h] at hactivities
  exact .closed hc hactivities

/-- `start` is called on a new exporter. -/
theorem Lifecycle.of_start (h : w.Lifecycle cs)
    (hcalls : cs ++ calls [.start] <+: [.start, .stop]) :
    cs = [] ∧ w.activities = [] ∧ w.task = none := by
  cases h with
  | new hnew hnone => exact ⟨rfl, hnew, hnone⟩
  | running _ _ _ => exact absurd hcalls (by decide)
  | stopping _ _ _ => exact absurd hcalls (by decide)
  | closed _ _ => exact absurd hcalls (by decide)

/-- `stop` is called on one that has its task alone. -/
theorem Lifecycle.of_stop (h : w.Lifecycle cs)
    (hcalls : cs ++ calls [.stop] <+: [.start, .stop]) :
    ∃ loop, cs = [.start] ∧ OfLoop loop ∧ w.activities = [loop] ∧ w.task = some 0 := by
  cases h with
  | new _ _ => exact absurd hcalls (by decide)
  | running hof hrunning h0 => exact ⟨_, rfl, hof, hrunning, h0⟩
  | stopping _ _ _ => exact absurd hcalls (by decide)
  | closed _ _ => exact absurd hcalls (by decide)

/-- A task that is alone and has ended is all there is. -/
theorem activities_of_taskDone {loop : Activity} (h : w.activities = [loop])
    (h0 : w.task = some 0) (hdone : w.TaskDone) : w.activities = [.finished] := by
  have hfinished := hdone 0 h0
  rw [activity_eq, h] at hfinished
  rw [h, Option.some.inj hfinished]

theorem length_coroutines : w.coroutines.length = w.activities.length :=
  (List.length_map _).symm

theorem Steps.lifecycle (h : w.Steps e w') (hw : w.Lifecycle cs)
    (hcalls : cs ++ calls [e] <+: [.start, .stop]) : w'.Lifecycle (cs ++ calls [e]) := by
  -- Only `start` and `stop` count as calls; the other events leave the row of calls alone.
  have hsame : calls [e] = [] → ∀ {v : SiemWorld cfg}, v.Lifecycle cs →
      v.Lifecycle (cs ++ calls [e]) := by
    intro hnil v hv
    rwa [hnil, List.append_nil]
  cases h with
  | enqueue line =>
      refine hsame rfl ?_
      cases hw with
      | new hnew hnone => exact .new hnew hnone
      | running hof hrunning h0 => exact .running hof hrunning h0
      | stopping hof hstopping h0 => exact .stopping hof hstopping h0
      | closed hcloser hclosed => exact .closed hcloser hclosed
  | started _ =>
      obtain ⟨rfl, hnew, -⟩ := hw.of_start hcalls
      have hlength : w.coroutines.length = 0 := by rw [length_coroutines, hnew, List.length_nil]
      have hof : OfLoop .created := trivial
      refine .running hof ?_ (congrArg some hlength)
      exact activities_spawn.trans (by rw [hnew]; rfl)
  | running hrunning =>
      obtain ⟨-, -, hnone⟩ := hw.of_start hcalls
      exact absurd (fun i hi => by cases hnone.symm.trans hi) hrunning
  | stopped hdone =>
      obtain ⟨loop, rfl, -, hactivities, h0⟩ := hw.of_stop hcalls
      have hended := activities_of_taskDone hactivities h0 hdone
      rw [length_coroutines, hended]
      exact Lifecycle.close (activities_spawn.trans (by rw [hended]; rfl))
  | stopping htask _ =>
      obtain ⟨loop, rfl, hof, hactivities, h0⟩ := hw.of_stop hcalls
      obtain rfl := Option.some.inj (h0.symm.trans htask)
      refine .stopping hof ?_ h0
      rw [activities_spawn, activities_requestCancel, hactivities]
      rfl
  | moved hmoves ha hidle hnext =>
      have hnil : calls [e] = [] := by cases e <;> first | rfl | cases hmoves
      refine hsame hnil (hw.move ha (Or.inl hidle) (fun _ => ?_) ?_ List.map_set rfl)
      · rcases hnext with rfl | ⟨_, rfl⟩ <;> trivial
      · rintro rfl
        cases hidle
  | woken ha =>
      obtain ⟨c, hc, hactivities, htask⟩ := activities_flush
      refine hsame rfl (hw.move ha (Or.inl trivial) (fun _ => ?_) nofun hactivities htask)
      rcases hc with rfl | rfl <;> trivial
  | returned ha hin =>
      -- A flush goes on in the loop, or was the last one of `stop`.
      obtain ⟨c, hc, hactivities, htask⟩ := activities_flush
      refine hsame rfl (hw.move ha (Or.inr hin) (fun hne => ?_) (fun hclosing => ?_) hactivities
        htask)
      · rcases hc with rfl | rfl
        · exact ofLoop_of_inSend hin hne
        · rw [if_neg hne]
          trivial
      · rcases hc with rfl | rfl
        · exact Or.inl hclosing
        · exact Or.inr (if_pos hclosing)
  | failed hfails ha hin hnext =>
      have hnil : calls [e] = [] := by cases e <;> first | rfl | cases hfails
      refine hsame hnil
        (hw.move ha (Or.inr hin) (fun _ => ?_) (fun hclosing => ?_) List.map_set rfl)
      · rcases hnext with rfl | ⟨_, -, rfl⟩ <;> trivial
      · rcases hnext with rfl | ⟨_, hsending, -⟩
        · exact Or.inr rfl
        · cases hclosing.symm.trans hsending
  | joined ha hfinished =>
      refine hsame rfl ?_
      rcases hw.coroutine ha with ⟨-, hof⟩ | ⟨rfl, hjoining, rfl, loop, hactivities⟩ |
        ⟨-, hjoining | hjoining, -⟩
      · cases hof
      · obtain rfl := Activity.joining.inj hjoining
        rw [activity_eq, hactivities] at hfinished
        obtain rfl := Option.some.inj hfinished
        exact Lifecycle.close hactivities
      · cases hjoining
      · cases hjoining

/-- When `stop` is called on a task that has ended, nobody is in a send. -/
theorem Lifecycle.noSend_of_stop (h : w.Lifecycle cs)
    (hcalls : cs ++ calls [.stop] <+: [.start, .stop]) (hdone : w.TaskDone) : w.NoSend := by
  intro j b hb hin
  obtain ⟨loop, rfl, -, hactivities, h0⟩ := h.of_stop hcalls
  rw [activity_eq, activities_of_taskDone hactivities h0 hdone] at hb
  obtain ⟨-, rfl⟩ := getElem?_single hb
  cases hin

/-- In a run with one start and one stop the sends never overlap. -/
theorem run_linedUp (h : (runs cfg).Run es w) (hcalls : calls es <+: [.start, .stop]) :
    w.Lifecycle (calls es) ∧ w.LinedUp := by
  induction h with
  | init hinit =>
      obtain rfl := hinit
      exact ⟨.new rfl rfl, Quiet.linedUp ⟨by simp [SiemWorld.init], rfl⟩⟩
  | @step es _ _ e _ hstep ih =>
      have hsplit : calls (es ++ [e]) = calls es ++ calls [e] := List.filter_append ..
      rw [hsplit] at hcalls ⊢
      obtain ⟨hlife, hlined⟩ := ih ((List.prefix_append _ _).trans hcalls)
      have hsteps := steps_of_step hstep
      refine ⟨hsteps.lifecycle hlife hcalls, hsteps.linedUp hlined hlife.serial ?_⟩
      rintro rfl hdone
      exact hlife.noSend_of_stop hcalls hdone

/-- **Export is ordered and free of duplicates.** In the order in which they are handed to
the transport the batches are a subsequence of the enqueued lines, none of which is in two
batches, and every batch has a proper size. With one start and one stop the sends return
in that order, too. -/
theorem export_ordered (h : (runs cfg).Run es w) :
    (w.sends.flatMap SendCall.batch).Sublist (enqueued es) ∧
      (w.lines .returned).Sublist (enqueued es) ∧
      ((enqueued es).Nodup → (w.sends.map SendCall.batch).Pairwise List.Disjoint) ∧
      (∀ s ∈ w.sends, 1 ≤ s.batch.length ∧ (s.batch.length : ℤ) ≤ cfg.batchSize) ∧
      (calls es <+: [.start, .stop] →
        w.delivered = w.returnedBatches ∧ w.delivered.flatten.Sublist (enqueued es)) := by
  obtain ⟨hledger, -, hadded, -⟩ := run_spec h
  have hall : (w.sends.flatMap SendCall.batch).Sublist (enqueued es) := by
    rw [hledger.handed, ← hadded]
    exact (List.sublist_append_left _ _).trans w.outbox.ordered
  have hreturned : (w.lines .returned).Sublist (enqueued es) :=
    (List.Sublist.flatMap List.filter_sublist SendCall.batch).trans hall
  refine ⟨hall, hreturned, fun hnodup => ?_, fun s hs => ?_, fun hcalls => ?_⟩
  · have hflat : (w.sends.map SendCall.batch).flatten.Nodup := by
      rw [← List.flatMap_def]
      exact hall.nodup hnodup
    exact (List.nodup_flatten.mp hflat).2
  · obtain ⟨hne, hsize⟩ := hledger.sized s hs
    exact ⟨List.length_pos_of_ne_nil hne, hsize⟩
  · obtain ⟨-, hlined⟩ := run_linedUp h hcalls
    refine ⟨hlined.delivered, ?_⟩
    rw [hlined.delivered, returnedBatches, ← List.flatMap_def]
    exact hreturned

/-- A queue of three lines that are sent two at a time: the first of four lines is evicted, the
second batch is lost, a third one is sent after the backoff, and the exporter is stopped. -/
def twoBatches : List SiemEvent :=
  [.enqueue (py "a"), .enqueue (py "b"), .enqueue (py "c"), .enqueue (py "d"), .start, .begin 0,
    .wake 0, .sendReturned 0, .sendRaised 0, .enqueue (py "e"), .wake 0, .wake 0, .sendReturned 0,
    .stop, .interrupt 0, .joined 1]

theorem export_ordered_twoBatches : ∃ w : SiemWorld ⟨3, 2⟩,
    (runs ⟨3, 2⟩).Run twoBatches w ∧ w.delivered = [[py "b", py "c"], [py "e"]] ∧
      (w.sends.map SendCall.batch).Pairwise List.Disjoint ∧
      w.delivered.flatten.Sublist (enqueued twoBatches) := by
  obtain ⟨w, hw⟩ := Option.isSome_iff_exists.mp
    (by decide : (twoBatches.foldlM step (init : SiemWorld ⟨3, 2⟩)).isSome = true)
  have hrun : (runs ⟨3, 2⟩).Run twoBatches w := .replay (fun _ _ _ => id) (.init rfl) twoBatches hw
  have hdelivered : (twoBatches.foldlM step (init : SiemWorld ⟨3, 2⟩)).map (·.delivered) =
      some [[py "b", py "c"], [py "e"]] := by decide
  rw [hw] at hdelivered
  obtain ⟨-, -, hdisjoint, -, hlined⟩ := export_ordered hrun
  exact ⟨w, hrun, Option.some.inj hdelivered, hdisjoint (by decide), (hlined (by decide)).2⟩

end SiemWorld

end AgentSentinel
