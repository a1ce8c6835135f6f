import AgentSentinel.Lib.BoundedQueue
import AgentSentinel.Lib.Transition
import AgentSentinel.Python.Exceptions

/-!
# AgentSentinel.Observability.SiemExporter

The SIEM exporter: a bounded outbox, a background task that flushes it with a backoff
after failures, and a `stop` that cancels the task and flushes what is left.

The coroutines of one exporter run interleaved on an event loop, each from one `await` to
the next. A step of the system is an `enqueue`, a call of `start` or `stop` up to its
first suspension, or one coroutine taken from the `await` it is suspended in to the next
one. A send may return, raise, or end by cancellation.

A batch leaves the outbox before it is sent. A send that fails takes its batch with it:
the loop backs off and goes on with what is in the outbox, and nothing puts the batch
back. So no record is lost exactly in the runs in which no send fails.
-/

namespace AgentSentinel

open Lib

/-- The exporter's settings: the bound of the outbox and the size of a batch. -/
structure SiemConfig where
  maxOutbox : ℕ := 10000
  batchSize : ℤ := 100

/-- What a coroutine of the exporter is suspended in. -/
inductive Activity
  /-- `_run`, before its first step. -/
  | created
  /-- `_run`, in the sleep before a flush. -/
  | sleeping (backoff : ℚ)
  /-- `_run`, in the send of a flush. -/
  | sending (backoff : ℚ)
  /-- `_run`, in the sleep after a failure. -/
  | backingOff (backoff : ℚ)
  /-- `stop`, waiting for the cancelled task. -/
  | joining (task : ℕ)
  /-- `stop`, in the send of its own flush. -/
  | closing
  /-- Returned, raised or cancelled. -/
  | finished
  deriving DecidableEq

namespace Activity

/-- The coroutine is suspended in a send. -/
def InSend : Activity → Prop
  | sending _ | closing => True
  | _ => False

/-- The coroutine is the background task, before a flush or after a failed one. -/
def Idle : Activity → Prop
  | created | sleeping _ | backingOff _ => True
  | _ => False

theorem Idle.not_inSend {a : Activity} (h : a.Idle) : ¬ a.InSend := by
  cases a <;> simp_all [Idle, InSend]

end Activity

/-- A coroutine, and whether its cancellation has been requested and not yet delivered. -/
structure Coroutine where
  activity : Activity
  cancelRequested : Bool := false
  deriving DecidableEq

/-- How a send has ended. -/
inductive SendOutcome
  | pending
  | returned
  | failed
  deriving DecidableEq

/-- One call of the transport: the coroutine that made it, and the batch. -/
structure SendCall where
  caller : ℕ
  batch : List PyStr
  outcome : SendOutcome
  deriving DecidableEq

/-- The exporter and its coroutines, numbered in the order of their creation. The calls of
the transport and the batches whose send has returned, in that order, are recorded for
stating properties only. -/
structure SiemWorld (cfg : SiemConfig) where
  outbox : BoundedQueue PyStr cfg.maxOutbox
  coroutines : List Coroutine
  task : Option ℕ
  sends : List SendCall
  delivered : List (List PyStr)

/-- What happens next. -/
inductive SiemEvent
  /-- `enqueue`, of the line a record is dumped to. -/
  | enqueue (line : PyStr)
  | start
  | stop
  /-- The first step of a task. -/
  | begin (i : ℕ)
  /-- A sleep is over. -/
  | wake (i : ℕ)
  /-- A cancellation is delivered to a coroutine that sleeps. -/
  | interrupt (i : ℕ)
  | sendReturned (i : ℕ)
  | sendRaised (i : ℕ)
  | sendCancelled (i : ℕ)
  /-- The task `stop` waits for has ended. -/
  | joined (i : ℕ)
  deriving DecidableEq

namespace SiemEvent

/-- A send ends without having returned. -/
def Fails : SiemEvent → Prop
  | sendRaised _ | sendCancelled _ => True
  | _ => False

/-- The line an event enqueues. -/
def line : SiemEvent → Option PyStr
  | enqueue line => some line
  | _ => none

/-- A coroutine goes on that is not in a send. -/
def Moves : SiemEvent → Prop
  | begin _ | wake _ | interrupt _ => True
  | _ => False

end SiemEvent

namespace SiemWorld

variable {cfg : SiemConfig} (w : SiemWorld cfg)

/-- What coroutine `i` is suspended in. -/
def activity (i : ℕ) : Option Activity := (w.coroutines[i]?).map Coroutine.activity

def CancelRequested (i : ℕ) : Prop := (w.coroutines[i]?).map Coroutine.cancelRequested = some true

instance (i : ℕ) : Decidable (w.CancelRequested i) := inferInstanceAs (Decidable (_ = _))

/-- Coroutine `i` comes to its next suspension; a request to cancel it has been
delivered. -/
def goto (i : ℕ) (activity : Activity) : SiemWorld cfg :=
  { w with coroutines := w.coroutines.set i { activity } }

/-- A new coroutine. -/
def spawn (activity : Activity) : SiemWorld cfg :=
  { w with coroutines := w.coroutines ++ [{ activity }] }

/-- `_flush` by coroutine `i`, to the next send or to its end. -/
def flush (i : ℕ) (inSend after : Activity) : SiemWorld cfg :=
  match w.outbox.items.take cfg.batchSize.toNat with
  | [] => w.goto i after
  | line :: lines =>
    let batch := line :: lines
    ({ w with
      outbox := w.outbox.take cfg.batchSize.toNat
      sends := w.sends ++ [⟨i, batch, .pending⟩] } : SiemWorld cfg).goto i inSend

/-- The send of coroutine `i` ends. -/
def resolve (i : ℕ) (outcome : SendOutcome) : SiemWorld cfg :=
  { w with
    sends := w.sends.map fun s =>
      if s.caller = i ∧ s.outcome = .pending then { s with outcome } else s
    delivered := w.delivered ++ if outcome = .returned then
      (w.sends.filter fun s => s.caller = i ∧ s.outcome = .pending).map SendCall.batch else [] }

/-- `task.cancel()`. -/
def requestCancel (i : ℕ) : SiemWorld cfg :=
  { w with coroutines := w.coroutines.modify i fun c => { c with cancelRequested := true } }

/-- `self._task is None or self._task.done()`. -/
def TaskDone : Prop := ∀ i, w.task = some i → w.activity i = some .finished

instance : Decidable w.TaskDone :=
  match h : w.task with
  | none => isTrue fun i hi => by cases h.symm.trans hi
  | some i => decidable_of_iff (w.activity i = some .finished)
      ⟨fun hdone j hj => Option.some.inj (h.symm.trans hj) ▸ hdone, fun hdone => hdone i h⟩

/-- The last part of `stop`: `self._task = None` and a flush of its own. -/
def close (i : ℕ) : SiemWorld cfg :=
  ({ w with task := none } : SiemWorld cfg).flush i .closing .finished

/-- One step; `none` where the event cannot happen. -/
def step : SiemEvent → Option (SiemWorld cfg)
  | .enqueue line => some { w with outbox := w.outbox.push line }
  | .start =>
    if w.TaskDone then some { w.spawn .created with task := some w.coroutines.length } else some w
  | .stop =>
    match w.task with
    | none => some ((w.spawn .finished).close w.coroutines.length)
    | some i =>
      -- A task that is done is awaited without suspending.
      if w.activity i = some .finished then
        some ((w.spawn .finished).close w.coroutines.length)
      else some ((w.requestCancel i).spawn (.joining i))
  | .begin i =>
    if w.activity i = some .created then
      some (w.goto i (if w.CancelRequested i then .finished else .sleeping (1 / 2)))
    else none
  | .wake i =>
    if w.CancelRequested i then none
    else match w.activity i with
      | some (.sleeping backoff) => some (w.flush i (.sending backoff) (.sleeping (1 / 2)))
      | some (.backingOff backoff) => some (w.goto i (.sleeping (min (backoff * 2) 30)))
      | _ => none
  | .interrupt i =>
    if w.CancelRequested i then
      match w.activity i with
      | some (.sleeping _) | some (.backingOff _) => some (w.goto i .finished)
      | _ => none
    else none
  | .sendReturned i =>
    match w.activity i with
    | some (.sending backoff) =>
      some ((w.resolve i .returned).flush i (.sending backoff) (.sleeping (1 / 2)))
    | some .closing => some ((w.resolve i .returned).flush i .closing .finished)
    | _ => none
  | .sendRaised i =>
    match w.activity i with
    | some (.sending backoff) => some ((w.resolve i .failed).goto i (.backingOff backoff))
    | some .closing => some ((w.resolve i .failed).goto i .finished)
    | _ => none
  | .sendCancelled i =>
    match w.activity i with
    | some (.sending _) | some .closing => some ((w.resolve i .failed).goto i .finished)
    | _ => none
  | .joined i =>
    match w.activity i with
    | some (.joining task) =>
      if w.activity task = some .finished then some (w.close i) else none
    | _ => none

/-- An exporter that has just been constructed. -/
def init : SiemWorld cfg := ⟨.empty, [], none, [], []⟩

/-- All runs of one exporter. -/
def runs (cfg : SiemConfig) : TransitionSystem (SiemWorld cfg) SiemEvent where
  init w := w = init
  step w e w' := w.step e = some w'

/-! ### What a step can do -/

/-- Everything a step can do: how it moves the coroutines, and which of the three
operations on the records, `enqueue`, `resolve` and `flush`, it performs on the way. -/
inductive Steps (w : SiemWorld cfg) : SiemEvent → SiemWorld cfg → Prop
  | enqueue (line : PyStr) : Steps w (.enqueue line) { w with outbox := w.outbox.push line }
  | started : w.TaskDone →
      Steps w .start { w.spawn .created with task := some w.coroutines.length }
  | running : ¬ w.TaskDone → Steps w .start w
  | stopped : w.TaskDone → Steps w .stop ((w.spawn .finished).close w.coroutines.length)
  | stopping {i : ℕ} : w.task = some i → w.activity i ≠ some .finished →
      Steps w .stop ((w.requestCancel i).spawn (.joining i))
  | moved {e : SiemEvent} {i : ℕ} {a a' : Activity} : e.Moves → w.activity i = some a →
      a.Idle → (a' = .finished ∨ ∃ backoff, a' = .sleeping backoff) → Steps w e (w.goto i a')
  | woken {i : ℕ} {backoff : ℚ} : w.activity i = some (.sleeping backoff) →
      Steps w (.wake i) (w.flush i (.sending backoff) (.sleeping (1 / 2)))
  | returned {i : ℕ} {a : Activity} : w.activity i = some a → a.InSend →
      Steps w (.sendReturned i) ((w.resolve i .returned).flush i a
        (if a = .closing then .finished else .sleeping (1 / 2)))
  | failed {e : SiemEvent} {i : ℕ} {a a' : Activity} : e.Fails → w.activity i = some a →
      a.InSend → (a' = .finished ∨ ∃ backoff, a = .sending backoff ∧ a' = .backingOff backoff) →
      Steps w e ((w.resolve i .failed).goto i a')
  | joined {i task : ℕ} : w.activity i = some (.joining task) →
      w.activity task = some .finished → Steps w (.joined i) (w.close i)

variable {w} {w' : SiemWorld cfg} {e : SiemEvent}

theorem steps_of_step (h : w.step e = some w') : w.Steps e w' := by
  cases e with
  | enqueue line =>
      obtain rfl := Option.some.inj h
      exact .enqueue line
  | start =>
      simp only [step] at h
      split at h
      · next hdone =>
          obtain rfl := Option.some.inj h
          exact .started hdone
      · next hdone =>
          obtain rfl := Option.some.inj h
          exact .running hdone
  | stop =>
      simp only [step] at h
      split at h
      · next hnone =>
          obtain rfl := Option.some.inj h
          exact .stopped fun i hi => by cases hnone.symm.trans hi
      · next i hi =>
          split at h
          · next hfinished =>
              obtain rfl := Option.some.inj h
              exact .stopped fun j hj => Option.some.inj (hi.symm.trans hj) ▸ hfinished
          · next hrunning =>
              obtain rfl := Option.some.inj h
              exact .stopping hi hrunning
  | begin i =>
      -- A task that was cancelled before its first step ends there.
      obtain ⟨hcreated, heq⟩ := Option.ite_none_right_eq_some.mp h
      obtain rfl := Option.some.inj heq
      refine .moved trivial hcreated trivial ?_
      split
      · exact Or.inl rfl
      · exact Or.inr ⟨_, rfl⟩
  | wake i =>
      simp only [step] at h
      split at h
      · cases h
      · split at h
        · next hsleeping =>
            obtain rfl := Option.some.inj h
            exact .woken hsleeping
        · next hbacking =>
            obtain rfl := Option.some.inj h
            exact .moved trivial hbacking trivial (Or.inr ⟨_, rfl⟩)
        · cases h
  | interrupt i =>
      obtain ⟨-, h⟩ := Option.ite_none_right_eq_some.mp h
      split at h
      · next hsleeping =>
          obtain rfl := Option.some.inj h
          exact .moved trivial hsleeping trivial (Or.inl rfl)
      · next hbacking =>
          obtain rfl := Option.some.inj h
          exact .moved trivial hbacking trivial (Or.inl rfl)
      · cases h
  | sendReturned i =>
      simp only [step] at h
      split at h
      · next hsending =>
          obtain rfl := Option.some.inj h
          exact .returned hsending trivial
      · next hclosing =>
          obtain rfl := Option.some.inj h
          exact .returned hclosing trivial
      · cases h
  | sendRaised i =>
      simp only [step] at h
      split at h
      · next hsending =>
          obtain rfl := Option.some.inj h
          exact .failed trivial hsending trivial (Or.inr ⟨_, rfl, rfl⟩)
      · next hclosing =>
          obtain rfl := Option.some.inj h
          exact .failed trivial hclosing trivial (Or.inl rfl)
      · cases h
  | sendCancelled i =>
      simp only [step] at h
      split at h
      · next hsending =>
          obtain rfl := Option.some.inj h
          exact .failed trivial hsending trivial (Or.inl rfl)
      · next hclosing =>
          obtain rfl := Option.some.inj h
          exact .failed trivial hclosing trivial (Or.inl rfl)
      · cases h
  | joined i =>
      simp only [step] at h
      split at h
      · next task hjoining =>
          obtain ⟨hfinished, heq⟩ := Option.ite_none_right_eq_some.mp h
          obtain rfl := Option.some.inj heq
          exact .joined hjoining hfinished
      · cases h

/-! ### The ledger -/

/-- What the exporter has taken from the outbox it has handed to the transport, in batches
that are neither empty nor too large. -/
structure Ledger (w : SiemWorld cfg) : Prop where
  handed : w.sends.flatMap SendCall.batch = w.outbox.taken
  sized : ∀ s ∈ w.sends, s.batch ≠ [] ∧ (s.batch.length : ℤ) ≤ cfg.batchSize

variable {i j : ℕ} {a b : Activity} {outcome : SendOutcome}

/-- `_flush` finds nothing to send, or it hands over a batch. -/
theorem flush_cases : w.flush i a b = w.goto i b ∨
    ∃ batch, batch ≠ [] ∧ batch = w.outbox.items.take cfg.batchSize.toNat ∧
      w.flush i a b = ({ w with
        outbox := w.outbox.take cfg.batchSize.toNat
        sends := w.sends ++ [⟨i, batch, .pending⟩] } : SiemWorld cfg).goto i a := by
  unfold flush
  split
  · exact Or.inl rfl
  · next line lines hbatch => exact Or.inr ⟨_, List.cons_ne_nil _ _, hbatch.symm, rfl⟩

theorem Ledger.goto (h : w.Ledger) : (w.goto i a).Ledger := ⟨h.handed, h.sized⟩

theorem Ledger.flush (h : w.Ledger) : (w.flush i a b).Ledger := by
  rcases flush_cases (w := w) (i := i) (a := a) (b := b) with heq | ⟨batch, hne, hbatch, heq⟩
  · exact heq ▸ h.goto
  · rw [heq]
    refine ⟨?_, ?_⟩
    · show (w.sends ++ [(⟨i, batch, .pending⟩ : SendCall)]).flatMap SendCall.batch = _
      rw [List.flatMap_append, h.handed, List.flatMap_singleton, hbatch]
      rfl
    · intro s hs
      rcases List.mem_append.mp hs with hs | hs
      · exact h.sized s hs
      · obtain rfl := List.mem_singleton.mp hs
        have hlength := congrArg List.length hbatch
        have hpos := List.length_pos_of_ne_nil hne
        rw [List.length_take] at hlength
        refine ⟨hne, ?_⟩
        show (batch.length : ℤ) ≤ cfg.batchSize
        omega

theorem Ledger.resolve (h : w.Ledger) : (w.resolve i outcome).Ledger := by
  refine ⟨?_, ?_⟩
  · refine Eq.trans ?_ h.handed
    simp only [SiemWorld.resolve, List.flatMap_map]
    exact List.flatMap_congr fun s _ => by split <;> rfl
  · intro s hs
    obtain ⟨s', hs', rfl⟩ := List.mem_map.mp hs
    have hsized := h.sized s' hs'
    split <;> exact hsized

theorem Steps.ledger (h : w.Steps e w') (hw : w.Ledger) : w'.Ledger := by
  cases h with
  | enqueue line => exact ⟨hw.handed, hw.sized⟩
  | started _ => exact ⟨hw.handed, hw.sized⟩
  | running _ => exact hw
  | stopped _ => exact Ledger.flush ⟨hw.handed, hw.sized⟩
  | stopping _ _ => exact ⟨hw.handed, hw.sized⟩
  | moved _ _ _ _ => exact hw.goto
  | woken _ => exact hw.flush
  | returned _ _ => exact hw.resolve.flush
  | failed _ _ _ _ => exact hw.resolve.goto
  | joined _ _ => exact Ledger.flush ⟨hw.handed, hw.sized⟩

/-- The lines in the sends that have ended this way. -/
def lines (w : SiemWorld cfg) (outcome : SendOutcome) : List PyStr :=
  (w.sends.filter fun s => s.outcome = outcome).flatMap SendCall.batch

/-- Every one of the lines has been delivered, is in a send or in the outbox, or was
evicted by an overflow. -/
def Accounted (w : SiemWorld cfg) (enqueued : List PyStr) : Prop :=
  (enqueued : Multiset PyStr) ≤
    w.lines .returned + w.lines .pending + w.outbox.items + w.outbox.evicted

/-- Some send has failed. -/
def HasFailed (w : SiemWorld cfg) : Prop := ∃ s ∈ w.sends, s.outcome = .failed

theorem coe_handed (sends : List SendCall) :
    (sends.flatMap SendCall.batch : Multiset PyStr) =
      (sends.filter fun s => s.outcome = .returned).flatMap SendCall.batch +
      (sends.filter fun s => s.outcome = .pending).flatMap SendCall.batch +
      (sends.filter fun s => s.outcome = .failed).flatMap SendCall.batch := by
  induction sends with
  | nil => rfl
  | cons s sends ih =>
      rw [List.flatMap_cons, ← Multiset.coe_add, ih]
      cases houtcome : s.outcome <;> simp [houtcome, ← Multiset.coe_add] <;> abel

/-- What is not accounted for is what was in the failed sends. -/
theorem Ledger.added_eq (h : w.Ledger) : (w.outbox.added : Multiset PyStr) =
    w.lines .returned + w.lines .pending + w.outbox.items + w.outbox.evicted +
      w.lines .failed := by
  rw [← w.outbox.conserved, ← h.handed, coe_handed]
  simp only [lines]
  abel

theorem Ledger.accounted_iff_not_hasFailed (h : w.Ledger) :
    w.Accounted w.outbox.added ↔ ¬ w.HasFailed := by
  rw [Accounted, h.added_eq, add_le_iff_nonpos_right, nonpos_iff_eq_zero, Multiset.coe_eq_zero,
    lines, List.flatMap_eq_nil_iff]
  constructor
  · rintro hempty ⟨s, hs, hfailed⟩
    exact (h.sized s hs).1 (hempty s (List.mem_filter.mpr ⟨hs, by simpa using hfailed⟩))
  · intro hno s hs
    obtain ⟨hs, hfailed⟩ := List.mem_filter.mp hs
    exact absurd ⟨s, hs, by simpa using hfailed⟩ hno

/-! ### Failed sends -/

/-- If coroutine `i` is in a send, the send is on record and pending. -/
def Backed (w : SiemWorld cfg) (i : ℕ) : Prop :=
  ∀ a, w.activity i = some a → a.InSend → ∃ s ∈ w.sends, s.caller = i ∧ s.outcome = .pending

theorem activity_goto (h : (w.goto i a).activity j = some b) :
    (i = j ∧ b = a) ∨ (i ≠ j ∧ w.activity j = some b) := by
  simp only [activity, goto, List.getElem?_set] at h
  split at h
  · next heq =>
      split at h
      · exact Or.inl ⟨heq, (Option.some.inj h).symm⟩
      · cases h
  · next hne => exact Or.inr ⟨hne, h⟩

theorem activity_spawn (h : (w.spawn a).activity j = some b) :
    (j = w.coroutines.length ∧ b = a) ∨ w.activity j = some b := by
  simp only [activity, spawn, List.getElem?_append] at h
  split at h
  · exact Or.inr h
  · next hge =>
      obtain ⟨c, hc, rfl⟩ := Option.map_eq_some_iff.mp h
      obtain ⟨hlt, rfl⟩ := List.getElem?_eq_some_iff.mp hc
      rw [List.length_singleton] at hlt
      exact Or.inl ⟨by omega, by simp⟩

theorem activity_requestCancel : (w.requestCancel i).activity j = w.activity j := by
  simp only [activity, requestCancel, List.getElem?_modify]
  cases w.coroutines[j]? with
  | none => rfl
  | some c => by_cases heq : i = j <;> simp [heq]

theorem backed_goto (h : ∀ j, j ≠ i → w.Backed j) (ha : ¬ a.InSend) (j : ℕ) :
    (w.goto i a).Backed j := by
  intro b hb hin
  rcases activity_goto hb with ⟨-, rfl⟩ | ⟨hne, hb⟩
  · exact absurd hin ha
  · exact h j hne.symm b hb hin

theorem backed_flush (h : ∀ j, j ≠ i → w.Backed j) (hb : ¬ b.InSend) (j : ℕ) :
    (w.flush i a b).Backed j := by
  rcases flush_cases (w := w) (i := i) (a := a) (b := b) with heq | ⟨batch, -, -, heq⟩
  · exact heq ▸ backed_goto h hb j
  · rw [heq]
    intro c hc hin
    rcases activity_goto hc with ⟨rfl, -⟩ | ⟨hne, hc⟩
    · exact ⟨_, List.mem_append_right _ (List.mem_singleton.mpr rfl), rfl, rfl⟩
    · obtain ⟨s, hs, hcaller, hpending⟩ := h j hne.symm c hc hin
      exact ⟨s, List.mem_append_left _ hs, hcaller, hpending⟩

theorem backed_close (h : ∀ j, j ≠ i → w.Backed j) (j : ℕ) : (w.close i).Backed j :=
  backed_flush (w := { w with task := none }) (b := .finished) h id j

theorem backed_resolve (h : w.Backed j) (hne : j ≠ i) : (w.resolve i outcome).Backed j := by
  intro a ha hin
  obtain ⟨s, hs, rfl, hpending⟩ := h a ha hin
  exact ⟨s, List.mem_map.mpr ⟨s, hs, if_neg fun hboth => hne hboth.1⟩, rfl, hpending⟩

theorem backed_spawn (h : ∀ j, w.Backed j) (ha : ¬ a.InSend) (j : ℕ) : (w.spawn a).Backed j := by
  intro b hb hin
  rcases activity_spawn hb with ⟨-, rfl⟩ | hb
  · exact absurd hin ha
  · exact h j b hb hin

theorem Steps.backed (h : w.Steps e w') (hw : ∀ i, w.Backed i) (j : ℕ) : w'.Backed j := by
  cases h with
  | enqueue line => exact hw j
  | started _ => exact backed_spawn hw id j
  | running _ => exact hw j
  | stopped _ =>
      exact backed_close (fun j _ => backed_spawn (a := .finished) hw id j) j
  | stopping _ _ =>
      refine backed_spawn (fun j a ha hin => ?_) id j
      rw [activity_requestCancel] at ha
      exact hw j a ha hin
  | moved _ _ _ hnext =>
      refine backed_goto (fun j _ => hw j) ?_ j
      rcases hnext with rfl | ⟨_, rfl⟩ <;> exact id
  | woken _ => exact backed_flush (fun j _ => hw j) id j
  | returned _ _ =>
      refine backed_flush (fun j hne => backed_resolve (hw j) hne) ?_ j
      split <;> exact id
  | failed _ _ _ hnext =>
      refine backed_goto (fun j hne => backed_resolve (hw j) hne) ?_ j
      rcases hnext with rfl | ⟨_, -, rfl⟩ <;> exact id
  | joined _ _ => exact backed_close (fun j _ => hw j) j

@[simp] theorem hasFailed_goto : (w.goto i a).HasFailed ↔ w.HasFailed := Iff.rfl

@[simp] theorem hasFailed_flush : (w.flush i a b).HasFailed ↔ w.HasFailed := by
  rcases flush_cases (w := w) (i := i) (a := a) (b := b) with heq | ⟨batch, -, -, heq⟩
  · rw [heq, hasFailed_goto]
  · rw [heq, hasFailed_goto]
    simp [HasFailed]

@[simp] theorem hasFailed_returned : (w.resolve i .returned).HasFailed ↔ w.HasFailed := by
  constructor
  · rintro ⟨s, hs, hfailed⟩
    obtain ⟨s', hs', rfl⟩ := List.mem_map.mp hs
    split at hfailed
    · cases hfailed
    · exact ⟨s', hs', hfailed⟩
  · rintro ⟨s, hs, hfailed⟩
    refine ⟨s, List.mem_map.mpr ⟨s, hs, if_neg ?_⟩, hfailed⟩
    rintro ⟨-, hpending⟩
    cases hfailed.symm.trans hpending

/-- The batch of a send that fails is gone. -/
theorem hasFailed_failed (hbacked : w.Backed i) (ha : w.activity i = some a) (hin : a.InSend) :
    (w.resolve i .failed).HasFailed := by
  obtain ⟨s, hs, hboth⟩ := hbacked a ha hin
  exact ⟨_, List.mem_map.mpr ⟨s, hs, rfl⟩, by rw [if_pos hboth]⟩

/-- A step leaves a failed send behind exactly when there was one or it is one. -/
theorem Steps.hasFailed_iff (h : w.Steps e w') (hw : ∀ i, w.Backed i) :
    w'.HasFailed ↔ w.HasFailed ∨ e.Fails := by
  cases h with
  | enqueue line => exact (or_iff_left id).symm
  | started _ => exact (or_iff_left id).symm
  | running _ => exact (or_iff_left id).symm
  | stopped _ => exact hasFailed_flush.trans (or_iff_left id).symm
  | stopping _ _ => exact (or_iff_left id).symm
  | moved hmoves _ _ _ =>
      refine hasFailed_goto.trans (or_iff_left ?_).symm
      cases e <;> first | exact id | cases hmoves
  | woken _ => exact hasFailed_flush.trans (or_iff_left id).symm
  | returned _ _ => exact (hasFailed_flush.trans hasFailed_returned).trans (or_iff_left id).symm
  | failed hfails ha hin _ => exact iff_of_true (hasFailed_failed (hw _) ha hin) (Or.inr hfails)
  | joined _ _ => exact hasFailed_flush.trans (or_iff_left id).symm

/-- What a step adds to the enqueued lines. -/
theorem Steps.added_eq (h : w.Steps e w') :
    w'.outbox.added = w.outbox.added ++ e.line.toList := by
  have hflush : ∀ (w : SiemWorld cfg) i a b, (w.flush i a b).outbox.added = w.outbox.added := by
    intro w i a b
    rcases flush_cases (w := w) (i := i) (a := a) (b := b) with heq | ⟨batch, -, -, heq⟩ <;>
      exact heq ▸ rfl
  cases h with
  | enqueue line => rfl
  | started _ => exact (List.append_nil _).symm
  | running _ => exact (List.append_nil _).symm
  | stopped _ => exact (hflush _ _ _ _).trans (List.append_nil _).symm
  | stopping _ _ => exact (List.append_nil _).symm
  | moved hmoves _ _ _ =>
      have hnone : e.line = none := by cases e <;> first | rfl | cases hmoves
      rw [hnone]
      exact (List.append_nil _).symm
  | woken _ => exact (hflush _ _ _ _).trans (List.append_nil _).symm
  | returned _ _ => exact (hflush _ _ _ _).trans (List.append_nil _).symm
  | failed hfails _ _ _ =>
      have hnone : e.line = none := by cases e <;> first | rfl | cases hfails
      rw [hnone]
      exact (List.append_nil _).symm
  | joined _ _ => exact (hflush _ _ _ _).trans (List.append_nil _).symm

/-- The lines enqueued in a run, in order. -/
def enqueued (es : List SiemEvent) : List PyStr := es.filterMap SiemEvent.line

/-- What is true at the end of every run. -/
theorem run_spec {es : List SiemEvent} (h : (runs cfg).Run es w) :
    w.Ledger ∧ (∀ i, w.Backed i) ∧ w.outbox.added = enqueued es ∧
      (w.HasFailed ↔ ∃ e ∈ es, e.Fails) := by
  induction h with
  | init hinit =>
      obtain rfl := hinit
      refine ⟨⟨rfl, by simp [SiemWorld.init]⟩, ?_, rfl, by simp [HasFailed, SiemWorld.init]⟩
      intro i a ha
      cases ha
  | step _ hstep ih =>
      obtain ⟨hledger, hbacked, hadded, hfailed⟩ := ih
      have hsteps := steps_of_step hstep
      refine ⟨hsteps.ledger hledger, hsteps.backed hbacked, ?_, ?_⟩
      · rw [hsteps.added_eq, hadded, enqueued, enqueued, List.filterMap_append]
        rfl
      · rw [hsteps.hasFailed_iff hbacked, hfailed]
        simp [or_and_right, exists_or]

/-- **Export loses records** exactly by sends that fail: at the end of a run every
enqueued line is accounted for if and only if no send of the run raised or was
cancelled. -/
theorem accounted_iff {es : List SiemEvent} (h : (runs cfg).Run es w) :
    w.Accounted (enqueued es) ↔ ∀ e ∈ es, ¬ e.Fails := by
  obtain ⟨hledger, -, hadded, hfailed⟩ := run_spec h
  rw [← hadded, hledger.accounted_iff_not_hasFailed, hfailed]
  simp

theorem run_of_events {es : List SiemEvent}
    (h : (es.foldlM step (init : SiemWorld cfg)).isSome = true) : ∃ w, (runs cfg).Run es w := by
  obtain ⟨w, hw⟩ := Option.isSome_iff_exists.mp h
  exact ⟨w, .replay (fun _ _ _ => id) (.init rfl) es hw⟩

/-- A record is enqueued and handed to the transport. -/
def handOver : List SiemEvent := [.enqueue (py "r"), .start, .begin 0, .wake 0]

theorem accounted_handOver : ∃ w : SiemWorld {}, (runs {}).Run (handOver ++ [.sendReturned 0]) w ∧
    w.Accounted (enqueued (handOver ++ [.sendReturned 0])) := by
  obtain ⟨w, hrun⟩ : ∃ w, (runs {}).Run (handOver ++ [.sendReturned 0]) w :=
    run_of_events (by decide)
  refine ⟨w, hrun, (accounted_iff hrun).mpr ?_⟩
  simp [handOver, SiemEvent.Fails]

/-- The transport raises, and the record is nowhere. -/
theorem failed_send_loses : ¬ ∀ (cfg : SiemConfig) (es : List SiemEvent) (w : SiemWorld cfg),
    (runs cfg).Run es w → w.Accounted (enqueued es) := by
  intro h
  obtain ⟨w, hrun⟩ : ∃ w, (runs {}).Run (handOver ++ [.sendRaised 0]) w :=
    run_of_events (by decide)
  obtain ⟨hledger, -, hadded, hfailed⟩ := run_spec hrun
  have hlost : w.HasFailed := hfailed.mpr ⟨.sendRaised 0, by simp, trivial⟩
  exact hledger.accounted_iff_not_hasFailed.mp (hadded ▸ h {} _ w hrun) hlost

end SiemWorld

end AgentSentinel
