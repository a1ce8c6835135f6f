import AgentSentinel.Classifiers.AnomalyDetector
import AgentSentinel.Lib.SlidingWindow

/-!
# AgentSentinel.Classifiers.BaselineRuns

Runs of `record` on the in-memory store, for any agents in any order. Each agent's deque is
the sliding window over what was recorded for it: dropping from the left is enough, as the
entries are appended in the order of the clock.
-/

namespace AgentSentinel

open Lib

/-- A call of `record`, at the time it reads from the clock. -/
structure RecordCall where
  agentDid : PyStr
  time : ℚ
  action : Action

/-- What the call appends to the deque of its agent. -/
def RecordCall.entry (call : RecordCall) : ℚ × PyStr × PyStr :=
  (call.time, call.action.type.value, call.action.tool.getD [])

namespace BaselineStore

/-- The store after calls of `record`, from a new one. -/
def recordAll (horizon : ℚ) (calls : List RecordCall) : BaselineStore :=
  calls.foldl (fun store call => store.record call.agentDid call.time call.action) { horizon }

/-- What the calls for an agent recorded, in their order. -/
def recordedFor (did : PyStr) (calls : List RecordCall) : List (ℚ × PyStr × PyStr) :=
  (calls.filter fun call => call.agentDid = did).map RecordCall.entry

variable {store : BaselineStore} {horizon now : ℚ} {did did' : PyStr} {action : Action}
  {calls : List RecordCall} {call : RecordCall}

/-- The store's dictionary after a call. -/
theorem get_record : (store.record did now action).windows.get did' =
    if did' = did then some (extend (store.window did) now action) else store.windows.get did' := by
  simp only [record, getWindow, PyDict.get_set]
  split <;> rfl

theorem recordAll_concat : recordAll horizon (calls ++ [call]) =
    (recordAll horizon calls).record call.agentDid call.time call.action := by
  simp [recordAll]

theorem recordedFor_concat_self : recordedFor call.agentDid (calls ++ [call]) =
    recordedFor call.agentDid calls ++ [call.entry] := by
  simp [recordedFor]

/-- Every window is the sliding window over what was recorded for its agent. -/
theorem window_recordAll : (recordAll horizon calls).window did =
    ⟨SlidingWindow.after Prod.fst horizon (recordedFor did calls), horizon⟩ := by
  refine SlidingWindow.read_foldl BaselineStore.window
    (fun actions => (⟨actions, horizon⟩ : AgentWindow))
    (fun store call actions hwin => ?_) (fun store call did hdid => window_record_of_ne hdid) rfl
    calls
  rw [window_record, hwin]
  rfl

/-- **The window is the recent history.** A call leaves in the deque of its agent what was
recorded for the agent within the horizon, in the order of recording, and leaves the windows
of all other agents as they were. -/
theorem recordAll_exact (h : SlidingWindow.InOrder RecordCall.time (calls ++ [call])) :
    (recordAll horizon (calls ++ [call])).windows.get call.agentDid =
        some ⟨(recordedFor call.agentDid (calls ++ [call])).filter
          fun e => call.time - horizon ≤ e.1, horizon⟩ ∧
      ∀ did, did ≠ call.agentDid → (recordAll horizon (calls ++ [call])).windows.get did =
        (recordAll horizon calls).windows.get did := by
  have horder : SlidingWindow.InOrder Prod.fst
      (recordedFor call.agentDid calls ++ [call.entry]) := by
    rw [← recordedFor_concat_self]
    exact SlidingWindow.InOrder.map_filter RecordCall.entry _ h
  constructor
  · rw [recordAll_concat, get_record, if_pos rfl, window_recordAll, recordedFor_concat_self]
    -- What the deque keeps is the window after one more entry.
    have hextend : extend ⟨SlidingWindow.after Prod.fst horizon
        (recordedFor call.agentDid calls), horizon⟩ call.time call.action =
        ⟨SlidingWindow.after Prod.fst horizon
          (recordedFor call.agentDid calls ++ [call.entry]), horizon⟩ := by
      rw [SlidingWindow.after_concat]
      rfl
    rw [hextend, SlidingWindow.after_eq_since horder]
    rfl
  · intro did hdid
    rw [recordAll_concat, get_record, if_neg hdid]

/-- Two agents by turns. -/
def turns : List RecordCall :=
  [⟨py "did:agent:one", 0, default⟩, ⟨py "did:agent:two", 50, default⟩,
    ⟨py "did:agent:one", 100, default⟩]

/-- At a fourth call the first entry of its agent is older than the horizon, and the second one
is just as old. -/
theorem recordAll_exact_turns :
    (recordAll 300 (turns ++ [⟨py "did:agent:one", 400, default⟩])).windows.get
        (py "did:agent:one") =
      some ⟨(recordedFor (py "did:agent:one")
        (turns ++ [⟨py "did:agent:one", 400, default⟩])).filter fun e => 400 - 300 ≤ e.1, 300⟩ ∧
    ∀ did, did ≠ py "did:agent:one" →
      (recordAll 300 (turns ++ [⟨py "did:agent:one", 400, default⟩])).windows.get did =
        (recordAll 300 turns).windows.get did :=
  recordAll_exact (by simp [SlidingWindow.InOrder, turns]; norm_num)

end BaselineStore

end AgentSentinel
