import AgentSentinel.Models.Decision

/-!
# AgentSentinel.Classifiers.AnomalyDetector

Behavioural anomaly detection over a sliding window of recent actions for each
DID. The windows are state that the detector reads before it records the action,
so what one action leaves behind is what later actions of the same DID are scored
against.

Rates are doubles, rounded as the code rounds them; readings of the clock and their
differences are exact.
-/

namespace AgentSentinel

/-- Per-agent rolling window: the time, the type and the tool of recent actions,
oldest first. -/
structure AgentWindow where
  actions : List (ℚ × PyStr × PyStr) := []
  horizonSeconds : ℚ := 300

/-- `InMemoryBaselineStore`. -/
structure BaselineStore where
  windows : PyDict AgentWindow := .empty
  horizon : ℚ := 300

namespace BaselineStore

/-- The window `get_window` returns: a new one for a DID that has none. -/
def window (store : BaselineStore) (did : PyStr) : AgentWindow :=
  (store.windows.get did).getD { horizonSeconds := store.horizon }

/-- `get_window`; a new window stays in the store. -/
def getWindow (store : BaselineStore) (did : PyStr) : AgentWindow × BaselineStore :=
  (store.window did, { store with windows := store.windows.set did (store.window did) })

/-- What `record` does to the window: append the action, then drop from the left what
is older than the horizon. -/
def extend (win : AgentWindow) (now : ℚ) (action : Action) : AgentWindow :=
  let actions := win.actions ++ [(now, action.type.value, action.tool.getD [])]
  let cutoff := now - win.horizonSeconds
  { win with actions := actions.dropWhile fun a => a.1 < cutoff }

/-- `record` at the time `now`. -/
def record (store : BaselineStore) (did : PyStr) (now : ℚ) (action : Action) : BaselineStore :=
  let (win, store) := store.getWindow did
  { store with windows := store.windows.set did (extend win now action) }

variable {store : BaselineStore} {did did' : PyStr}

theorem window_getWindow : (store.getWindow did).2.window did' = store.window did' := by
  by_cases h : did' = did
  · simp [getWindow, window, h]
  · simp [getWindow, window, h]

/-- Recording an action leaves the windows of other DIDs alone. -/
theorem window_record_of_ne {now : ℚ} {action : Action} (h : did' ≠ did) :
    (store.record did now action).window did' = store.window did' := by
  simp [record, getWindow, window, h]

theorem window_record {now : ℚ} {action : Action} :
    (store.record did now action).window did = extend (store.window did) now action := by
  simp [record, getWindow, window]

end BaselineStore

/-- Detect frequency and tool-diversity anomalies. -/
structure AnomalyDetector where
  spikeFactor : ℚ := 4
  rareMin : ℤ := 25
  /-- `math.log10` on the rates the detector computes. -/
  log10 : ℚ → ℚ

namespace AnomalyDetector

variable (detector : AnomalyDetector)

/-- The factor for a rate above the baseline, where the window is long enough. -/
def rateSpike (win : AgentWindow) : Result (List RiskFactor) :=
  let n := win.actions.length
  let rate := toDouble (n / max win.horizonSeconds 1)
  if 50 < n ∧ toDouble (detector.spikeFactor * toDouble (1 / 60)) < rate then do
    let severity := min 1 (detector.log10 (toDouble (rate + 1)) / 2)
    let f ← RiskFactor.make (py "anomaly.rate_spike") severity
      (py "anomaly_detector") (py "Agent action rate exceeded expected baseline.")
      ⟨[(py "actions_in_window", natText n), (py "rate_per_sec", fixed3 rate),
        (py "references", py "OWASP-AGENT-05,OWASP-AGENT-09")], by simp only [List.map]; decide⟩
    return [f]
  else return []

/-- The factor for a tool that an established agent uses for the first time. -/
def novelTool (win : AgentWindow) (tool : Option PyStr) : Result (List RiskFactor) :=
  match tool with
  | none => return []
  | some tool =>
    let n := win.actions.length
    let observations := win.actions.countP fun a => a.2.2 = tool
    if detector.rareMin ≤ n ∧ observations = 0 then do
      let f ← RiskFactor.make (py "anomaly.novel_tool") (2 / 5) (py "anomaly_detector")
        (py "First observed use of tool '" ++ tool ++ py "' by this agent.")
        ⟨[(py "tool", tool), (py "window_size", natText n),
          (py "references", py "OWASP-AGENT-05")], by simp only [List.map]; decide⟩
      return [f]
    else return []

/-- What `score` finds in the window. -/
def findings (win : AgentWindow) (action : Action) : Result (List RiskFactor) := do
  let spike ← detector.rateSpike win
  let novel ← detector.novelTool win action.toolName
  return spike ++ novel

/-- `score`: the factors, and the store it leaves. An exception on the way keeps the
action out of the window. -/
def score (store : BaselineStore) (now : ℚ) (action : Action) :
    Result (List RiskFactor) × BaselineStore :=
  let (win, store) := store.getWindow action.agentDid
  match detector.findings win action with
  | .error e => (.error e, store)
  | .ok factors => (.ok factors, store.record action.agentDid now action)

variable {detector} {store store' : BaselineStore} {now : ℚ} {action : Action} {did : PyStr}

theorem score_fst : (detector.score store now action).1 =
    detector.findings (store.window action.agentDid) action := by
  simp only [score, BaselineStore.getWindow]
  split <;> simp [*]

/-- Scoring an action leaves the windows of other agents alone. -/
theorem window_score_of_ne (h : did ≠ action.agentDid) :
    (detector.score store now action).2.window did = store.window did := by
  unfold score
  dsimp only
  split
  · exact BaselineStore.window_getWindow
  · rw [BaselineStore.window_record_of_ne h, BaselineStore.window_getWindow]

/-- What scoring leaves in the agent's own window is a matter of that window. -/
theorem window_score_congr (h : store.window action.agentDid = store'.window action.agentDid) :
    (detector.score store now action).2.window action.agentDid =
      (detector.score store' now action).2.window action.agentDid := by
  have hwin : (store.getWindow action.agentDid).1 = (store'.getWindow action.agentDid).1 := h
  unfold score
  dsimp only
  rw [hwin]
  split
  · rw [BaselineStore.window_getWindow, BaselineStore.window_getWindow, h]
  · rw [BaselineStore.window_record, BaselineStore.window_record, BaselineStore.window_getWindow,
      BaselineStore.window_getWindow, h]

end AnomalyDetector

end AgentSentinel
