import AgentSentinel.Classifiers.AnomalyDetector
import AgentSentinel.Lib.SlidingWindow

/-!
# AgentSentinel.Classifiers.RollingWindow

Runs of the anomaly detector. `score` reads the agent's window before `record` drops what is
older than the horizon, so after a pause the window still holds actions that are stale, and
these are counted. Times are rationals where the code has doubles.
-/

namespace AgentSentinel

open Lib

/-- A call of `score`. -/
structure ScoreCall where
  time : ℚ
  action : Action

/-- What the call appends to the window of its agent. -/
def ScoreCall.entry (call : ScoreCall) : ℚ × PyStr × PyStr :=
  (call.time, call.action.type.value, call.action.tool.getD [])

namespace AnomalyDetector

section Tests

variable (detector : AnomalyDetector) (win : AgentWindow) (tool : Option PyStr)

/-- The test of the rate in `score`. -/
def Spikes : Prop :=
  50 < win.actions.length ∧ toDouble (detector.spikeFactor * toDouble (1 / 60)) <
    toDouble (win.actions.length / max win.horizonSeconds 1)

/-- The test for a novel tool in `score`. -/
def Novel : Prop :=
  ∃ name, tool = some name ∧ detector.rareMin ≤ win.actions.length ∧
    ∀ a ∈ win.actions, a.2.2 ≠ name

end Tests

variable {detector : AnomalyDetector} {win win' : AgentWindow} {action : Action}

/-! ### What is reported from a window -/

/-- The size of the window that a factor of the detector was read from. -/
def sizeNoted (f : RiskFactor) : Option PyStr :=
  (f.evidence.get (py "actions_in_window")).or (f.evidence.get (py "window_size"))

theorem rateSpike_of_not (h : ¬ detector.Spikes win) : detector.rateSpike win = .ok [] := by
  unfold rateSpike
  exact if_neg h

theorem rateSpike_of_spikes (hlog : ∀ q, 1 ≤ q → 0 ≤ detector.log10 q)
    (h : detector.Spikes win) : ∃ f, detector.rateSpike win = .ok [f] ∧
      sizeNoted f = some (natText win.actions.length) := by
  have hrate : (0 : ℚ) ≤ (win.actions.length : ℚ) / max win.horizonSeconds 1 :=
    div_nonneg (Nat.cast_nonneg _) (le_max_of_le_right zero_le_one)
  have hrounded : 0 ≤ toDouble (win.actions.length / max win.horizonSeconds 1) := by
    simpa using toDouble_mono le_rfl hrate
  have hone : 1 ≤ toDouble (toDouble (win.actions.length / max win.horizonSeconds 1) + 1) := by
    simpa using toDouble_mono zero_le_one (le_add_of_nonneg_left hrounded)
  have hpos := hlog _ hone
  have hlow := le_min zero_le_one (div_nonneg hpos zero_le_two)
  obtain ⟨hmany, hfast⟩ := h
  unfold rateSpike
  dsimp only
  rw [if_pos ⟨hmany, hfast⟩, RiskFactor.make, dif_pos ⟨hlow, min_le_left _ _⟩]
  exact ⟨_, rfl, rfl⟩

theorem novelTool_of_not (h : ¬ detector.Novel win action.toolName) :
    detector.novelTool win action.toolName = .ok [] := by
  unfold novelTool
  split
  · rfl
  · rename_i name hname
    refine if_neg fun ⟨hmin, hcount⟩ => h ⟨name, hname, hmin, fun a ha => ?_⟩
    simpa using List.countP_eq_zero.mp hcount a ha

theorem novelTool_of_novel (h : detector.Novel win action.toolName) :
    ∃ f, detector.novelTool win action.toolName = .ok [f] ∧
      sizeNoted f = some (natText win.actions.length) := by
  obtain ⟨name, hname, hmin, hunseen⟩ := h
  have hcount : win.actions.countP (fun a => a.2.2 = name) = 0 :=
    List.countP_eq_zero.mpr fun a ha => by simpa using hunseen a ha
  rw [hname, novelTool, if_pos ⟨hmin, hcount⟩, RiskFactor.make, dif_pos (by norm_num)]
  exact ⟨_, rfl, rfl⟩

/-- The detector always returns; every factor notes the size of the window, and there is
none exactly where neither test succeeds. -/
theorem findings_eq (hlog : ∀ q, 1 ≤ q → 0 ≤ detector.log10 q) (win : AgentWindow)
    (action : Action) :
    ∃ factors, detector.findings win action = .ok factors ∧
      (∀ f ∈ factors, sizeNoted f = some (natText win.actions.length)) ∧
      (factors = [] ↔ ¬ detector.Spikes win ∧ ¬ detector.Novel win action.toolName) := by
  by_cases hspike : detector.Spikes win
  · obtain ⟨f, hf, hsize⟩ := rateSpike_of_spikes hlog hspike
    by_cases hnovel : detector.Novel win action.toolName
    · obtain ⟨f', hf', hsize'⟩ := novelTool_of_novel hnovel
      exact ⟨[f, f'], by rw [findings, hf, hf']; rfl, by simp [hsize, hsize'], by simp [hspike]⟩
    · have hf' := novelTool_of_not hnovel
      exact ⟨[f], by rw [findings, hf, hf']; rfl, by simp [hsize], by simp [hspike]⟩
  · have hf := rateSpike_of_not hspike
    by_cases hnovel : detector.Novel win action.toolName
    · obtain ⟨f', hf', hsize'⟩ := novelTool_of_novel hnovel
      exact ⟨[f'], by rw [findings, hf, hf']; rfl, by simp [hsize'], by simp [hnovel]⟩
    · have hf' := novelTool_of_not hnovel
      exact ⟨[], by rw [findings, hf, hf']; rfl, by simp, by simp [hspike, hnovel]⟩

/-- What is reported from windows of different sizes agrees only where it is nothing. -/
theorem findings_eq_iff_of_length_ne (hlog : ∀ q, 1 ≤ q → 0 ≤ detector.log10 q)
    (hlength : win.actions.length ≠ win'.actions.length) :
    detector.findings win action = detector.findings win' action ↔
      (¬ detector.Spikes win ∧ ¬ detector.Novel win action.toolName) ∧
        (¬ detector.Spikes win' ∧ ¬ detector.Novel win' action.toolName) := by
  obtain ⟨factors, hf, hsize, hnone⟩ := findings_eq hlog win action
  obtain ⟨factors', hf', hsize', hnone'⟩ := findings_eq hlog win' action
  rw [hf, hf', ← hnone, ← hnone']
  constructor
  · intro h
    obtain rfl := Except.ok.inj h
    -- A common factor would note both sizes.
    have hnil : factors = [] := by
      rw [List.eq_nil_iff_forall_not_mem]
      intro f hmem
      have hsame := (hsize f hmem).symm.trans (hsize' f hmem)
      exact hlength (natText_injective (Option.some.inj hsame))
    exact ⟨hnil, hnil⟩
  · rintro ⟨rfl, rfl⟩
    rfl

/-- A longer window over the same horizon spikes where a shorter one does. -/
theorem Spikes.mono (hhorizon : win.horizonSeconds = win'.horizonSeconds)
    (hlength : win.actions.length ≤ win'.actions.length) (h : detector.Spikes win) :
    detector.Spikes win' := by
  obtain ⟨hmany, hfast⟩ := h
  have hcast : (win.actions.length : ℚ) ≤ win'.actions.length := Nat.cast_le.mpr hlength
  have hhorizon' : (0 : ℚ) ≤ max win.horizonSeconds 1 := le_max_of_le_right zero_le_one
  refine ⟨hmany.trans_le hlength, hfast.trans_le ?_⟩
  rw [← hhorizon]
  exact toDouble_mono (div_nonneg (Nat.cast_nonneg _) hhorizon')
    (div_le_div_of_nonneg_right hcast hhorizon')

/-- Rounding matters: at this rate 115 actions in 300 seconds are no more than the baseline. -/
example : toDouble (23 * toDouble (1 / 60)) < toDouble (115 / 300) := by decide +kernel

theorem not_spikes_of_length_le (h : win.actions.length ≤ 50) : ¬ detector.Spikes win :=
  fun hspikes => absurd hspikes.1 (not_lt.mpr h)

theorem not_novel_of_length_lt {tool : Option PyStr}
    (h : (win.actions.length : ℤ) < detector.rareMin) : ¬ detector.Novel win tool :=
  fun ⟨_, _, hmin, _⟩ => absurd hmin (not_le.mpr h)

/-! ### Histories of calls -/

/-- The store after a history of calls, from a new one. -/
def storeAfter (detector : AnomalyDetector) (horizon : ℚ) (history : List ScoreCall) :
    BaselineStore :=
  history.foldl (fun store call => (detector.score store call.time call.action).2) { horizon }

/-- What an agent's calls appended to its window. -/
def recorded (did : PyStr) (history : List ScoreCall) : List (ℚ × PyStr × PyStr) :=
  (history.filter fun call => call.action.agentDid = did).map ScoreCall.entry

variable {store : BaselineStore} {horizon now : ℚ} {did : PyStr} {history : List ScoreCall}

/-- A call appends to the window of its agent and drops what is then stale. -/
theorem window_score (hlog : ∀ q, 1 ≤ q → 0 ≤ detector.log10 q) :
    (detector.score store now action).2.window action.agentDid =
      BaselineStore.extend (store.window action.agentDid) now action := by
  obtain ⟨factors, hf, -⟩ := findings_eq hlog (store.window action.agentDid) action
  have hf' : detector.findings (store.getWindow action.agentDid).1 action = .ok factors := hf
  unfold score
  dsimp only
  rw [hf']
  dsimp only
  rw [BaselineStore.window_record, BaselineStore.window_getWindow]

/-- The windows of a run are the sliding windows of what its calls appended. -/
theorem window_storeAfter (hlog : ∀ q, 1 ≤ q → 0 ≤ detector.log10 q) :
    (detector.storeAfter horizon history).window did =
      ⟨SlidingWindow.after Prod.fst horizon (recorded did history), horizon⟩ := by
  unfold storeAfter recorded
  refine SlidingWindow.read_foldl BaselineStore.window
    (fun actions => (⟨actions, horizon⟩ : AgentWindow)) ?_ ?_ rfl
    history
  · intro store call actions hwin
    rw [window_score hlog, hwin]
    rfl
  · intro store call did hdid
    exact window_score_of_ne hdid

/-! ### Stale actions -/

/-- The history without the agent's calls that are older than the horizon. -/
def withoutStale (horizon : ℚ) (did : PyStr) (now : ℚ) (history : List ScoreCall) :
    List ScoreCall :=
  history.filter fun call => call.action.agentDid = did → now - horizon ≤ call.time

/-- The part of a window that is within its horizon. -/
def current (win : AgentWindow) (now : ℚ) : AgentWindow :=
  { win with actions := SlidingWindow.since Prod.fst (now - win.horizonSeconds) win.actions }

theorem recorded_withoutStale : recorded did (withoutStale horizon did now history) =
    SlidingWindow.since Prod.fst (now - horizon) (recorded did history) := by
  unfold recorded withoutStale SlidingWindow.since
  rw [List.filter_map, List.filter_filter, List.filter_filter]
  congr 2
  ext call
  rw [Bool.eq_iff_iff]
  simp only [Function.comp_apply, Bool.and_eq_true, decide_eq_true_eq]
  have htime : call.entry.1 = call.time := rfl
  rw [htime]
  tauto

theorem inOrder_recorded (h : SlidingWindow.InOrder ScoreCall.time history) :
    SlidingWindow.InOrder Prod.fst (recorded did history) :=
  SlidingWindow.InOrder.map_filter ScoreCall.entry _ h

/-- The window after the remaining history is the current part of the stored one. -/
theorem window_withoutStale (hlog : ∀ q, 1 ≤ q → 0 ≤ detector.log10 q)
    (horder : SlidingWindow.InOrder ScoreCall.time history)
    (hnow : ∀ call ∈ history, call.time ≤ now) :
    (detector.storeAfter horizon (withoutStale horizon did now history)).window did =
      current ((detector.storeAfter horizon history).window did) now := by
  have hentries : SlidingWindow.InOrder Prod.fst (recorded did history) := inOrder_recorded horder
  have htimes : ∀ a ∈ recorded did history, a.1 ≤ now := by
    intro a ha
    obtain ⟨call, hcall, rfl⟩ := List.mem_map.mp ha
    exact hnow call (List.mem_filter.mp hcall).1
  have hcutoff : ∀ a ∈ recorded did history, a.1 - horizon ≤ now - horizon := fun a ha =>
    sub_le_sub_right (htimes a ha) horizon
  rw [window_storeAfter hlog, window_storeAfter hlog, recorded_withoutStale,
    SlidingWindow.after_since hentries htimes, current]
  dsimp only
  rw [SlidingWindow.since_after hentries hcutoff]

/-- Stale actions in a window make no difference: there are none, or nothing is reported from
the window with them or without them. -/
def StaleHarmless (detector : AnomalyDetector) (win : AgentWindow) (now : ℚ)
    (tool : Option PyStr) : Prop :=
  (∀ a ∈ win.actions, now - win.horizonSeconds ≤ a.1) ∨
    ¬ detector.Spikes win ∧ ¬ detector.Novel win tool ∧ ¬ detector.Novel (current win now) tool

theorem findings_current_iff (hlog : ∀ q, 1 ≤ q → 0 ≤ detector.log10 q) :
    detector.findings (current win now) action = detector.findings win action ↔
      detector.StaleHarmless win now action.toolName := by
  by_cases hfresh : ∀ a ∈ win.actions, now - win.horizonSeconds ≤ a.1
  · have hself : current win now = win := by
      rw [current, SlidingWindow.since_of_forall hfresh]
    rw [hself]
    exact iff_of_true rfl (.inl hfresh)
  -- With a stale action the two windows differ in size.
  · have hshorter : (current win now).actions.length < win.actions.length := by
      push Not at hfresh
      obtain ⟨a, ha, hstale⟩ := hfresh
      exact List.length_filter_lt_length_iff_exists.mpr ⟨a, ha, by
        rw [decide_eq_true_iff]
        exact not_le.mpr hstale⟩
    have hspikes : detector.Spikes (current win now) → detector.Spikes win :=
      Spikes.mono rfl hshorter.le
    rw [findings_eq_iff_of_length_ne hlog hshorter.ne, StaleHarmless]
    tauto

/-- The factors for an action do not change when the agent's stale calls are removed from the
history, exactly where the stale actions in the stored window are harmless. -/
theorem score_withoutStale_iff (hlog : ∀ q, 1 ≤ q → 0 ≤ detector.log10 q)
    (horder : SlidingWindow.InOrder ScoreCall.time history)
    (hnow : ∀ call ∈ history, call.time ≤ now) (action : Action) :
    (detector.score (detector.storeAfter horizon
        (withoutStale horizon action.agentDid now history)) now action).1 =
      (detector.score (detector.storeAfter horizon history) now action).1 ↔
    detector.StaleHarmless ((detector.storeAfter horizon history).window action.agentDid) now
      action.toolName := by
  rw [score_fst, score_fst, window_withoutStale hlog horder hnow, findings_current_iff hlog]

/-- A call of a tool. -/
def callOf (tool : PyStr) : Action :=
  { (default : Action) with tool := some tool }

theorem agentDid_callOf (tool : PyStr) : (callOf tool).agentDid = py "did:anon:unknown" := rfl

/-- Some calls of one tool at one time. -/
def burst (n : ℕ) (tool : PyStr) : List ScoreCall := List.replicate n ⟨0, callOf tool⟩

theorem inOrder_burst (n : ℕ) (tool : PyStr) :
    SlidingWindow.InOrder ScoreCall.time (burst n tool) :=
  List.pairwise_replicate.mpr (.inr (le_refl _))

theorem window_burst (n : ℕ) (tool : PyStr) (hhorizon : 0 ≤ horizon)
    (hlog : ∀ q, 1 ≤ q → 0 ≤ detector.log10 q) :
    (detector.storeAfter horizon (burst n tool)).window (callOf tool).agentDid =
      ⟨List.replicate n (ScoreCall.entry ⟨0, callOf tool⟩), horizon⟩ := by
  have hrecorded : recorded (callOf tool).agentDid (burst n tool) =
      List.replicate n (ScoreCall.entry ⟨0, callOf tool⟩) := by
    simp [recorded, burst]
  rw [window_storeAfter hlog, hrecorded, SlidingWindow.after_of_close]
  · rw [← hrecorded]
    exact inOrder_recorded (inOrder_burst n tool)
  · intro a ha b hb
    obtain rfl := List.eq_of_mem_replicate ha
    obtain rfl := List.eq_of_mem_replicate hb
    exact sub_le_self _ hhorizon

theorem time_burst {n : ℕ} {tool : PyStr} (hnow : 0 ≤ now) :
    ∀ call ∈ burst n tool, call.time ≤ now := by
  intro call hcall
  obtain rfl := List.eq_of_mem_replicate hcall
  exact hnow

/-- The detector with its default thresholds. -/
def standard : AnomalyDetector := { log10 := fun _ => 0 }

theorem standard_log10 : ∀ q, 1 ≤ q → 0 ≤ standard.log10 q := fun _ _ => le_refl _

/-- After a pause one stale call is harmless. -/
theorem score_withoutStale_iff_single :
    (standard.score (standard.storeAfter 300
        (withoutStale 300 (callOf (py "payments.transfer")).agentDid 400
          (burst 1 (py "http.get")))) 400 (callOf (py "payments.transfer"))).1 =
      (standard.score (standard.storeAfter 300 (burst 1 (py "http.get"))) 400
        (callOf (py "payments.transfer"))).1 := by
  refine (score_withoutStale_iff standard_log10 (inOrder_burst 1 _) (time_burst (by norm_num))
    (callOf (py "payments.transfer"))).mpr ?_
  have hwin := @window_burst standard 300 1 (py "http.get") (by norm_num) standard_log10
  rw [agentDid_callOf, ← agentDid_callOf (py "http.get"), hwin]
  refine .inr ⟨not_spikes_of_length_le (by decide), not_novel_of_length_lt (by decide),
    not_novel_of_length_lt ?_⟩
  exact (Nat.cast_le.mpr (List.length_filter_le _ _)).trans_lt (by decide)

/-- After a pause that empties the rolling window, the stale calls still make a tool novel. -/
theorem stale_calls_counted :
    (standard.score (standard.storeAfter 300
        (withoutStale 300 (callOf (py "payments.transfer")).agentDid 400
          (burst 25 (py "http.get")))) 400 (callOf (py "payments.transfer"))).1 ≠
      (standard.score (standard.storeAfter 300 (burst 25 (py "http.get"))) 400
        (callOf (py "payments.transfer"))).1 := by
  have hwin := @window_burst standard 300 25 (py "http.get") (by norm_num) standard_log10
  rw [score_fst, score_fst, window_withoutStale standard_log10 (inOrder_burst 25 _)
    (time_burst (by norm_num)), Ne, findings_current_iff standard_log10,
    agentDid_callOf, ← agentDid_callOf (py "http.get"), hwin]
  rintro (hfresh | ⟨-, hnovel, -⟩)
  · have hstale := hfresh (ScoreCall.entry ⟨0, callOf (py "http.get")⟩) (by simp)
    norm_num [ScoreCall.entry] at hstale
  · refine hnovel ⟨py "payments.transfer", rfl, by decide, fun a ha => ?_⟩
    obtain rfl := List.eq_of_mem_replicate ha
    decide

end AnomalyDetector

end AgentSentinel
