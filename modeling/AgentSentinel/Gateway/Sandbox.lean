import AgentSentinel.Utils.Canonical

/-!
# AgentSentinel.Gateway.Sandbox

The execution sandbox: a facade over the native engine where that can be imported, and an
emulation in Python where it cannot.

The emulation measures an output by its text, and takes what it cannot measure for empty.
The native path asks the engine for a guard, which is not among the members the engine
exports, so that it fails before the workload is started.
-/

namespace AgentSentinel

/-- Isolation tiers, increasing in restriction. -/
inductive ExecutionRing
  | r0Trusted
  | r1Namespaced
  | r2Container
  | r3RemoteVm
  deriving DecidableEq

/-- `ring.value` -/
def ExecutionRing.value : ExecutionRing → PyStr
  | r0Trusted => py "R0"
  | r1Namespaced => py "R1"
  | r2Container => py "R2"
  | r3RemoteVm => py "R3"

/-- An object other than `None`, with what `str()` does on it. -/
structure OutputObject where
  id : ℕ
  str : Result PyStr

/-- An exception, with what `str()` does on it. -/
structure RaisedException where
  /-- It is a `TimeoutError`. -/
  isTimeout : Bool
  str : Result PyStr

/-- How awaiting something ends. What is no `Exception`, such as a cancellation, goes
through every handler of this module. -/
inductive Ending (α : Type)
  | returned (a : α)
  | raised (e : RaisedException)
  | interrupted

/-- What is read of what is returned. -/
def Ending.map {α β : Type} (f : α → β) : Ending α → Ending β
  | returned a => .returned (f a)
  | raised e => .raised e
  | interrupted => .interrupted

/-- Outcome of a sandboxed call. -/
structure SandboxResult where
  output : Option OutputObject
  durationMs : ℚ
  ring : ExecutionRing
  truncated : Bool := false
  error : Option PyStr := none

/-- What a `with` statement on the result of `guard(...)` makes of how its body ends. -/
abbrev Guard :=
  PyStr → ℤ → ℤ → Ending (Option OutputObject) → Ending (Option OutputObject)

/-- An importable engine: what it exports, among it `guard` if it has one. -/
structure NativeModule where
  name : PyStr
  members : List PyStr
  guard : Option Guard
  guard_mem : guard.isSome = true ↔ py "guard" ∈ members

/-- The module `sentinel_engine` with the members that `py.rs` adds to it. -/
def sentinelEngine : NativeModule where
  name := py "sentinel_engine"
  members := [py "Engine", py "verify_ed25519"]
  guard := none
  guard_mem := iff_of_false (by simp) (by decide)

namespace Sandbox

/-- `str(output)` -/
def outputStr : Option OutputObject → Result PyStr
  | none => .ok (py "None")
  | some o => o.str

/-- `len(str(output).encode("utf-8"))`, or 0 where that raises. -/
def size (output : Option OutputObject) : ℕ :=
  match outputStr output >>= encodeUtf8 with
  | .ok bytes => bytes.length
  | .error _ => 0

/-- The handlers of an exception that the workload raises: `error=str(exc)`. -/
def failed (ring : ExecutionRing) (elapsedMs : ℚ) (e : RaisedException) : Ending SandboxResult :=
  match e.str with
  | .ok text => .returned { output := none, durationMs := elapsedMs, ring, error := some text }
  | .error exc => .raised ⟨false, .ok exc.msg⟩

/-- `asyncio.wait_for`. A workload that is late is cancelled, and awaited all the same: a
cancellation that goes through it becomes a `TimeoutError`, but what it returns or raises
instead is the answer. -/
def waitFor (inTime : Bool) (workload : Ending (Option OutputObject)) :
    Ending (Option OutputObject) :=
  match inTime, workload with
  | false, .interrupted => .raised ⟨true, .ok []⟩
  | _, _ => workload

variable (inTime : Bool) (workload : Ending (Option OutputObject)) (ring : ExecutionRing)
  (maxMs maxResultBytes : ℤ) (elapsedMs : ℚ)

/-- `_run_python`, with how the workload ends, and whether it does so within `max_ms` or on
being cancelled. -/
def runPython : Ending SandboxResult :=
  match waitFor inTime workload with
  | .interrupted => .interrupted
  | .raised e =>
    if e.isTimeout then
      .returned { output := none, durationMs := elapsedMs, ring, error := some (py "timeout") }
    else failed ring elapsedMs e
  | .returned output =>
    if maxResultBytes < size output then
      .returned { output := none, durationMs := elapsedMs, ring, truncated := true }
    else .returned { output, durationMs := elapsedMs, ring }

/-- `self._engine.guard` on a module that has none. -/
def missingGuard (engine : NativeModule) : PyStr :=
  py "module '" ++ engine.name ++ py "' has no attribute 'guard'"

/-- `_run_native` -/
def runNative (engine : NativeModule) : Ending SandboxResult :=
  match engine.guard with
  | none => failed ring elapsedMs ⟨false, .ok (missingGuard engine)⟩
  | some guard =>
    match guard ring.value maxMs maxResultBytes workload with
    | .interrupted => .interrupted
    | .raised e => failed ring elapsedMs e
    | .returned output => .returned { output, durationMs := elapsedMs, ring }

/-- `run`, with the engine if it could be imported. -/
def run (engine : Option NativeModule) : Ending SandboxResult :=
  match engine with
  | some engine => runNative workload ring maxMs maxResultBytes elapsedMs engine
  | none => runPython inTime workload ring maxResultBytes elapsedMs

/-! ### The budget -/

/-- The text of the output can be had and encoded. -/
def Measurable (output : OutputObject) : Prop :=
  ∃ text bytes, output.str = .ok text ∧ encodeUtf8 text = .ok bytes

/-- The text of the output encodes to at most so many bytes. -/
def Fits (output : OutputObject) (maxResultBytes : ℤ) : Prop :=
  ∃ text bytes, output.str = .ok text ∧ encodeUtf8 text = .ok bytes ∧
    (bytes.length : ℤ) ≤ maxResultBytes

/-- Without the engine, whatever is returned has no output or one that fits, and a workload
that returns is answered. -/
def EnforcesBudget : Prop :=
  (∀ result, run inTime workload ring maxMs maxResultBytes elapsedMs none = .returned result →
    ∀ output ∈ result.output, Fits output maxResultBytes) ∧
  (∀ output, workload = .returned output →
    ∃ result, run inTime workload ring maxMs maxResultBytes elapsedMs none = .returned result)

variable {inTime workload ring maxMs maxResultBytes elapsedMs}

theorem size_of_encode {o : OutputObject} {text : PyStr} {bytes : PyBytes}
    (htext : o.str = .ok text) (hbytes : encodeUtf8 text = .ok bytes) :
    size (some o) = bytes.length := by
  have hencode : outputStr (some o) >>= encodeUtf8 = .ok bytes :=
    bind_eq_ok.mpr ⟨text, htext, hbytes⟩
  rw [size, hencode]

/-- What cannot be measured counts as empty. -/
theorem size_of_not_measurable {o : OutputObject} (h : ¬ Measurable o) : size (some o) = 0 := by
  unfold size
  split
  · next bytes hencode =>
      obtain ⟨text, htext, hbytes⟩ := bind_eq_ok.mp hencode
      exact absurd ⟨text, bytes, htext, hbytes⟩ h
  · rfl

theorem fits_iff {o : OutputObject} (h : Measurable o) :
    Fits o maxResultBytes ↔ (size (some o) : ℤ) ≤ maxResultBytes := by
  obtain ⟨text, bytes, htext, hbytes⟩ := h
  rw [size_of_encode htext hbytes]
  constructor
  · intro hfits
    obtain ⟨text', bytes', htext', hbytes', hle⟩ := hfits
    obtain rfl := Except.ok.inj (htext.symm.trans htext')
    obtain rfl := Except.ok.inj (hbytes.symm.trans hbytes')
    exact hle
  · exact fun hle => ⟨text, bytes, htext, hbytes, hle⟩

@[simp] theorem waitFor_returned (inTime : Bool) (output : Option OutputObject) :
    waitFor inTime (.returned output) = .returned output := by
  cases inTime <;> rfl

@[simp] theorem waitFor_raised (inTime : Bool) (e : RaisedException) :
    waitFor inTime (.raised e) = .raised e := by
  cases inTime <;> rfl

/-- What the handlers of exceptions return has no output. -/
theorem output_of_failed {e : RaisedException} {result : SandboxResult}
    (h : failed ring elapsedMs e = .returned result) : result.output = none := by
  unfold failed at h
  split at h
  · obtain rfl := Ending.returned.inj h
    rfl
  · cases h

/-- An output that is returned is the workload's, and was not measured over the budget. -/
theorem returned_of_output {result : SandboxResult} {o : OutputObject}
    (h : runPython inTime workload ring maxResultBytes elapsedMs = .returned result)
    (ho : o ∈ result.output) : workload = .returned (some o) ∧
      (size (some o) : ℤ) ≤ maxResultBytes := by
  cases workload with
  | interrupted =>
      cases inTime with
      | false =>
          obtain rfl := Ending.returned.inj h
          cases ho
      | true => cases h
  | raised e =>
      simp only [runPython, waitFor_raised] at h
      split at h
      · obtain rfl := Ending.returned.inj h
        cases ho
      · rw [output_of_failed h] at ho
        cases ho
  | returned output =>
      simp only [runPython, waitFor_returned] at h
      split at h
      · obtain rfl := Ending.returned.inj h
        cases ho
      · next hsize =>
          obtain rfl := Ending.returned.inj h
          obtain rfl := Option.mem_def.mp ho
          exact ⟨rfl, not_lt.mp hsize⟩

theorem runPython_returns {output : Option OutputObject} :
    ∃ result, runPython inTime (.returned output) ring maxResultBytes elapsedMs =
      .returned result := by
  rw [runPython, waitFor_returned]
  by_cases hsize : maxResultBytes < size output
  · exact ⟨_, if_pos hsize⟩
  · exact ⟨_, if_neg hsize⟩

/-- **The budget is enforced** unless the workload returns, in time or on being cancelled, an
output that cannot be measured, and the budget is not negative. -/
theorem enforcesBudget_iff :
    EnforcesBudget inTime workload ring maxMs maxResultBytes elapsedMs ↔
      ∀ o, workload = .returned (some o) → Measurable o ∨ maxResultBytes < 0 := by
  constructor
  · intro h o hworkload
    subst hworkload
    by_contra hnot
    obtain ⟨hunmeasured, hbudget⟩ := not_or.mp hnot
    have hsize : ¬ maxResultBytes < size (some o) := by
      rw [size_of_not_measurable hunmeasured]
      exact hbudget
    have hrun : runPython inTime (.returned (some o)) ring maxResultBytes elapsedMs =
        .returned { output := some o, durationMs := elapsedMs, ring } := by
      rw [runPython, waitFor_returned]
      exact if_neg hsize
    obtain ⟨text, bytes, htext, hbytes, -⟩ := h.1 _ hrun o rfl
    exact hunmeasured ⟨text, bytes, htext, hbytes⟩
  · intro h
    refine ⟨fun result hrun o ho => ?_, fun output hworkload => hworkload ▸ runPython_returns⟩
    obtain ⟨hworkload, hsize⟩ := returned_of_output hrun ho
    rcases h o hworkload with hmeasurable | hbudget
    · exact (fits_iff hmeasurable).mpr hsize
    · omega

/-- A string with a lone surrogate. -/
def surrogateOutput : OutputObject := ⟨0, .ok [0xD800]⟩

/-- It is returned under a budget of no bytes at all. -/
theorem surrogate_returned : ¬ ∀ (inTime : Bool) (workload : Ending (Option OutputObject))
    (ring : ExecutionRing) (maxMs maxResultBytes : ℤ) (elapsedMs : ℚ),
    EnforcesBudget inTime workload ring maxMs maxResultBytes elapsedMs := by
  intro h
  obtain ⟨text, bytes, htext, hbytes, -⟩ :=
    (h true (.returned (some surrogateOutput)) .r2Container 500 0 0).1 _ rfl surrogateOutput rfl
  obtain rfl := Except.ok.inj htext
  cases hbytes

/-! ### The two paths -/

/-- What a caller sees of a result but for the time it took. -/
def visible (result : SandboxResult) : Option OutputObject × Bool × Option PyStr :=
  (result.output, result.truncated, result.error)

/-- A workload that comes in time gives the same result with the engine and without it. -/
def PathsAgree (workload : Ending (Option OutputObject)) (ring : ExecutionRing)
    (maxMs maxResultBytes : ℤ) : Prop :=
  ∀ nativeMs pythonMs,
    (run true workload ring maxMs maxResultBytes nativeMs (some sentinelEngine)).map visible =
      (run true workload ring maxMs maxResultBytes pythonMs none).map visible

/-- An engine without a guard gives every workload the same error. -/
theorem runNative_of_no_guard {engine : NativeModule} (h : py "guard" ∉ engine.members) :
    runNative workload ring maxMs maxResultBytes elapsedMs engine = .returned
      { output := none, durationMs := elapsedMs, ring, error := some (missingGuard engine) } := by
  have hguard : engine.guard = none := by
    rw [← Option.not_isSome_iff_eq_none, engine.guard_mem]
    exact h
  rw [runNative, hguard]
  rfl

/-- What the emulation makes of a workload that comes in time. -/
theorem runPython_error_iff (workload : Ending (Option OutputObject)) (ring : ExecutionRing)
    (maxResultBytes : ℤ) (elapsedMs : ℚ) {text : PyStr} (htext : text ≠ py "timeout") :
    (runPython true workload ring maxResultBytes elapsedMs).map visible =
        .returned (none, false, some text) ↔
      ∃ e, workload = .raised e ∧ e.isTimeout = false ∧ e.str = .ok text := by
  cases workload with
  | interrupted => simp [runPython, waitFor, Ending.map]
  | returned output =>
      refine iff_of_false (fun h => ?_) (by simp)
      simp only [runPython, waitFor_returned] at h
      split at h <;> simp [Ending.map, visible] at h
  | raised e =>
      obtain ⟨isTimeout, str⟩ := e
      cases isTimeout with
      | true => simp [runPython, Ending.map, visible, htext.symm]
      | false =>
          cases str with
          | ok s => simp [runPython, failed, Ending.map, visible]
          | error exc => simp [runPython, failed, Ending.map]

/-- **The two paths agree** only on a workload that fails with the very text the missing
guard gives. -/
theorem pathsAgree_iff : PathsAgree workload ring maxMs maxResultBytes ↔
    ∃ e, workload = .raised e ∧ e.isTimeout = false ∧
      e.str = .ok (py "module 'sentinel_engine' has no attribute 'guard'") := by
  have hguard : py "guard" ∉ sentinelEngine.members := by decide
  have hmissing : missingGuard sentinelEngine =
      py "module 'sentinel_engine' has no attribute 'guard'" := by decide
  have hnative : ∀ nativeMs,
      (run true workload ring maxMs maxResultBytes nativeMs (some sentinelEngine)).map visible =
        .returned (none, false, some (missingGuard sentinelEngine)) := by
    intro nativeMs
    rw [run, runNative_of_no_guard hguard]
    rfl
  have hpython (pythonMs : ℚ) :=
    runPython_error_iff workload ring maxResultBytes pythonMs
      (show missingGuard sentinelEngine ≠ py "timeout" by decide)
  rw [← hmissing]
  constructor
  · intro h
    exact (hpython 0).mp ((h 0 0).symm.trans (hnative 0))
  · intro h nativeMs pythonMs
    exact (hnative nativeMs).trans ((hpython pythonMs).mpr h).symm

/-- A workload that returns `None` succeeds without the engine and fails with it. -/
theorem paths_differ : ¬ ∀ (workload : Ending (Option OutputObject)) (ring : ExecutionRing)
    (maxMs maxResultBytes : ℤ), PathsAgree workload ring maxMs maxResultBytes := by
  intro h
  have hagree := h (.returned none) .r2Container 500 1048576 0 0
  cases hagree

end Sandbox

end AgentSentinel
