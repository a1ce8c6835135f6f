import AgentSentinel.Gateway.McpValidators
import AgentSentinel.Lib.Interspersed

/-!
# AgentSentinel.Gateway.ToolNames

Which padded tool names the collision check reports. It has two means: a range of control
and zero-width characters, which it reports wherever they are, and a comparison with the
allowed names after everything outside ASCII is dropped. Blanks and U+007F are caught by
neither, so that any allowed name without a control character of its own can be padded
unseen.
-/

namespace AgentSentinel

open Lib

/-- Whitespace, a control character, or any character outside ASCII: everything but the
visible ASCII characters. -/
def isPadding (c : CodePoint) : Bool := c ≤ 0x20 || 0x7F ≤ c

/-- The name looks like `a`: it is `a` once some padding is taken out. -/
def LooksLike (a name : PyStr) : Prop := Interspersed (isPadding · = true) a name

/-- A printable ASCII character. -/
def isPrintable (c : CodePoint) : Bool := 0x20 ≤ c && c < 0x7F

namespace McpInvocation

/-- The check treats a name as it should: one that is not allowed but looks like an allowed
one is reported as severe, and an allowed one of printable characters is not reported. -/
def FlagsPadding (invocation : McpInvocation) (allowedNames : List PyStr) : Prop :=
  (∀ a ∈ allowedNames, invocation.tool ∉ allowedNames → LooksLike a invocation.tool →
    ∃ f ∈ invocation.detectToolNameCollision allowedNames, 9 / 10 ≤ f.severity.val) ∧
  (invocation.tool ∈ allowedNames → invocation.tool ≠ [] → invocation.tool.all isPrintable = true →
    invocation.detectToolNameCollision allowedNames = [])

variable {invocation : McpInvocation} {allowedNames : List PyStr} {a name : PyStr}

theorem asciiName_eq_self_iff : asciiName name = name ↔ ∀ c ∈ name, c < 0x80 := by
  simp [asciiName, List.filter_eq_self]

/-- What the check reports on. -/
theorem collision_ne_nil_iff : invocation.detectToolNameCollision allowedNames ≠ [] ↔
    invocation.tool = [] ∨ invocation.tool.any isControl = true ∨
      (invocation.tool ∉ allowedNames ∧ asciiName invocation.tool ≠ invocation.tool ∧
        asciiName invocation.tool ∈ allowedNames) := by
  unfold detectToolNameCollision
  by_cases hempty : invocation.tool = []
  · simp [hempty]
  · by_cases hcontrol : invocation.tool.any isControl = true
    · simp [hempty, hcontrol]
    · simp [hempty, hcontrol]

/-- A report is severe, whatever it is. -/
theorem flagged_iff : (∃ f ∈ invocation.detectToolNameCollision allowedNames,
    9 / 10 ≤ f.severity.val) ↔ invocation.detectToolNameCollision allowedNames ≠ [] := by
  constructor
  · intro h
    obtain ⟨f, hf, -⟩ := h
    exact List.ne_nil_of_mem hf
  · intro h
    obtain ⟨f, hf⟩ := List.exists_mem_of_ne_nil _ h
    exact ⟨f, hf, severity_of_mem_collision hf⟩

theorem not_isControl_of_isPrintable {c : CodePoint} (h : isPrintable c = true) :
    isControl c = false := by
  simp only [isPrintable, Bool.and_eq_true, decide_eq_true_eq, Fin.le_def, Fin.lt_def] at h
  simp only [isControl, Bool.or_eq_false_iff, decide_eq_false_iff_not, Bool.and_eq_false_iff,
    Fin.le_def, Fin.lt_def]
  have h20 : ((0x20 : CodePoint) : ℕ) = 0x20 := rfl
  have h7F : ((0x7F : CodePoint) : ℕ) = 0x7F := rfl
  have h200B : ((0x200B : CodePoint) : ℕ) = 0x200B := rfl
  omega

/-- An allowed name of printable characters is let through. -/
theorem collision_of_printable (hallowed : invocation.tool ∈ allowedNames)
    (hne : invocation.tool ≠ []) (hprintable : invocation.tool.all isPrintable = true) :
    invocation.detectToolNameCollision allowedNames = [] := by
  by_contra hreported
  rcases collision_ne_nil_iff.mp hreported with hempty | hcontrol | ⟨hnot, -⟩
  · exact hne hempty
  · obtain ⟨c, hc, hcontrol⟩ := List.any_eq_true.mp hcontrol
    rw [not_isControl_of_isPrintable (List.all_eq_true.mp hprintable c hc)] at hcontrol
    cases hcontrol
  · exact hnot hallowed

/-- **Padded names are reported** that have a control character, or that become an allowed
name when all there is outside ASCII is dropped. -/
theorem flagsPadding_iff : invocation.FlagsPadding allowedNames ↔
    (invocation.tool ∉ allowedNames → (∃ a ∈ allowedNames, LooksLike a invocation.tool) →
      invocation.tool.any isControl = true ∨
        ((∃ c ∈ invocation.tool, 0x80 ≤ c) ∧ asciiName invocation.tool ∈ allowedNames)) := by
  have hascii : asciiName invocation.tool ≠ invocation.tool ↔ ∃ c ∈ invocation.tool, 0x80 ≤ c := by
    rw [Ne, asciiName_eq_self_iff]
    simp
  constructor
  · intro h hnot hlooks
    obtain ⟨a, ha, hlooks⟩ := hlooks
    rcases collision_ne_nil_iff.mp (flagged_iff.mp (h.1 a ha hnot hlooks)) with
      hempty | hcontrol | ⟨-, hdropped, hmem⟩
    · rw [hempty] at hlooks hnot
      rw [hlooks.eq_nil_of_nil] at ha
      exact absurd ha hnot
    · exact Or.inl hcontrol
    · exact Or.inr ⟨hascii.mp hdropped, hmem⟩
  · intro h
    refine ⟨fun a ha hnot hlooks => flagged_iff.mpr (collision_ne_nil_iff.mpr (Or.inr ?_)),
      collision_of_printable⟩
    exact (h hnot ⟨a, ha, hlooks⟩).imp id fun hmem => ⟨hnot, hascii.mpr hmem.1, hmem.2⟩

/-! ### Which padding and which names -/

/-- Padding outside ASCII around a name inside ASCII is always reported. -/
theorem flagged_of_non_ascii (ha : a ∈ allowedNames) (hascii : ∀ c ∈ a, c < 0x80)
    (hnot : invocation.tool ∉ allowedNames)
    (hpadded : Interspersed (fun c : CodePoint => 0x80 ≤ c) a invocation.tool) :
    ∃ f ∈ invocation.detectToolNameCollision allowedNames, 9 / 10 ≤ f.severity.val := by
  have hdropped : asciiName invocation.tool = a := by
    have hfilter := hpadded.filter_eq (f := fun c => decide (c < 0x80)) (by simp)
    exact hfilter.trans (asciiName_eq_self_iff.mpr hascii)
  refine flagged_iff.mpr (collision_ne_nil_iff.mpr (Or.inr (Or.inr ⟨hnot, ?_, ?_⟩)))
  · rw [hdropped]
    rintro rfl
    exact hnot ha
  · rwa [hdropped]

/-- **No set of names is protected** but one of names that have control characters
themselves: blanks at the end of any other name are not seen. -/
theorem forall_flagsPadding_iff : (∀ invocation : McpInvocation, invocation.FlagsPadding
    allowedNames) ↔ ∀ a ∈ allowedNames, a.any isControl = true := by
  constructor
  · intro h a ha
    -- More blanks than any allowed name has characters.
    let blanks : PyStr := List.replicate (allowedNames.flatten.length + 1) 0x20
    have hlong : ∀ name : PyStr, allowedNames.flatten.length < name.length → name ∉ allowedNames :=
      fun name hlength hmem =>
        absurd (List.sublist_flatten_of_mem hmem).length_le (not_le.mpr hlength)
    have hblank : ∀ c ∈ blanks, isPadding c = true ∧ c < 0x80 ∧ isControl c = false := by
      intro c hc
      rw [List.eq_of_mem_replicate hc]
      decide
    have hname : a ++ blanks ∉ allowedNames := hlong _ (by simp [blanks]; omega)
    have hdropped : asciiName (a ++ blanks) ∉ allowedNames := by
      have hkept : blanks.filter (· < 0x80) = blanks :=
        List.filter_eq_self.mpr fun c hc => by simpa using (hblank c hc).2.1
      refine hlong _ ?_
      rw [asciiName, List.filter_append, hkept]
      simp [blanks]
      omega
    have hlooks : LooksLike a (a ++ blanks) := Interspersed.append a fun c hc => (hblank c hc).1
    have hflagged := (h ⟨a ++ blanks, .empty, none, none⟩).1 a ha hname hlooks
    rcases collision_ne_nil_iff.mp (flagged_iff.mp hflagged) with hempty | hcontrol | ⟨-, -, hmem⟩
    · simp [blanks] at hempty
    · rw [List.any_append, Bool.or_eq_true] at hcontrol
      refine hcontrol.resolve_right ?_
      simpa using fun c hc => (hblank c hc).2.2
    · exact absurd hmem hdropped
  · intro h invocation
    refine ⟨fun a ha _ hlooks => ?_, collision_of_printable⟩
    obtain ⟨c, hc, hcontrol⟩ := List.any_eq_true.mp (h a ha)
    exact flagged_iff.mpr (collision_ne_nil_iff.mpr
      (Or.inr (Or.inl (List.any_eq_true.mpr ⟨c, hlooks.subset hc, hcontrol⟩))))

/-- A blank at the end of an allowed name. -/
theorem trailing_blank_missed : ¬ ∀ (invocation : McpInvocation) (allowedNames : List PyStr),
    invocation.FlagsPadding allowedNames := by
  intro h
  have hblank : py "http.get" ++ [0x20] = py "http.get " := by
    rw [py_ofList, py_ofList]
    decide
  have hlooks : LooksLike (py "http.get") (py "http.get ") := by
    rw [← hblank]
    refine Interspersed.append _ fun c hc => ?_
    rw [List.mem_singleton.mp hc]
    decide
  obtain ⟨f, hf, -⟩ := (h ⟨py "http.get ", .empty, none, none⟩ [py "http.get"]).1 (py "http.get")
    (by decide) (by decide) hlooks
  cases hf

end McpInvocation

end AgentSentinel
