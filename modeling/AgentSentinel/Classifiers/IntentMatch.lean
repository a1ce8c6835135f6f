import AgentSentinel.Classifiers.IntentClassifier
import AgentSentinel.Lib.Rounding
import AgentSentinel.Lib.Share

/-!
# AgentSentinel.Classifiers.IntentMatch

How the severity of the intent classifier moves with the intent. Without an embedding
provider a declared intent is measured by the share of the hints it names, which grows with
the hints; an intent that is not declared costs a fixed amount beside that measure, and a
short intent may be let through without it.
-/

namespace AgentSentinel

open Lib

namespace IntentClassifier

section Measures

variable (classifier : IntentClassifier) (db : CharacterData) (action : Action)

/-- The intent as `classify` reads it. -/
def intentText : PyStr := (action.intent.getD []).strip

/-- The tokens of the intent. -/
def intentTokens : List PyStr := (tokenize db (intentText action)).dedup

/-- The hint tokens that occur in the intent. -/
def namedHints : Finset PyStr := (intentTokens db action).toFinset ∩ (hints db action).toFinset

/-- The share of the hints that the intent names, one half where there are no hints. -/
def hintShare : ℚ :=
  if hints db action = [] then 1 / 2
  else share ℚ (hints db action).toFinset (intentTokens db action).toFinset

/-- No intent is declared. -/
def Undeclared : Prop := intentText action = []

/-- The declared intent names enough of the hints. -/
def Matches : Prop := classifier.config.minSimilarityForMatch ≤ hintShare db action

/-- The type has no hints of its own, and the intent is short and shares no part of a word
with the tool's name. -/
def Exempt : Prop :=
  intentHints action.type = [] ∧ (intentTokens db action).length ≤ 4 ∧
    sharesSubstring (intentTokens db action) (hints db action) = false

/-- A declared intent that is accepted. -/
def Accepted : Prop :=
  ¬ Undeclared action ∧ (classifier.Matches db action ∨ Exempt db action)

/-- A declared intent that is flagged as drift. -/
def Drifts : Prop :=
  ¬ Undeclared action ∧ ¬ classifier.Matches db action ∧ ¬ Exempt db action

instance : Decidable (Undeclared action) := inferInstanceAs (Decidable (_ = _))

instance : Decidable (classifier.Matches db action) := inferInstanceAs (Decidable (_ ≤ _))

instance : Decidable (Exempt db action) := inferInstanceAs (Decidable (_ ∧ _ ∧ _))

instance : Decidable (classifier.Accepted db action) := inferInstanceAs (Decidable (_ ∧ _))

instance : Decidable (classifier.Drifts db action) := inferInstanceAs (Decidable (_ ∧ _))

end Measures

variable {classifier : IntentClassifier} {db : CharacterData} {action action' : Action}

/-- The hints are a matter of the type and the tool. -/
theorem hints_congr (htype : action.type = action'.type)
    (htool : action.toolName = action'.toolName) : hints db action = hints db action' := by
  simp only [hints, htype, htool]

theorem card_namedHints :
    (intentTokens db action).countP (hints db action).contains = (namedHints db action).card := by
  -- Both are lists without duplicates that stand for sets.
  have hnodup : ((intentTokens db action).filter (hints db action).contains).Nodup :=
    (List.nodup_dedup _).filter _
  rw [List.countP_eq_length_filter, ← List.toFinset_card_of_nodup hnodup]
  congr 1
  ext token
  simp [namedHints]

theorem card_hints : (hints db action).toFinset.card = (hints db action).length :=
  List.toFinset_card_of_nodup (List.nodup_dedup _)

theorem hintShare_eq (h : hints db action ≠ []) :
    hintShare db action = (namedHints db action).card / (hints db action).length := by
  rw [hintShare, if_neg h, share, card_hints]
  rfl

/-- `len(tokens & hints) / max(len(hints), 1) if hints else 0.5` -/
theorem lexicalOverlap_eq :
    (if (hints db action).isEmpty then (1 / 2 : ℚ)
      else ((intentTokens db action).countP (hints db action).contains : ℕ) /
        (max (hints db action).length 1 : ℕ)) = hintShare db action := by
  by_cases hempty : hints db action = []
  · simp [hintShare, hempty]
  · have hlength : 1 ≤ (hints db action).length := List.length_pos_of_ne_nil hempty
    rw [if_neg (by simpa using hempty), hintShare_eq hempty, max_eq_left hlength,
      card_namedHints]

theorem hintShare_nonneg : 0 ≤ hintShare db action := by
  unfold hintShare
  split
  · norm_num
  · exact share_nonneg

theorem hintShare_le_one : hintShare db action ≤ 1 := by
  unfold hintShare
  split
  · norm_num
  · exact share_le_one

/-- Naming more of the hints is a larger share. -/
theorem hintShare_mono (htype : action.type = action'.type)
    (htool : action.toolName = action'.toolName)
    (hnamed : namedHints db action ⊆ namedHints db action') :
    hintShare db action ≤ hintShare db action' := by
  have hhints : hints db action = hints db action' := hints_congr htype htool
  unfold hintShare
  rw [hhints]
  split
  · exact le_refl _
  · unfold namedHints at hnamed
    rw [hhints] at hnamed
    exact share_mono hnamed

theorem hintShare_le_half (h : namedHints db action = ∅) : hintShare db action ≤ 1 / 2 := by
  unfold hintShare
  split
  · exact le_refl _
  · rw [share_of_disjoint h]
    norm_num

/-! ### What `classify` reports -/

theorem assess_of_undeclared (h : Undeclared action) :
    classifier.assess db action = .ok .missing := by
  have hempty : (action.intent.getD []).strip = [] := h
  simp only [assess, hempty, List.isEmpty_nil, if_true]

/-- The comparison, in terms of the share of the hints alone. -/
theorem assess_of_declared (hembed : classifier.embeddings = none) (h : ¬ Undeclared action) :
    classifier.assess db action = .ok (if classifier.Matches db action ∨ Exempt db action then
      .aligned else .drift (intentText action) (hintShare db action) (hintShare db action)) := by
  have hintent : (action.intent.getD []).strip.isEmpty = false := by
    simpa [Undeclared, intentText] using h
  have hshare := @lexicalOverlap_eq db action
  have hexempt : ((intentHints action.type).isEmpty && (none : Option EmbeddingProvider).isNone &&
      decide ((intentTokens db action).length ≤ 4) &&
      !sharesSubstring (intentTokens db action) (hints db action)) = decide (Exempt db action) := by
    rw [Bool.eq_iff_iff, decide_eq_true_iff, Exempt]
    simp [and_assoc]
  unfold intentTokens intentText at hshare hexempt
  unfold assess
  simp only [hintent, hembed, hshare, hexempt]
  by_cases hmatches : classifier.Matches db action
  · have hmin : classifier.config.minSimilarityForMatch ≤ hintShare db action := hmatches
    simp [hmatches, hmin, pure, Except.pure, bind, Except.bind]
  · have hmin : ¬ classifier.config.minSimilarityForMatch ≤ hintShare db action := hmatches
    by_cases hshort : Exempt db action
    · simp [hmin, hshort, pure, Except.pure, bind, Except.bind]
    · simp [hmatches, hmin, hshort, intentText, pure, Except.pure, bind, Except.bind]

theorem missingIntent_eq : ∃ f, missingIntent = .ok f ∧ f.severity.val = 1 / 4 :=
  RiskFactor.exists_make (by norm_num) _ _ _ _

theorem intentDrift_eq (classifier : IntentClassifier) (action : Action) (intent : PyStr)
    {overlap : ℚ} (hoverlap : overlap ∈ Set.Icc (0 : ℚ) 1) :
    ∃ f, classifier.intentDrift action intent overlap overlap = .ok f ∧
      f.severity.val = roundTo 3 (1 - overlap) := by
  obtain ⟨hnonneg, hle⟩ := hoverlap
  have hcombined : min 1 (1 - (overlap + overlap) / 2) = 1 - overlap := by
    rw [add_self_div_two, min_eq_right (by linarith)]
  have hunit : roundTo 3 (1 - overlap) ∈ Set.Icc (0 : ℚ) 1 :=
    roundTo_mem_unit ⟨by linarith, by linarith⟩
  unfold intentDrift
  dsimp only
  rw [hcombined]
  exact RiskFactor.exists_make hunit _ _ _ _

theorem classify_of_undeclared (h : Undeclared action) :
    ∃ f, classifier.classify db action = .ok [f] ∧ f.severity.val = 1 / 4 := by
  obtain ⟨f, hf, hseverity⟩ := missingIntent_eq
  refine ⟨f, ?_, hseverity⟩
  unfold classify
  rw [assess_of_undeclared h]
  simp [hf, pure, Except.pure, bind, Except.bind]

theorem classify_of_accepted (hembed : classifier.embeddings = none)
    (h : classifier.Accepted db action) : classifier.classify db action = .ok [] := by
  unfold classify
  rw [assess_of_declared hembed h.1, if_pos h.2]
  rfl

theorem classify_of_drifts (hembed : classifier.embeddings = none)
    (h : classifier.Drifts db action) : ∃ f, classifier.classify db action = .ok [f] ∧
      f.severity.val = roundTo 3 (1 - hintShare db action) := by
  have hunit : hintShare db action ∈ Set.Icc (0 : ℚ) 1 := ⟨hintShare_nonneg, hintShare_le_one⟩
  obtain ⟨f, hf, hseverity⟩ := intentDrift_eq classifier action (intentText action) hunit
  refine ⟨f, ?_, hseverity⟩
  unfold classify
  rw [assess_of_declared hembed h.1, if_neg (not_or.mpr h.2)]
  simp [hf, pure, Except.pure, bind, Except.bind]

theorem undeclared_or_accepted_or_drifts (classifier : IntentClassifier) (db : CharacterData)
    (action : Action) :
    Undeclared action ∨ classifier.Accepted db action ∨ classifier.Drifts db action := by
  unfold Accepted Drifts
  tauto

theorem namedHints_of_undeclared (h : Undeclared action) : namedHints db action = ∅ := by
  have hempty : intentText action = [] := h
  simp [namedHints, intentTokens, hempty, tokenize, runsOf]

theorem severity_of_undeclared (h : Undeclared action) :
    reportedSeverity (classifier.classify db action) = 1 / 4 := by
  obtain ⟨f, hf, hseverity⟩ := classify_of_undeclared h
  rw [hf]
  exact hseverity

theorem severity_of_accepted (hembed : classifier.embeddings = none)
    (h : classifier.Accepted db action) :
    reportedSeverity (classifier.classify db action) = 0 := by
  rw [classify_of_accepted hembed h]
  rfl

theorem severity_of_drifts (hembed : classifier.embeddings = none)
    (h : classifier.Drifts db action) :
    reportedSeverity (classifier.classify db action) = roundTo 3 (1 - hintShare db action) := by
  obtain ⟨f, hf, hseverity⟩ := classify_of_drifts hembed h
  rw [hf]
  exact hseverity

/-! ### Two intents for one type and tool -/

/-- What an undeclared intent costs is no more than what an intent without any hint costs. -/
theorem quarter_le_drift (hembed : classifier.embeddings = none)
    (h : classifier.Drifts db action) (hnamed : namedHints db action = ∅) :
    1 / 4 ≤ reportedSeverity (classifier.classify db action) := by
  have hgrid : ((250 : ℤ) / 10 ^ 3 : ℚ) ≤ 1 - hintShare db action := by
    have hhalf := hintShare_le_half hnamed
    push_cast
    linarith
  calc (1 / 4 : ℚ) = (250 : ℤ) / 10 ^ 3 := by norm_num
    _ ≤ roundTo 3 (1 - hintShare db action) := le_roundTo_of_grid hgrid
    _ = reportedSeverity (classifier.classify db action) := (severity_of_drifts hembed h).symm

/-- A drifting intent costs no more than an undeclared one only where it names about three
quarters of the hints. -/
theorem drift_le_quarter_iff (hembed : classifier.embeddings = none)
    (h : classifier.Drifts db action) :
    reportedSeverity (classifier.classify db action) ≤ 1 / 4 ↔
      1499 / 2000 ≤ hintShare db action := by
  have hgrid : ((250 : ℤ) / 10 ^ 3 : ℚ) = 1 / 4 := by norm_num
  rw [severity_of_drifts hembed h, ← hgrid, roundTo_le_iff_of_even (by decide), hgrid]
  constructor <;> intro hle <;> linarith

theorem drift_le_drift (hembed : classifier.embeddings = none)
    (htype : action.type = action'.type) (htool : action.toolName = action'.toolName)
    (hnamed : namedHints db action ⊆ namedHints db action')
    (h : classifier.Drifts db action) (h' : classifier.Drifts db action') :
    reportedSeverity (classifier.classify db action') ≤
      reportedSeverity (classifier.classify db action) := by
  have hshare := hintShare_mono htype htool hnamed
  rw [severity_of_drifts hembed h, severity_of_drifts hembed h']
  exact roundTo_mono 3 (by linarith)

/-- Between two declared intents naming more of the hints costs nothing, unless the first is
accepted and the second drifts. Leaving an intent undeclared is its own case: it costs a
quarter, more than an accepted intent and less than one that drifts. -/
theorem severity_le_iff (hembed : classifier.embeddings = none)
    (htype : action.type = action'.type) (htool : action.toolName = action'.toolName)
    (hnamed : namedHints db action ⊆ namedHints db action')
    (hshort : classifier.Accepted db action → ¬ classifier.Drifts db action') :
    reportedSeverity (classifier.classify db action') ≤
        reportedSeverity (classifier.classify db action) ↔
      (Undeclared action' → ¬ classifier.Accepted db action) ∧ (Undeclared action →
        classifier.Drifts db action' → 1499 / 2000 ≤ hintShare db action') := by
  rcases undeclared_or_accepted_or_drifts classifier db action' with hnone' | hok' | hdrift'
  -- The second intent costs a quarter and names no hint, so the first one names none.
  · have hnodrift : ¬ classifier.Drifts db action' := fun h => h.1 hnone'
    rw [severity_of_undeclared hnone']
    rcases undeclared_or_accepted_or_drifts classifier db action with hnone | hok | hdrift
    · have hnoaccept : ¬ classifier.Accepted db action := fun h => h.1 hnone
      simp [severity_of_undeclared hnone, hnoaccept, hnodrift]
    · rw [severity_of_accepted hembed hok]
      norm_num [hnone', hok]
    · have hnoaccept : ¬ classifier.Accepted db action := fun h => not_or.mpr hdrift.2 h.2
      have hempty : namedHints db action = ∅ := by
        rw [namedHints_of_undeclared hnone'] at hnamed
        exact Finset.subset_empty.mp hnamed
      exact iff_of_true (quarter_le_drift hembed hdrift hempty)
        ⟨fun _ => hnoaccept, fun _ h => absurd h hnodrift⟩
  · have hnodrift : ¬ classifier.Drifts db action' := fun h => not_or.mpr h.2 hok'.2
    have hnonneg : 0 ≤ reportedSeverity (classifier.classify db action) := reportedSeverity_nonneg
    rw [severity_of_accepted hembed hok']
    simp [hnonneg, hok'.1, hnodrift]
  -- Both drift and are compared by their shares, or the first one is not declared.
  · have hdeclared : ¬ Undeclared action' := hdrift'.1
    rcases undeclared_or_accepted_or_drifts classifier db action with hnone | hok | hdrift
    · rw [severity_of_undeclared hnone, drift_le_quarter_iff hembed hdrift']
      simp [hnone, hdeclared, hdrift']
    · exact absurd hdrift' (hshort hok)
    · have hle := drift_le_drift hembed htype htool hnamed hdrift hdrift'
      simp [hle, hdeclared, hdrift.1]

/-- A call of `payments.transfer` with a declared intent or none. -/
def transferWith (intent : Option PyStr) : Action :=
  { (default : Action) with tool := some (py "payments.transfer"), intent }

theorem toolName_transferWith (intent intent' : Option PyStr) :
    (transferWith intent).toolName = (transferWith intent').toolName := by
  simp only [transferWith, Action.toolName]

theorem hintShare_calendar : hintShare .ascii
    (transferWith (some (py "read my calendar for tomorrow"))) = 0 := by
  have hcard : (namedHints .ascii
      (transferWith (some (py "read my calendar for tomorrow")))).card = 0 := by decide
  rw [hintShare_eq (by decide), hcard, Nat.cast_zero, zero_div]

theorem drifts_calendar : IntentClassifier.Drifts {} .ascii
    (transferWith (some (py "read my calendar for tomorrow"))) := by
  refine ⟨by decide, ?_, by decide⟩
  rw [Matches, hintShare_calendar]
  norm_num

theorem severity_le_iff_transfer :
    reportedSeverity (IntentClassifier.classify {} .ascii
        (transferWith (some (py "transfer the rent for tomorrow")))) ≤
      reportedSeverity (IntentClassifier.classify {} .ascii
        (transferWith (some (py "read my calendar for tomorrow")))) :=
  (@severity_le_iff {} .ascii (transferWith (some (py "read my calendar for tomorrow")))
    (transferWith (some (py "transfer the rent for tomorrow"))) rfl
    (by simp only [transferWith]) (toolName_transferWith _ _) (by decide)
    fun haccepted => absurd haccepted.2 (not_or.mpr drifts_calendar.2)).mpr
    ⟨fun hnone => absurd hnone (by decide), fun hnone => absurd hnone (by decide)⟩

/-- An intent that is declared and names as few hints as none at all is penalised. -/
theorem mismatch_penalised :
    namedHints .ascii (transferWith none) ⊆
        namedHints .ascii (transferWith (some (py "read my calendar for tomorrow"))) ∧
      ¬ reportedSeverity (IntentClassifier.classify {} .ascii
          (transferWith (some (py "read my calendar for tomorrow")))) ≤
        reportedSeverity (IntentClassifier.classify {} .ascii (transferWith none)) := by
  have hnone : Undeclared (transferWith none) := by decide
  refine ⟨by rw [namedHints_of_undeclared hnone]; exact Finset.empty_subset _, ?_⟩
  rw [severity_of_undeclared hnone, drift_le_quarter_iff rfl drifts_calendar, hintShare_calendar]
  norm_num

end IntentClassifier

end AgentSentinel
