import AgentSentinel.Core.MatchAgreement
import AgentSentinel.Lib.IdealSignature
import AgentSentinel.PolicyPac.Loader

/-!
# AgentSentinel.PolicyPac.PinnedMeaning

What the signature of a bundle says about its meaning. A file is accepted under a key when
the owner of the key has signed a bundle with the same dump. So the rules of the two have the
same names, effects and priorities, and their match dictionaries have one JSON form. The
matcher sees more than the JSON form: it compares Python values, and bytes, dates and floats
that are no numbers are dumped like something else they are not equal to.
-/

namespace AgentSentinel

open Lib

/-! ### Values a dump stands for -/

/-- What the check of a key makes of two values with one dump is clearly the same: they are
one value, or plain JSON both, or, for a check that converts its value, converted to the
same. -/
def ReadAlike (rt : PyRuntime) : MatchKey → Value → Value → Prop
  | .unknown, _, _ => True
  | .didPrefix, v, w => (v = .none ↔ w = .none) ∧ v.toStr rt = w.toStr rt
  | .minSeverity, v, w => (v = .none ↔ w = .none) ∧ v.threshold = w.threshold
  | _, v, w => v = w ∨ (v.IsJson ∧ w.IsJson)

theorem ReadAlike.interchangeable {rt : PyRuntime} {mode : JsonMode} {k : MatchKey} {v w : Value}
    (h : ReadAlike rt k v w) (hdump : mode.Alike v w) : Interchangeable rt k v w := by
  have hplain (h : v = w ∨ (v.IsJson ∧ w.IsJson)) : v.OneJson w := by
    rcases h with rfl | ⟨hv, hw⟩
    · exact Or.inl rfl
    · exact hdump.oneJson hv hw
  cases k with
  | unknown => trivial
  | didPrefix => exact h
  | minSeverity => exact h
  | _ => exact hplain h

theorem ReadAlike.refl (rt : PyRuntime) (k : MatchKey) (v : Value) : ReadAlike rt k v v := by
  cases k with
  | unknown => trivial
  | didPrefix => exact ⟨Iff.rfl, rfl⟩
  | minSeverity => exact ⟨Iff.rfl, rfl⟩
  | _ => exact Or.inl rfl

/-- In every enabled rule, the values under a key are read alike in the two bundles. -/
def RulesReadAlike (rt : PyRuntime) (bundle other : BundleDocument) : Prop :=
  ∀ p ∈ bundle.rules.zip other.rules, p.1.enabled = true → ∀ key v w,
    p.1.matchOn.get key = some v → p.2.matchOn.get key = some w →
      ReadAlike rt (MatchKey.parse key) v w

theorem RulesReadAlike.refl (rt : PyRuntime) (bundle : BundleDocument) :
    RulesReadAlike rt bundle bundle := by
  intro p hp _ key v w hv hw
  have hsame : p.1 = p.2 :=
    (List.forall₂_iff_zip.mp (List.forall₂_eq_eq_eq ▸ rfl : List.Forall₂ Eq _ bundle.rules)).2 hp
  rw [hsame, hw] at hv
  obtain rfl := Option.some.inj hv
  exact ReadAlike.refl rt _ _

theorem RuleDocument.Tied.agree {rt : PyRuntime} {mode : JsonMode} {rule other : RuleDocument}
    (h : rule.Tied mode other)
    (hread : rule.enabled = true → ∀ key v w, rule.matchOn.get key = some v →
      other.matchOn.get key = some w → ReadAlike rt (MatchKey.parse key) v w) :
    RuleAgree rt rule.toPolicyRule other.toPolicyRule where
  id := h.id
  effect := h.effect
  priority := h.priority
  enabled := h.enabled
  matchOn henabled key _ := by
    have hget := h.matchOn.get key
    have hkey := hread henabled key
    generalize rule.matchOn.get key = found at hget hkey ⊢
    generalize other.matchOn.get key = found' at hget hkey ⊢
    cases hget with
    | none => exact .none
    | some hvw => exact .some ((hkey _ _ rfl rfl).interchangeable hvw)

/-- Bundles that are tied by one dump, and read alike, say the same of every action. -/
theorem outcome_of_tied {rt : PyRuntime} {mode : JsonMode} {bundle other : BundleDocument}
    (h : List.Forall₂ (RuleDocument.Tied mode) bundle.rules other.rules)
    (hread : RulesReadAlike rt bundle other) (action : Action) (identity : Option Identity)
    (factors : List RiskFactor) :
    (⟨bundle.toBundle⟩ : PolicyEngine).outcome rt action identity factors =
      (⟨other.toBundle⟩ : PolicyEngine).outcome rt action identity factors := by
  refine outcome_agree ?_
  show List.Forall₂ _ (bundle.rules.map _) (other.rules.map _)
  rw [List.forall₂_map_left_iff, List.forall₂_map_right_iff]
  obtain ⟨hlength, hzip⟩ := List.forall₂_iff_zip.mp h
  refine List.forall₂_iff_zip.mpr ⟨hlength, fun {rule other} hmem => ?_⟩
  exact (hzip hmem).agree (hread (rule, other) hmem)

/-! ### The owner of a key -/

namespace PolicyTools

variable {SK PK : Type}

/-- A call of `policy_sign`: when, and on which file with which text. -/
structure SignCall where
  clock : ℤ
  path : PyStr
  raw : PyStr

section Owner

variable (tools : PolicyTools SK PK) (key : SK) (calls : List SignCall)

/-- The bundle has been signed in one of the calls. -/
def Signed (bundle : BundleDocument) : Prop :=
  ∃ call ∈ calls, tools.signedBundle call.clock call.path call.raw = .ok bundle ∧
    ∃ text, tools.policySign call.clock call.path call.raw key = .ok text

/-- What is relied on after these calls: the encoders and the JSON mode, and an ideal
signature scheme whose key has signed the bundles of the calls. -/
structure OwnerSpec where
  dumps : DumpSpec tools.lib tools.rt
  ideal : IdealSignature (tools.lib.privateSign key)
    (fun sig payload => tools.lib.publicVerify (tools.lib.publicKey key) sig payload = .ok ())
    (IdealSignature.Encodes (fun bundle payload => tools.payload bundle = .ok payload)
      (tools.Signed key calls))

/-- If the file is accepted under the key, its owner has signed a bundle with the payload of
the one that is returned, and each such bundle says the same of every action. -/
def PinsMeaning (clock : ℤ) (path raw : PyStr) : Prop :=
  ∀ loaded, tools.loadBundleFromPath clock path raw (some (tools.lib.publicKey key)) = .ok loaded →
    (∃ signed, tools.Signed key calls signed ∧ tools.payload signed = tools.payload loaded) ∧
      ∀ signed, tools.Signed key calls signed → tools.payload signed = tools.payload loaded →
        ∀ action identity factors,
          (⟨signed.toBundle⟩ : PolicyEngine).outcome tools.rt action identity factors =
            (⟨loaded.toBundle⟩ : PolicyEngine).outcome tools.rt action identity factors

end Owner

variable {tools : PolicyTools SK PK} {key : SK} {calls : List SignCall} {clock : ℤ}
  {path raw : PyStr}

theorem verified_of_checkSignature {publicKey : PK} {signature : Value} {bundle : BundleDocument}
    (h : tools.checkSignature publicKey signature bundle = .ok ()) :
    ∃ sig payload, b64decode signature = .ok sig ∧ tools.payload bundle = .ok payload ∧
      Crypto.verify tools.lib publicKey sig payload = true := by
  unfold checkSignature at h
  split at h
  · cases h
  split at h
  · split at h <;> cases h
  · next sig hsig =>
      obtain ⟨payload, hpayload, h⟩ := bind_eq_ok.mp h
      split at h
      · next hverify => exact ⟨sig, payload, hsig, hpayload, hverify⟩
      · cases h

/-- What is loaded under a key is what is loaded without one. -/
theorem load_without_key {publicKey : PK} {bundle : BundleDocument}
    (h : tools.loadBundleFromPath clock path raw (some publicKey) = .ok bundle) :
    tools.loadBundleFromPath clock path raw none = .ok bundle := by
  obtain ⟨es, hes, hbundle, -⟩ := (loadBundleFromPath_eq_ok tools).mp h
  refine bind_eq_ok.mpr ⟨_, hes, ?_⟩
  exact bind_eq_ok.mpr ⟨_, hbundle, rfl⟩

/-- **Acceptance.** A bundle that is loaded under the key of an owner has the payload of one
that the owner has signed. -/
theorem signed_of_load (spec : tools.OwnerSpec key calls) {loaded : BundleDocument}
    (h : tools.loadBundleFromPath clock path raw (some (tools.lib.publicKey key)) = .ok loaded) :
    ∃ signed payload, tools.Signed key calls signed ∧ tools.payload signed = .ok payload ∧
      tools.payload loaded = .ok payload := by
  obtain ⟨es, -, -, hcheck⟩ := (loadBundleFromPath_eq_ok tools).mp h
  obtain ⟨sig, payload, -, hpayload, hverify⟩ := verified_of_checkSignature hcheck
  obtain ⟨⟨signed, hsigned, hsame⟩, -⟩ :=
    (spec.ideal.accepts_iff sig payload).mp (Crypto.verify_eq_true.mp hverify)
  exact ⟨signed, payload, hsigned, hsame, hpayload⟩

/-- Bundles with one payload have rules that are tied one by one. -/
theorem tied_of_payload (spec : DumpSpec tools.lib tools.rt) {bundle other : BundleDocument}
    {bytes : PyBytes} (h : tools.payload bundle = .ok bytes)
    (h' : tools.payload other = .ok bytes) :
    List.Forall₂ (RuleDocument.Tied spec.mode) bundle.rules other.rules := by
  obtain ⟨d, e, hd, he, hequal⟩ := (payload_eq_iff spec h).mp h'
  obtain ⟨rules, hrules, rfl⟩ := modelDump_eq_ok.mp hd
  obtain ⟨rules', hrules', rfl⟩ := modelDump_eq_ok.mp he
  have hlist := isJson_ruleDumps spec hrules
  have hfields := (bundleDump_eq_iff tools.lib bundle other hlist
    (isJson_ruleDumps spec hrules')).mp hequal
  obtain ⟨-, -, -, -, hsame, -, -⟩ := hfields
  obtain ⟨t, ht⟩ := hlist
  exact rules_tied spec hrules hrules' ht (hsame.symm.trans ht)

/-- **What a signature pins.** A file that is accepted has the meaning of a bundle that was
signed, unless the values in it that the matcher reads have been replaced by others which are
not told apart in JSON. -/
theorem pinsMeaning_of_readAlike (spec : tools.OwnerSpec key calls)
    (hread : ∀ bundle signed, tools.loadBundleFromPath clock path raw none = .ok bundle →
      tools.Signed key calls signed → tools.payload signed = tools.payload bundle →
        RulesReadAlike tools.rt signed bundle) :
    tools.PinsMeaning key calls clock path raw := by
  intro loaded hload
  obtain ⟨signed, payload, hsigned, hpayload, hloaded⟩ := signed_of_load spec hload
  refine ⟨⟨signed, hsigned, hpayload.trans hloaded.symm⟩, fun other hother hsame => ?_⟩
  exact outcome_of_tied (tied_of_payload spec.dumps (hsame.trans hloaded) hloaded)
    (hread loaded other (load_without_key hload) hother hsame)

/-! ### One file -/

/-- A signature scheme whose key has signed one payload. -/
def sealedSigning : SigningLibrary PyBytes PyBytes := { markedSigning with
  publicVerify := fun _ signature payload =>
    if signature = 0 :: payload ∧ payload = shellBytes then .ok ()
    else .error ⟨.other (py "InvalidSignature"), py ""⟩ }

/-- The bundle that keeps agents off the shell, with another value for the tool. -/
def toolBundle (tool : Value) : BundleDocument := { shellBundle with
  rules := [{
    id := py "no-shell"
    effect := .deny
    matchOn := PyDict.empty.set (py "action.tool") tool }] }

/-- A mapping it is read from, with the signature of the one that keeps agents off the
shell. -/
def toolData (tool : Value) : List (Value × Value) :=
  [(.str (py "version"), .str (py "1")),
    (.str (py "issued_at"), .str (py "1970-01-01T00:00:00Z")),
    (.str (py "rules"), .list [.dict [(.str (py "id"), .str (py "no-shell")),
      (.str (py "effect"), .str (py "deny")),
      (.str (py "match"), .dict [(.str (py "action.tool"), tool)])]]),
    (.str (py "signature"), .str (Base64.encode (0 :: shellBytes)))]

/-- The text of the mapping, given how the tool is written. -/
def toolYaml (tool : PyStr) : PyStr :=
  py "version: '1'\nissued_at: '1970-01-01T00:00:00Z'\nrules:\n- id: no-shell\n" ++
    py "  effect: deny\n  match:\n    action.tool: " ++ tool ++ py "\nsignature: " ++
    Base64.encode (0 :: shellBytes) ++ py "\n"

/-- File formats that know how the tool is written. -/
def toolFiles (written : PyStr) (tool : Value) : FileFormats := {
  twoFiles shellYaml shellWritten shellText shellData with
  yamlLoad := fun text =>
    if text = toolYaml written then .ok (.dict (toolData tool))
    else .error ⟨.other (py "YAMLError"), py "could not find expected ':'"⟩ }

def toolTools (written : PyStr) (tool : Value) : PolicyTools PyBytes PyBytes where
  lib := sealedSigning
  rt := ratioRuntime
  files := toolFiles written tool
  lax := exactTypes

theorem sealedSigning_accepts (key : PyBytes) :
    Crypto.verify sealedSigning key (0 :: shellBytes) shellBytes = true := by
  simp [Crypto.verify_eq_true, sealedSigning]

section OneFile

variable {written : PyStr} {tool : Value}

theorem toolFiles_yamlLoad :
    (toolFiles written tool).yamlLoad (toolYaml written) = .ok (.dict (toolData tool)) := by
  simp [toolFiles]

theorem toolFiles_yamlDump : (toolFiles written tool).yamlDump shellWritten = .ok shellYaml := by
  simp only [toolFiles, twoFiles_yamlDump]

theorem payload_tool : (toolTools written tool).payload shellBundle = .ok shellBytes :=
  payload_shell

theorem signed_tool_iff {bundle : BundleDocument} :
    (toolTools written tool).Signed [] [⟨0, py "shell.json", shellText⟩] bundle ↔
      bundle = shellBundle := by
  have hread : (toolTools written tool).signedBundle 0 (py "shell.json") shellText =
      .ok shellBundle := rfl
  constructor
  · intro h
    obtain ⟨call, hcall, hbundle, -⟩ := h
    obtain rfl := List.mem_singleton.mp hcall
    exact Except.ok.inj (hbundle.symm.trans hread)
  · intro h
    obtain rfl := h
    refine ⟨_, List.mem_singleton_self _, hread, shellYaml, ?_⟩
    have hwritten : (PolicyTools.written sealedSigning shellBundle
        (Base64.encode (Crypto.sign sealedSigning [] shellBytes)) shellRules).toValue =
          shellWritten := rfl
    rw [policySign_eq hread payload_tool shellRules_eq []]
    simp only [toolTools, hwritten, toolFiles_yamlDump]

def toolSpec (written : PyStr) (tool : Value) :
    (toolTools written tool).OwnerSpec [] [⟨0, py "shell.json", shellText⟩] where
  dumps := { markedSigningSpec.toDumpSpec with }
  ideal := by
    refine ⟨fun sig payload => ?_⟩
    have hmade : IdealSignature.Encodes
        (fun bundle payload => (toolTools written tool).payload bundle = .ok payload)
        ((toolTools written tool).Signed [] [⟨0, py "shell.json", shellText⟩]) payload ↔
          payload = shellBytes := by
      simp only [IdealSignature.Encodes, signed_tool_iff, exists_eq_left, payload_tool,
        Except.ok.injEq]
      exact eq_comm
    rw [hmade, and_comm]
    show (if sig = 0 :: payload ∧ payload = shellBytes then _ else _ : Result Unit) = .ok () ↔ _
    split
    · next h => exact iff_of_true rfl h
    · next h => exact iff_of_false (by simp) h

theorem load_toolTools : (toolTools written tool).files.load (isYamlPath (py "signed.yaml"))
    (toolYaml written) = .ok (.dict (toolData tool)) := toolFiles_yamlLoad

theorem modelValidate_tool : exactTypes.modelValidate (utcNow 60)
    (.dict (popEntries (toolData tool) (py "signature"))) = .ok (toolBundle tool) := by
  rw [toolData, popEntries_str, if_neg (by decide), popEntries_str, if_neg (by decide),
    popEntries_str, if_neg (by decide), popEntries_str, if_pos rfl]
  rfl

theorem loadBundleFromPath_tool : (toolTools written tool).loadBundleFromPath 60
    (py "signed.yaml") (toolYaml written) none = .ok (toolBundle tool) :=
  bind_eq_ok.mpr ⟨_, load_toolTools, bind_eq_ok.mpr ⟨_, modelValidate_tool, rfl⟩⟩

/-- The file is accepted if the bundle in it has the payload that was signed. -/
theorem loadBundleFromPath_signed
    (h : (toolTools written tool).payload (toolBundle tool) = .ok shellBytes) :
    (toolTools written tool).loadBundleFromPath 60 (py "signed.yaml") (toolYaml written)
      (some []) = .ok (toolBundle tool) := by
  refine (loadBundleFromPath_eq_ok _).mpr ⟨_, load_toolTools, modelValidate_tool, ?_⟩
  exact (checkSignature_encode (List.cons_ne_nil _ _)).mpr ⟨_, h, sealedSigning_accepts []⟩

end OneFile

/-- The name of the tool as bytes, which is dumped as the name itself. -/
def shellAsBytes : Value := .bytes [0x73, 0x68, 0x65, 0x6C, 0x6C]

theorem payload_shellAsBytes (written : PyStr) :
    (toolTools written shellAsBytes).payload (toolBundle shellAsBytes) = .ok shellBytes := by
  have hdump : (toolBundle shellAsBytes).modelDump sealedSigning =
      shellBundle.modelDump sealedSigning := rfl
  rw [payload, show (toolTools written shellAsBytes).lib = sealedSigning from rfl, hdump]
  exact payload_tool

/-- A file that was written anew, without the defaults, has the meaning that was signed. -/
theorem pinsMeaning_shell :
    (toolTools (py "shell") (.str (py "shell"))).PinsMeaning []
      [⟨0, py "shell.json", shellText⟩] 60 (py "signed.yaml") (toolYaml (py "shell")) := by
  refine pinsMeaning_of_readAlike (toolSpec _ _) fun bundle signed hbundle hsigned _ => ?_
  obtain rfl := Except.ok.inj (loadBundleFromPath_tool.symm.trans hbundle)
  obtain rfl := signed_tool_iff.mp hsigned
  exact RulesReadAlike.refl ratioRuntime shellBundle

/-- With the name as bytes the rule no longer applies to the tool. -/
theorem outcome_shellAsBytes :
    (⟨shellBundle.toBundle⟩ : PolicyEngine).outcome ratioRuntime
        { (default : Action) with tool := some (py "shell") } none [] ≠
      (⟨(toolBundle shellAsBytes).toBundle⟩ : PolicyEngine).outcome ratioRuntime
        { (default : Action) with tool := some (py "shell") } none [] := by
  intro h
  have hcount := congrArg (fun r => (r.toOption.getD []).length) h
  revert hcount
  decide +kernel

/-- A signed file whose strings are replaced by bytes is accepted and means something else. -/
theorem bytes_not_pinned : ¬ ∀ (tools : PolicyTools PyBytes PyBytes) (key : PyBytes)
    (calls : List SignCall), tools.OwnerSpec key calls →
    ∀ (clock : ℤ) (path raw : PyStr), tools.PinsMeaning key calls clock path raw := by
  intro h
  have hload := loadBundleFromPath_signed (payload_shellAsBytes (py "!!binary c2hlbGw="))
  obtain ⟨-, hpinned⟩ := h _ [] _ (toolSpec (py "!!binary c2hlbGw=") shellAsBytes) 60
    (py "signed.yaml") (toolYaml (py "!!binary c2hlbGw=")) _ hload
  exact outcome_shellAsBytes (hpinned shellBundle (signed_tool_iff.mpr rfl)
    (payload_tool.trans (payload_shellAsBytes _).symm) _ none [])

end PolicyTools

end AgentSentinel
