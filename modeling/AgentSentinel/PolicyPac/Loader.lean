import Mathlib.Data.List.DropRight
import AgentSentinel.Models.PolicyDocument

/-!
# AgentSentinel.PolicyPac.Loader

Signing a policy bundle and loading it again. The signer reads a mapping, signs the dump
of the bundle it is validated to, and writes the dump with the signature in it as YAML.
The loader takes the signature out of the mapping, validates the rest and checks the
signature on the dump of what it got.

The two do not agree on everything. The signer writes YAML under every name, and the
loader reads a file by its name. The signer signs a signature that is already there, and
the loader never sees it. And what JSON has no form for is written in some other form.
-/

namespace AgentSentinel

open Lib

/-! ### Files -/

/-- `yaml.safe_load`, `yaml.safe_dump(..., sort_keys=True)` and `json.loads`. -/
structure FileFormats where
  yamlLoad : PyStr → Result Value
  yamlDump : Value → Result PyStr
  jsonLoads : PyStr → Result Value

/-- A file is read as YAML or as JSON. -/
def FileFormats.load (files : FileFormats) (isYaml : Bool) (raw : PyStr) : Result Value :=
  if isYaml then files.yamlLoad raw else files.jsonLoads raw

/-- `path.suffix`: the last part of the file's name, if there is something before its dot
and after it. -/
def pathSuffix (path : PyStr) : PyStr :=
  let name := path.rtakeWhile (· ≠ 0x2F)
  let stem := name.rdropWhile (· ≠ 0x2E)
  let ending := name.rtakeWhile (· ≠ 0x2E)
  -- The stem keeps its dot, so the only stem that is too short is the dot alone.
  if stem.length ≤ 1 ∨ ending.isEmpty then [] else 0x2E :: ending

/-- `str(path).endswith((".yaml", ".yml"))`. -/
def isYamlPath (path : PyStr) : Bool :=
  (py ".yaml").isSuffixOf path || (py ".yml").isSuffixOf path

/-- `bool(v)`. -/
def Value.truthy : Value → Bool
  | .none => false
  | .bool b => b
  | .int n => n != 0
  | .float x => !x.eq (.finite 0)
  | .str s => !s.isEmpty
  | .bytes bs => !bs.isEmpty
  | .list xs => !xs.isEmpty
  | .tuple xs => !xs.isEmpty
  | .set xs => !xs.isEmpty
  | .dict es => !es.isEmpty
  | _ => true

/-- The entries that `d.pop(key)` leaves. -/
def popEntries (es : List (Value × Value)) (key : PyStr) : List (Value × Value) :=
  es.filter fun e => !e.1.pyEq (.str key)

/-- `base64.b64decode(v)`. Bytes are read like text, but none of them is refused. -/
def b64decode : Value → Result PyBytes
  | .str s => Base64.decode s
  | .bytes bs => Base64.decodeFrom 0 0 0 (bs.map fun b => Fin.ofNat 0x110000 b.val)
  | _ => .error ⟨.typeError, py "argument should be a bytes-like object or ASCII string"⟩

/-- What the signer and the loader take from libraries. -/
structure PolicyTools (SK PK : Type) where
  lib : SigningLibrary SK PK
  rt : PyRuntime
  files : FileFormats
  lax : LaxValidators

namespace PolicyTools

variable {SK PK : Type} (tools : PolicyTools SK PK)

def policyError (msg : PyStr) : PyExc := ⟨.other (py "PolicyError"), msg⟩

/-- `datetime.now(UTC)`. -/
def utcNow (clock : ℤ) : PyDatetime := .aware clock 0

/-! ### The signer -/

/-- The bundle that `policy_sign` signs. -/
def signedBundle (clock : ℤ) (path raw : PyStr) : Result BundleDocument := do
  let data ← tools.files.load ([py ".yaml", py ".yml"].contains (pathSuffix path)) raw
  tools.lax.modelValidate (utcNow clock) data

/-- The canonical bytes of a bundle. -/
def payload (bundle : BundleDocument) : Result PyBytes := do
  let dump ← bundle.modelDump tools.lib
  canonicalBytes tools.lib.toHashLibrary tools.rt dump.toValue

/-- `policy_sign`, with the text of the file it reads and returning that of the file it
writes. -/
def policySign (clock : ℤ) (path raw : PyStr) (privateKey : SK) : Result PyStr := do
  let bundle ← tools.signedBundle clock path raw
  let sig := Crypto.sign tools.lib privateKey (← tools.payload bundle)
  let dump ← bundle.modelDump tools.lib
  tools.files.yamlDump (dump.set (py "signature") (.str (Base64.encode sig))).toValue

/-! ### The loader -/

/-- The checks that a public key asks for. -/
def checkSignature (publicKey : PK) (signature : Value) (bundle : BundleDocument) :
    Result Unit :=
  if !signature.truthy then
    .error (policyError (py "Public key supplied but bundle has no signature"))
  else
    match b64decode signature with
    | .error e =>
      if e.kind = .valueError ∨ e.kind = .typeError then
        .error (policyError (py "Bundle signature is not valid base64"))
      else .error e
    | .ok sig => do
      let payload ← tools.payload bundle
      if Crypto.verify tools.lib publicKey sig payload then return ()
      else .error (policyError (py "Bundle signature verification failed"))

/-- The bundle in a mapping. Without a public key its signature is not looked at. -/
def bundleOf (clock : ℤ) (publicKey : Option PK) (es : List (Value × Value)) :
    Result BundleDocument := do
  let signature := (Value.lookupStr es (py "signature")).getD .none
  let bundle ← tools.lax.modelValidate (utcNow clock) (.dict (popEntries es (py "signature")))
  (publicKey.elim (.ok ()) fun publicKey => tools.checkSignature publicKey signature bundle)
  return bundle

/-- `load_bundle_from_path`, with the text of the file. -/
def loadBundleFromPath (clock : ℤ) (path raw : PyStr) (publicKey : Option PK) :
    Result BundleDocument := do
  match ← tools.files.load (isYamlPath path) raw with
  | .dict es => tools.bundleOf clock publicKey es
  | _ => .error (policyError (py "Policy file " ++ path ++ py " must be a mapping"))

/-- A file that is accepted under a key holds a mapping with a signature that passes. -/
theorem loadBundleFromPath_eq_ok {clock : ℤ} {path raw : PyStr} {publicKey : PK}
    {bundle : BundleDocument} :
    tools.loadBundleFromPath clock path raw (some publicKey) = .ok bundle ↔
      ∃ es, tools.files.load (isYamlPath path) raw = .ok (.dict es) ∧
        tools.lax.modelValidate (utcNow clock) (.dict (popEntries es (py "signature"))) =
          .ok bundle ∧
        tools.checkSignature publicKey ((Value.lookupStr es (py "signature")).getD .none) bundle =
          .ok () := by
  have hmapping : ∀ es, tools.bundleOf clock (some publicKey) es = .ok bundle ↔
      tools.lax.modelValidate (utcNow clock) (.dict (popEntries es (py "signature"))) =
          .ok bundle ∧
        tools.checkSignature publicKey ((Value.lookupStr es (py "signature")).getD .none) bundle =
          .ok () := by
    intro es
    simp only [bundleOf, bind_eq_ok, Option.elim_some]
    constructor
    · intro h
      obtain ⟨b, hb, u, hcheck, heq⟩ := h
      obtain rfl := Except.ok.inj heq
      exact ⟨hb, hcheck⟩
    · intro h
      exact ⟨bundle, h.1, (), h.2, rfl⟩
  simp only [← hmapping, loadBundleFromPath, bind_eq_ok]
  constructor
  · intro h
    obtain ⟨data, hdata, h⟩ := h
    split at h
    · exact ⟨_, hdata, h⟩
    · cases h
  · intro h
    obtain ⟨es, hes, h⟩ := h
    exact ⟨_, hes, h⟩

/-! ### What is relied on -/

/-- The libraries as they are relied on, besides signing: types the model library keeps,
times whose dump it reads as a time with the same dump, and file formats. What is dumped as
YAML is loaded as the same JSON, and a mapping with entries is dumped in a form that is no
JSON text. -/
structure Reliable (tools : PolicyTools SK PK) where
  signing : SigningSpec tools.lib tools.rt
  signature_ne_nil : ∀ key payload, tools.lib.privateSign key payload ≠ []
  keeps : tools.lax.Keeps
  datetime : ∀ t, (∃ v, tools.lax.datetime v = .ok t) ∨ (∃ clock, t = utcNow clock) →
    ∃ t', tools.lax.datetime (.str (tools.lib.dumpDatetime t)) = .ok t' ∧
      tools.lib.dumpDatetime t' = tools.lib.dumpDatetime t
  yaml : ∀ v text, v.IsJson → tools.files.yamlDump v = .ok text →
    ∃ w, tools.files.yamlLoad text = .ok w ∧ w.toJson = v.toJson
  json_refuses : ∀ e es text, tools.files.yamlDump (.dict (e :: es)) = .ok text →
    Raised (tools.files.jsonLoads text)

/-! ### What is signed -/

section Payload

variable {tools} {bundle other : BundleDocument}

theorem modelDump_eq_ok {lib : SigningLibrary SK PK} {dump : PyDict Value} :
    bundle.modelDump lib = .ok dump ↔
      ∃ rules, bundle.rules.mapM (RuleDocument.modelDump lib) = .ok rules ∧
        bundle.dumpFields lib rules = dump := by
  simp only [BundleDocument.modelDump, bind_eq_ok, pure, Except.pure, Except.ok.injEq]

theorem isJson_modelDump (spec : DumpSpec tools.lib tools.rt) {dump : PyDict Value}
    (h : bundle.modelDump tools.lib = .ok dump) : dump.toValue.IsJson := by
  obtain ⟨rules, hrules, rfl⟩ := modelDump_eq_ok.mp h
  exact JsonMode.isJson_toValue (isJson_bundleFields (isJson_ruleDumps spec hrules))

/-- Another bundle has the payload of this one when the two have one dump. -/
theorem payload_eq_iff (spec : DumpSpec tools.lib tools.rt) {bytes : PyBytes}
    (h : tools.payload bundle = .ok bytes) :
    tools.payload other = .ok bytes ↔
      ∃ d e, bundle.modelDump tools.lib = .ok d ∧ other.modelDump tools.lib = .ok e ∧
        d.toValue.toJson = e.toValue.toJson :=
  bytes_of_dump_iff spec.orjson spec.repr PyDict.toValue (fun _ => isJson_modelDump spec)
    (fun _ => isJson_modelDump spec) h

end Payload

/-! ### Loading what was signed -/

theorem popEntries_str (k key : PyStr) (v : Value) (es : List (Value × Value)) :
    popEntries ((.str k, v) :: es) key =
      if k = key then popEntries es key else (.str k, v) :: popEntries es key := by
  simp only [popEntries, List.filter_cons, Value.pyEq]
  split <;> simp_all

theorem lookupStr_popEntries (es : List (Value × Value)) (key k : PyStr) :
    Value.lookupStr (popEntries es key) k = if k = key then none else Value.lookupStr es k := by
  induction es with
  | nil => simp [popEntries, Value.lookupStr]
  | cons e es ih =>
      obtain ⟨k', v⟩ := e
      cases k' with
      | str s =>
          rw [popEntries_str, Value.lookupStr]
          by_cases hs : s = key
          · subst hs
            rw [if_pos rfl, ih]
            by_cases hk : k = s
            · rw [if_pos hk, if_pos hk]
            · rw [if_neg hk, if_neg hk, if_neg (Ne.symm hk)]
          · rw [if_neg hs, Value.lookupStr, ih]
            by_cases hk : s = k
            · rw [if_pos hk, if_pos hk, if_neg (hk ▸ hs)]
            · rw [if_neg hk, if_neg hk]
      | _ =>
          rw [popEntries] at ih ⊢
          rw [List.filter_cons_of_pos (by simp [Value.pyEq, Value.number?]), Value.lookupStr,
            Value.lookupStr, ih]
          all_goals simp

section RoundTrip

variable {tools} {clock clock' : ℤ} {path raw out text : PyStr} {key : SK}
  {signed : BundleDocument}

/-- The mapping that is written: a dump with this signature in it. -/
def written (lib : SigningLibrary SK PK) (bundle : BundleDocument) (b64 : PyStr)
    (rules : List Value) : PyDict Value :=
  (bundle.dumpFields lib rules).set (py "signature") (.str b64)

theorem written_eq (lib : SigningLibrary SK PK) (bundle : BundleDocument) (b64 : PyStr)
    (rules : List Value) : written lib bundle b64 rules =
      BundleDocument.dumpFields lib { bundle with signature := some b64 } rules := rfl

theorem isJson_written {lib : SigningLibrary SK PK} {bundle : BundleDocument} {b64 : PyStr}
    {rules : List Value} (h : (Value.list rules).IsJson) :
    (written lib bundle b64 rules).toValue.IsJson := by
  rw [written_eq]
  exact JsonMode.isJson_toValue (isJson_bundleFields h)

theorem encode_ne_nil {bytes : PyBytes} (h : bytes ≠ []) : Base64.encode bytes ≠ [] := by
  match bytes, h with
  | [a], _ => simp [Base64.encode]
  | [a, b], _ => simp [Base64.encode]
  | a :: b :: c :: bytes, _ => simp [Base64.encode]

/-- What `policy_sign` has done when it returns. -/
theorem policySign_eq_ok (h : tools.policySign clock path raw key = .ok text)
    (hread : tools.signedBundle clock path raw = .ok signed) :
    ∃ bytes rules, tools.payload signed = .ok bytes ∧
      signed.rules.mapM (RuleDocument.modelDump tools.lib) = .ok rules ∧
      tools.files.yamlDump (written tools.lib signed
        (Base64.encode (Crypto.sign tools.lib key bytes)) rules).toValue = .ok text := by
  obtain ⟨bundle, hbundle, h⟩ := bind_eq_ok.mp h
  obtain rfl := Except.ok.inj (hread.symm.trans hbundle)
  obtain ⟨bytes, hbytes, h⟩ := bind_eq_ok.mp h
  obtain ⟨dump, hdump, h⟩ := bind_eq_ok.mp h
  obtain ⟨rules, hrules, rfl⟩ := modelDump_eq_ok.mp hdump
  exact ⟨bytes, rules, hbytes, hrules, h⟩

/-- What `policy_sign` writes. -/
theorem policySign_eq {bytes : PyBytes} {rules : List Value}
    (hread : tools.signedBundle clock path raw = .ok signed)
    (hpayload : tools.payload signed = .ok bytes)
    (hrules : signed.rules.mapM (RuleDocument.modelDump tools.lib) = .ok rules) (key : SK) :
    tools.policySign clock path raw key = tools.files.yamlDump (written tools.lib signed
      (Base64.encode (Crypto.sign tools.lib key bytes)) rules).toValue := by
  have hdump := modelDump_eq_ok.mpr ⟨rules, hrules, rfl⟩
  simp only [policySign, hread, hpayload, hdump, bind, Except.bind]
  rfl

/-- A signature in base64 is checked as it was before it was encoded. -/
theorem checkSignature_encode {publicKey : PK} {sig : PyBytes} {bundle : BundleDocument}
    (hsig : sig ≠ []) :
    tools.checkSignature publicKey (.str (Base64.encode sig)) bundle = .ok () ↔
      ∃ payload, tools.payload bundle = .ok payload ∧
        Crypto.verify tools.lib publicKey sig payload = true := by
  have htruthy : (Value.str (Base64.encode sig)).truthy = true := by
    simp [Value.truthy, encode_ne_nil hsig]
  rw [checkSignature, htruthy, if_neg (by decide)]
  simp only [b64decode, Base64.decode_encode, bind_eq_ok]
  refine exists_congr fun payload => and_congr_right fun _ => ?_
  split
  · next h => exact iff_of_true rfl h
  · next h => exact iff_of_false (by simp) h

/-- The signature that was made is the one that is accepted. -/
theorem checkSignature_iff (reliable : tools.Reliable) (key : SK) {bytes : PyBytes}
    {bundle : BundleDocument} :
    tools.checkSignature (tools.lib.publicKey key)
        (.str (Base64.encode (Crypto.sign tools.lib key bytes))) bundle = .ok () ↔
      tools.payload bundle = .ok bytes := by
  have haccept : ∀ payload, Crypto.verify tools.lib (tools.lib.publicKey key)
      (Crypto.sign tools.lib key bytes) payload = true ↔ payload = bytes :=
    fun payload => Crypto.verify_eq_true.trans (reliable.signing.ideal key bytes payload)
  have hsig : Crypto.sign tools.lib key bytes ≠ [] := reliable.signature_ne_nil key bytes
  rw [checkSignature_encode hsig]
  simp only [haccept, exists_eq_right]

/-- The bundle that is validated from the mapping that was written, without its signature:
the signed one, its rules read again. -/
theorem modelValidate_written (reliable : tools.Reliable) (clock' : ℤ) {rules : List Value}
    {b64 : PyStr} {es : List (Value × Value)}
    (hread : tools.signedBundle clock path raw = .ok signed)
    (hrules : signed.rules.mapM (RuleDocument.modelDump tools.lib) = .ok rules)
    (hes : (Value.dict es).toJson = (written tools.lib signed b64 rules).toValue.toJson) :
    Value.lookupStr es (py "signature") = some (.str b64) ∧
      ∃ issuedAt rs, tools.lib.dumpDatetime issuedAt = tools.lib.dumpDatetime signed.issuedAt ∧
        List.Forall₂ (RuleDocument.Reread tools.lib) signed.rules rs ∧
        tools.lax.modelValidate (utcNow clock') (.dict (popEntries es (py "signature"))) =
          .ok { signed with issuedAt, rules := rs, signature := none } := by
  obtain ⟨t, ht⟩ : (written tools.lib signed b64 rules).toValue.IsJson :=
    isJson_written (isJson_ruleDumps reliable.signing.toDumpSpec hrules)
  rw [ht] at hes
  -- A field whose value only stands for itself in JSON is read back as it was written.
  have hfield {k : PyStr} {v : Value} (hv : v.Rigid)
      (h : Value.lookupStr ((written tools.lib signed b64 rules).entries.map fun e =>
        (.str e.1, e.2)) k = some v) :
      Value.lookupStr es k = some v := Value.lookupStr_of_rigid ht hes hv h
  obtain ⟨w, u, hlookup, hu, hw⟩ := Value.lookupStr_toJson ht hes
    (k := py "rules") (v := .list rules) rfl
  obtain ⟨ts, hts, rfl⟩ := Value.toJson_list_eq_some.mp hu
  obtain ⟨ws, rfl, hws⟩ := Value.eq_list_of_toJson hw
  obtain ⟨rs, hrs, hreread⟩ :=
    rules_reread reliable.keeps reliable.signing.toDumpSpec (mapM_eq_ok.mp hrules) hts hws
  obtain ⟨data, -, hvalidate⟩ := bind_eq_ok.mp hread
  obtain ⟨issuedAt, hissued, hdump⟩ := reliable.datetime signed.issuedAt
    ((LaxValidators.issuedAt_of_modelValidate hvalidate).imp_right fun h => ⟨clock, h⟩)
  have hpop {k : PyStr} {v : Value} (hk : k ≠ py "signature")
      (h : Value.lookupStr es k = some v) :
      Value.lookupStr (popEntries es (py "signature")) k = some v := by
    rw [lookupStr_popEntries, if_neg hk, h]
  refine ⟨hfield (Value.rigid_str _) rfl, issuedAt, rs, hdump, hreread, ?_⟩
  exact reliable.keeps.modelValidate { signed with rules := rs, signature := none }
    (hpop (by decide) (hfield (Value.rigid_str _) rfl))
    (hpop (by decide) (hfield (Value.rigid_str _) rfl)) hissued
    (hpop (by decide) (hfield (Value.rigid_str _) rfl))
    (hpop (by decide) (hfield (Value.rigid_str _) rfl))
    (hpop (by decide) hlookup) hrs
    (by rw [LaxValidators.defaulted, lookupStr_popEntries, if_pos rfl])
    (hpop (by decide) (hfield (Value.rigid_dumpOption _) rfl))

/-- The signed bundle, read again, has the payload that was signed exactly when it was
signed without a signature in it. -/
theorem payload_reread_iff (spec : DumpSpec tools.lib tools.rt) {bytes : PyBytes}
    {issuedAt : PyDatetime} {rs : List RuleDocument} (hbytes : tools.payload signed = .ok bytes)
    (hissued : tools.lib.dumpDatetime issuedAt = tools.lib.dumpDatetime signed.issuedAt)
    (hrs : List.Forall₂ (RuleDocument.Reread tools.lib) signed.rules rs) :
    tools.payload { signed with issuedAt, rules := rs, signature := none } = .ok bytes ↔
      signed.signature = none := by
  obtain ⟨dump, hdump, -⟩ := bind_eq_ok.mp hbytes
  obtain ⟨rules, hrules, rfl⟩ := modelDump_eq_ok.mp hdump
  obtain ⟨rules', hrules', hsame⟩ := modelDumps_reread spec hrs hrules
  have hlist := isJson_ruleDumps spec hrules
  have hlist' := isJson_ruleDumps spec hrules'
  have hiff := bundleDump_eq_iff tools.lib signed
    { signed with issuedAt, rules := rs, signature := none } hlist hlist'
  rw [payload_eq_iff spec hbytes]
  constructor
  · intro h
    obtain ⟨d, e, hd, he, hequal⟩ := h
    obtain rfl := Except.ok.inj (hdump.symm.trans hd)
    obtain rfl := Except.ok.inj ((modelDump_eq_ok.mpr ⟨_, hrules', rfl⟩).symm.trans he)
    exact (hiff.mp hequal).2.2.2.2.2.1
  · intro hnone
    have hequal : (Value.list rules).toJson = (Value.list rules').toJson := by
      rw [Value.toJson, Value.toJson, Value.toJsonList_congr hsame.symm]
    refine ⟨_, _, hdump, modelDump_eq_ok.mpr ⟨_, hrules', rfl⟩, hiff.mpr ?_⟩
    exact ⟨rfl, hissued.symm, rfl, rfl, hequal, hnone, rfl⟩

/-- **Loading what was written** under a YAML name returns the signed bundle, its rules read
again, if it was signed without a signature in it, and raises otherwise. -/
theorem load_written (reliable : tools.Reliable) (clock' : ℤ)
    (hread : tools.signedBundle clock path raw = .ok signed)
    (hsign : tools.policySign clock path raw key = .ok text) (hyaml : isYamlPath out = true) :
    ∃ issuedAt rs, List.Forall₂ (RuleDocument.Reread tools.lib) signed.rules rs ∧
      ∀ bundle, tools.loadBundleFromPath clock' out text (some (tools.lib.publicKey key)) =
          .ok bundle ↔
        signed.signature = none ∧
          bundle = { signed with issuedAt, rules := rs, signature := none } := by
  obtain ⟨bytes, rules, hbytes, hrules, hdump⟩ := policySign_eq_ok hsign hread
  have hjson : (written tools.lib signed (Base64.encode (Crypto.sign tools.lib key bytes))
      rules).toValue.IsJson := isJson_written (isJson_ruleDumps reliable.signing.toDumpSpec hrules)
  obtain ⟨w, hw, hequal⟩ := reliable.yaml _ _ hjson hdump
  obtain ⟨es, rfl⟩ := Value.eq_dict_of_toJson_eq hjson hequal
  obtain ⟨hsignature, issuedAt, rs, hissued, hrs, hvalidate⟩ :=
    modelValidate_written reliable clock' hread hrules hequal
  refine ⟨issuedAt, rs, hrs, fun bundle => ?_⟩
  rw [← payload_reread_iff reliable.signing.toDumpSpec hbytes hissued hrs,
    ← checkSignature_iff reliable key]
  rw [loadBundleFromPath_eq_ok, FileFormats.load, if_pos hyaml, hw]
  constructor
  · intro h
    obtain ⟨fs, hfs, hbundle, hcheck⟩ := h
    obtain rfl := Value.dict.inj (Except.ok.inj hfs)
    obtain rfl := Except.ok.inj (hvalidate.symm.trans hbundle)
    rw [hsignature] at hcheck
    exact ⟨hcheck, rfl⟩
  · intro h
    obtain ⟨hcheck, rfl⟩ := h
    refine ⟨es, rfl, hvalidate, ?_⟩
    rw [hsignature]
    exact hcheck

/-- `load_bundle_from_path` succeeds on the text and returns the rules, the version and the
scope of the signed bundle. -/
def RoundTrips (tools : PolicyTools SK PK) (clock : ℤ) (out text : PyStr) (publicKey : PK)
    (signed : BundleDocument) : Prop :=
  ∃ loaded, tools.loadBundleFromPath clock out text (some publicKey) = .ok loaded ∧
    List.Forall₂ RuleDocument.Same signed.rules loaded.rules ∧
    signed.version = loaded.version ∧ signed.tenantId = loaded.tenantId

/-- Under a name that is not read as YAML the text is not read at all. -/
theorem not_load_of_json (reliable : tools.Reliable)
    (hread : tools.signedBundle clock path raw = .ok signed)
    (hsign : tools.policySign clock path raw key = .ok text) (hjson : isYamlPath out = false)
    (publicKey : PK) (bundle : BundleDocument) :
    tools.loadBundleFromPath clock' out text (some publicKey) ≠ .ok bundle := by
  obtain ⟨bytes, rules, -, -, hdump⟩ := policySign_eq_ok hsign hread
  obtain ⟨e, hraised⟩ := reliable.json_refuses _ _ _ hdump
  intro h
  obtain ⟨es, hes, -⟩ := (loadBundleFromPath_eq_ok tools).mp h
  rw [FileFormats.load, hjson, if_neg (by decide), hraised] at hes
  cases hes

/-- **Sign and load** gives back the rules, the version and the scope that were signed exactly
when the file is written under a YAML name, the bundle had no signature before, and its
matches are plain JSON. -/
theorem roundTrips_iff (reliable : tools.Reliable) (clock' : ℤ)
    (hread : tools.signedBundle clock path raw = .ok signed)
    (hsign : tools.policySign clock path raw key = .ok text)
    (hdistinct : ∀ rule ∈ signed.rules, rule.matchOn.toValue.KeysDistinct) :
    tools.RoundTrips clock' out text (tools.lib.publicKey key) signed ↔
      isYamlPath out = true ∧ signed.signature = none ∧
        ∀ rule ∈ signed.rules, rule.matchOn.toValue.IsJson := by
  cases hyaml : isYamlPath out with
  | false =>
      refine iff_of_false ?_ (by simp)
      rintro ⟨loaded, hload, -⟩
      exact not_load_of_json reliable hread hsign hyaml _ _ hload
  | true =>
      obtain ⟨issuedAt, rs, hrs, hload⟩ := load_written reliable clock' hread hsign hyaml
      rw [← same_reread_iff reliable.signing.toDumpSpec hrs hdistinct]
      constructor
      · intro h
        obtain ⟨loaded, hloaded, hrules, -⟩ := h
        obtain ⟨hnone, rfl⟩ := (hload loaded).mp hloaded
        exact ⟨rfl, hnone, hrules⟩
      · intro h
        obtain ⟨-, hnone, hrules⟩ := h
        exact ⟨_, (hload _).mpr ⟨hnone, rfl⟩, hrules, rfl, rfl⟩

end RoundTrip

/-! ### One bundle -/

/-- The signing library, with a byte in front of every signature. -/
def markedSigning : SigningLibrary PyBytes PyBytes := { ratioSigning with
  privateSign := fun _ payload => 0 :: payload
  publicVerify := fun _ signature payload =>
    if signature = 0 :: payload then .ok ()
    else .error ⟨.other (py "InvalidSignature"), py ""⟩ }

def markedSigningSpec : SigningSpec markedSigning ratioRuntime := { ratioSigningSpec with
  ideal := by
    intro key payload payload'
    simp only [markedSigning, List.cons.injEq, true_and]
    split
    · next h => exact iff_of_true rfl h.symm
    · next h => exact iff_of_false (by simp) (Ne.symm h) }

/-- A model library that takes values of the type itself only, and one text as a time. -/
def exactTypes : LaxValidators where
  str
    | .str s => .ok s
    | _ => .error ⟨.validationError, py "Input should be a valid string"⟩
  int
    | .int n => .ok n
    | _ => .error ⟨.validationError, py "Input should be a valid integer"⟩
  bool
    | .bool b => .ok b
    | _ => .error ⟨.validationError, py "Input should be a valid boolean"⟩
  datetime
    | .str s =>
      if s = py "1970-01-01T00:00:00Z" then .ok (utcNow 0)
      else .error ⟨.validationError, py "Input should be a valid datetime"⟩
    | _ => .error ⟨.validationError, py "Input should be a valid datetime"⟩
  list
    | .list xs => .ok xs
    | _ => .error ⟨.validationError, py "Input should be a valid list"⟩
  effect
    | .str s =>
      if s = py "allow" then .ok .allow
      else if s = py "deny" then .ok .deny
      else if s = py "escalate" then .ok .escalate
      else if s = py "throttle" then .ok .throttle
      else .error ⟨.validationError,
        py "Input should be 'allow', 'deny', 'escalate' or 'throttle'"⟩
    | _ => .error ⟨.validationError,
        py "Input should be 'allow', 'deny', 'escalate' or 'throttle'"⟩

theorem exactTypes_keeps : exactTypes.Keeps where
  str _ := rfl
  int _ := rfl
  bool _ := rfl
  list _ := rfl
  effect effect := by cases effect <;> rfl

def shellMatch : PyDict Value := PyDict.empty.set (py "action.tool") (.str (py "shell"))

/-- A bundle that keeps agents off the shell. -/
def shellBundle : BundleDocument where
  version := py "1"
  issuedAt := utcNow 0
  rules := [{ id := py "no-shell", effect := .deny, matchOn := shellMatch }]

theorem shellMatch_keysDistinct : shellMatch.toValue.KeysDistinct :=
  ⟨List.pairwise_singleton _ _, trivial, trivial⟩

theorem shellMatch_isJson : shellMatch.toValue.IsJson := ⟨_, rfl⟩

/-- The mapping it is read from, and the text of that mapping. -/
def shellData : Value :=
  .dict [(.str (py "version"), .str (py "1")),
    (.str (py "rules"), .list [.dict [(.str (py "id"), .str (py "no-shell")),
      (.str (py "effect"), .str (py "deny")),
      (.str (py "match"), .dict [(.str (py "action.tool"), .str (py "shell"))])]])]

def shellText : PyStr :=
  py "\x7b\"version\": \"1\", \"rules\": [\x7b\"id\": \"no-shell\", \"effect\": \"deny\", " ++
    py "\"match\": \x7b\"action.tool\": \"shell\"\x7d\x7d]\x7d"

/-- Its canonical bytes and the mapping that is written. -/
def shellBytes : PyBytes :=
  ((shellBundle.modelDump markedSigning).bind fun dump =>
    canonicalBytes markedSigning.toHashLibrary ratioRuntime dump.toValue).toOption.getD []

def shellRules : List Value :=
  shellBundle.rules.map fun rule => .dict (rule.dumpFields rule.matchOn.toValue)

theorem shellRules_eq :
    shellBundle.rules.mapM (RuleDocument.modelDump markedSigning) = .ok shellRules := rfl

def shellWritten : Value :=
  (written markedSigning shellBundle (Base64.encode (0 :: shellBytes)) shellRules).toValue

/-- The text it is written as. -/
def shellYaml : PyStr :=
  py "bundle_id: ''\nissued_at: '1970-01-01T00:00:00Z'\nissuer: ''\nrules:\n" ++
    py "- description: ''\n  effect: deny\n  enabled: true\n  id: no-shell\n  match:\n" ++
    py "    action.tool: shell\n  owasp_ids: []\n  priority: 100\n  rationale: null\n" ++
    py "  tags: []\nsignature: " ++ Base64.encode (0 :: shellBytes) ++
    py "\ntenant_id: null\nversion: '1'\n"

/-- File formats that know one text each. -/
def twoFiles (yaml : PyStr) (doc : Value) (json : PyStr) (data : Value) : FileFormats where
  yamlLoad text :=
    if text = yaml then .ok doc
    else .error ⟨.other (py "YAMLError"), py "could not find expected ':'"⟩
  yamlDump v :=
    if canonicalBytes ratioLibrary ratioRuntime v = canonicalBytes ratioLibrary ratioRuntime doc
    then .ok yaml
    else .error ⟨.other (py "RepresenterError"), py "cannot represent an object"⟩
  jsonLoads text :=
    if text = json then .ok data
    else .error ⟨.valueError, py "Expecting value: line 1 column 1 (char 0)"⟩

section TwoFiles

variable {yaml json : PyStr} {doc data : Value}

theorem twoFiles_yamlLoad : (twoFiles yaml doc json data).yamlLoad yaml = .ok doc := if_pos rfl

theorem twoFiles_yamlDump : (twoFiles yaml doc json data).yamlDump doc = .ok yaml := if_pos rfl

theorem twoFiles_dumped {v : Value} {text : PyStr}
    (h : (twoFiles yaml doc json data).yamlDump v = .ok text) :
    text = yaml ∧
      canonicalBytes ratioLibrary ratioRuntime v =
        canonicalBytes ratioLibrary ratioRuntime doc := by
  simp only [twoFiles] at h
  split at h
  · next hbytes => exact ⟨(Except.ok.inj h).symm, hbytes⟩
  · cases h

theorem twoFiles_refuses (h : yaml ≠ json) :
    Raised ((twoFiles yaml doc json data).jsonLoads yaml) := ⟨_, if_neg h⟩

/-- Values that are written as the same text have the same JSON. -/
theorem twoFiles_sound {v : Value} {text : PyStr} (hdoc : doc.IsJson)
    (hok : (canonicalBytes ratioLibrary ratioRuntime doc).isOk = true) (hv : v.IsJson)
    (h : (twoFiles yaml doc json data).yamlDump v = .ok text) :
    ∃ w, (twoFiles yaml doc json data).yamlLoad text = .ok w ∧ w.toJson = v.toJson := by
  obtain ⟨rfl, hbytes⟩ := twoFiles_dumped h
  obtain ⟨bytes, hwritten⟩ := exists_of_isOk hok
  obtain ⟨s, hs⟩ := hv
  obtain ⟨t, ht⟩ := hdoc
  refine ⟨doc, twoFiles_yamlLoad, ?_⟩
  rw [hs, ht, toJson_eq_of_canonicalBytes ratioPrints ratioRuntime_repr ht hs hwritten
    (hbytes.trans hwritten)]

end TwoFiles

def shellTools : PolicyTools PyBytes PyBytes where
  lib := markedSigning
  rt := ratioRuntime
  files := twoFiles shellYaml shellWritten shellText shellData
  lax := exactTypes

theorem shellWritten_isOk :
    (canonicalBytes ratioLibrary ratioRuntime shellWritten).isOk = true := by decide +kernel

theorem shellYaml_ne : shellYaml ≠ shellText := by
  intro h
  have hhead : some (0x62 : CodePoint) = some 0x7B := congrArg List.head? h
  cases hhead

def shellReliable : shellTools.Reliable where
  signing := markedSigningSpec
  signature_ne_nil _ _ := List.cons_ne_nil _ _
  keeps := exactTypes_keeps
  datetime _ _ := ⟨utcNow 0, rfl, rfl⟩
  yaml _ _ hv hdump := twoFiles_sound (isJson_written (isJson_ruleDumps markedSigningSpec.toDumpSpec
    shellRules_eq)) shellWritten_isOk hv hdump
  json_refuses e es text hdump := by
    obtain ⟨rfl, -⟩ := twoFiles_dumped hdump
    exact twoFiles_refuses shellYaml_ne

theorem signedBundle_shell :
    shellTools.signedBundle 0 (py "shell.json") shellText = .ok shellBundle := rfl

theorem payload_shell : shellTools.payload shellBundle = .ok shellBytes := by
  obtain ⟨bytes, hbytes⟩ := exists_of_isOk
    (by decide +kernel : (shellTools.payload shellBundle).isOk = true)
  have hsame : shellBytes = (shellTools.payload shellBundle).toOption.getD [] := rfl
  rw [hsame, hbytes]
  rfl

theorem policySign_shell (key : PyBytes) :
    shellTools.policySign 0 (py "shell.json") shellText key = .ok shellYaml := by
  rw [policySign_eq signedBundle_shell payload_shell shellRules_eq key]
  exact twoFiles_yamlDump

/-- The bundle is loaded from a YAML file. -/
theorem roundTrips_shell :
    shellTools.RoundTrips 0 (py "signed.yaml") shellYaml [] shellBundle := by
  refine (roundTrips_iff shellReliable 0 signedBundle_shell (policySign_shell []) ?_).mpr ?_
  · intro rule hrule
    obtain rfl := List.mem_singleton.mp hrule
    exact shellMatch_keysDistinct
  · refine ⟨by decide, rfl, fun rule hrule => ?_⟩
    obtain rfl := List.mem_singleton.mp hrule
    exact shellMatch_isJson

/-- It is not loaded from a JSON file. -/
theorem json_not_loaded : ¬ ∀ (tools : PolicyTools PyBytes PyBytes), tools.Reliable →
    ∀ (clock clock' : ℤ) (path raw out text : PyStr) (key : PyBytes) (signed : BundleDocument),
    tools.signedBundle clock path raw = .ok signed →
    tools.policySign clock path raw key = .ok text →
    tools.RoundTrips clock' out text (tools.lib.publicKey key) signed := by
  intro h
  obtain ⟨loaded, hload, -⟩ := h shellTools shellReliable 0 0 (py "shell.json") shellText
    (py "signed.json") shellYaml [] shellBundle signedBundle_shell (policySign_shell [])
  have hjson : isYamlPath (py "signed.json") = false := by decide
  exact not_load_of_json shellReliable signedBundle_shell (policySign_shell []) hjson _ _ hload

end PolicyTools

end AgentSentinel
