import AgentSentinel.Core.PayloadDigest
import AgentSentinel.Python.Base64
import AgentSentinel.Utils.Differences

/-!
# AgentSentinel.Identity.Signing

Ed25519 signatures of actions. Signer and verifier both take the canonical bytes of the
whole action, digest and time of creation included, in the form the model library dumps
it to JSON in. Under an ideal signature scheme an action verifies under the signature of
another exactly when the two have one dump.

Two laws fail there. What JSON does not tell apart the signature does not protect, and
what JSON tells apart breaks it though it be equal; and an action signed without a digest gets
one at ingress, which its signature does not cover.
-/

namespace AgentSentinel

/-- What signing takes from libraries besides hashing: the dump of a time, and Ed25519
keys. -/
structure SigningLibrary (SK PK : Type) extends HashLibrary where
  dumpDatetime : PyDatetime → PyStr
  publicKey : SK → PK
  publicBytes : PK → PyBytes
  privateSign : SK → PyBytes → PyBytes
  publicVerify : PK → PyBytes → PyBytes → Result Unit

variable {SK PK : Type}

/-! ### Cryptographic primitives -/

/-- `crypto.sign`. -/
def Crypto.sign (lib : SigningLibrary SK PK) (privateKey : SK) (payload : PyBytes) : PyBytes :=
  lib.privateSign privateKey payload

/-- `crypto.verify`. -/
def Crypto.verify (lib : SigningLibrary SK PK) (publicKey : PK) (signature payload : PyBytes) :
    Bool :=
  match lib.publicVerify publicKey signature payload with
  | .ok _ => true
  | .error _ => false

theorem Crypto.verify_eq_true {lib : SigningLibrary SK PK} {publicKey : PK}
    {signature payload : PyBytes} : Crypto.verify lib publicKey signature payload = true ↔
      lib.publicVerify publicKey signature payload = .ok () := by
  unfold Crypto.verify
  split
  · next hok => simp [hok]
  · next herror => simp [herror]

/-! ### Signed actions -/

/-- The fields of an action as they are dumped, given the dump of its arguments. -/
def Action.dumpFields (lib : SigningLibrary SK PK) (action : Action) (arguments : Value) :
    List (Value × Value) :=
  [(.str (py "id"), .str (uuidText action.id)),
    (.str (py "type"), .str action.type.value),
    (.str (py "agent_did"), .str action.agentDid),
    (.str (py "tenant_id"), .str action.tenantId),
    (.str (py "tool"), dumpOption .str action.tool),
    (.str (py "arguments"), arguments),
    (.str (py "payload_digest"), dumpOption .str action.payloadDigest),
    (.str (py "intent"), dumpOption .str action.intent),
    (.str (py "context"), action.context.dump),
    (.str (py "created_at"), .str (lib.dumpDatetime action.createdAt))]

/-- `model_dump(mode="json", by_alias=True)`. -/
def Action.modelDump (lib : SigningLibrary SK PK) (action : Action) : Result Value := do
  let arguments ← lib.dumpArguments action.arguments
  return .dict (action.dumpFields lib arguments)

/-- The canonical bytes that are signed. -/
def Action.payload (lib : SigningLibrary SK PK) (rt : PyRuntime) (action : Action) :
    Result PyBytes := do
  canonicalBytes lib.toHashLibrary rt (← action.modelDump lib)

/-- An action with its signature and key identifier. -/
structure SignedAction where
  action : Action
  signatureB64 : PyStr
  keyId : PyStr

/-- `signed.args = value`. -/
def SignedAction.setArgs (signed : SignedAction) (value : PyDict Value) : SignedAction :=
  { signed with action := { signed.action with arguments := value } }

/-- A key identifier from the public key. -/
def fingerprint (lib : SigningLibrary SK PK) (publicKey : PK) : PyStr :=
  py "k_" ++ (lib.sha256Hex (lib.publicBytes publicKey)).take 16

/-- Signs action payloads with a private key. -/
structure ActionSigner (SK : Type) where
  key : SK
  keyId : Option PyStr := none

/-- `signer.key_id`; an empty identifier counts as none. -/
def ActionSigner.keyIdText (lib : SigningLibrary SK PK) (signer : ActionSigner SK) : PyStr :=
  match signer.keyId with
  | some (c :: s) => c :: s
  | _ => fingerprint lib (lib.publicKey signer.key)

/-- `signer.sign(action)`. -/
def ActionSigner.sign (lib : SigningLibrary SK PK) (rt : PyRuntime) (signer : ActionSigner SK)
    (action : Action) : Result SignedAction := do
  let payload ← action.payload lib rt
  let sig := Crypto.sign lib signer.key payload
  return { action, signatureB64 := Base64.encode sig, keyId := signer.keyIdText lib }

/-- `ActionVerifier().verify(signed, public_key)`. -/
def ActionVerifier.verify (lib : SigningLibrary SK PK) (rt : PyRuntime) (signed : SignedAction)
    (publicKey : PK) : Result Bool :=
  match Base64.decode signed.signatureB64 with
  | .error e =>
    if e.kind = .valueError ∨ e.kind = .typeError then .ok false else .error e
  | .ok sig => do
    let payload ← signed.action.payload lib rt
    return Crypto.verify lib publicKey sig payload

/-! ### What a signature covers -/

/-- The encoders on JSON values and the JSON mode of the model library, as they are relied
on. -/
structure DumpSpec (lib : SigningLibrary SK PK) (rt : PyRuntime) extends
    EncoderSpec lib.toHashLibrary rt where
  mode : JsonMode
  dumpArguments : ∀ args, lib.dumpArguments args = mode.dump args.toValue

/-- The libraries as they are relied on: the two encoders on JSON values, the JSON mode of
the model library, and a signature scheme that accepts exactly the payload that was signed
with the matching key. -/
structure SigningSpec (lib : SigningLibrary SK PK) (rt : PyRuntime) extends DumpSpec lib rt where
  ideal : ∀ key payload payload',
    lib.publicVerify (lib.publicKey key) (lib.privateSign key payload) payload' = .ok () ↔
      payload' = payload

variable {lib : SigningLibrary SK PK} {rt : PyRuntime} {signer : ActionSigner SK}
  {signed : SignedAction} {action other : Action}

theorem DumpSpec.isJson_dump (spec : DumpSpec lib rt) {args : PyDict Value} {v : Value}
    (h : lib.dumpArguments args = .ok v) : v.IsJson := by
  rw [spec.dumpArguments] at h
  exact JsonMode.isJson_dump h

/-- The names of the fields of a dump. -/
def modelFields : List PyStr :=
  [py "id", py "type", py "agent_did", py "tenant_id", py "tool", py "arguments",
    py "payload_digest", py "intent", py "context", py "created_at"]

theorem modelFields_nodup : modelFields.Nodup := by decide

theorem isJson_dumpFields {arguments : Value} (h : arguments.IsJson) :
    ∀ e ∈ action.dumpFields lib arguments, e.2.IsJson := by
  have hstr := isJson_dumpOption isJson_str
  simp only [Action.dumpFields, List.forall_mem_cons, isJson_str, hstr, h, isJson_context,
    List.not_mem_nil, false_imp_iff, implies_true, and_self]

theorem isJson_modelDump {v : Value} (spec : SigningSpec lib rt)
    (h : action.modelDump lib = .ok v) : v.IsJson := by
  obtain ⟨arguments, hdump, heq⟩ := bind_eq_ok.mp h
  obtain rfl := Except.ok.inj heq
  exact isJson_dict modelFields rfl modelFields_nodup (isJson_dumpFields (spec.isJson_dump hdump))

/-- Two dumps are one JSON value when their fields are. -/
theorem toJson_dumpFields_inj {arguments arguments' : Value} (h : arguments.IsJson)
    (h' : arguments'.IsJson) :
    (Value.dict (action.dumpFields lib arguments)).toJson =
        (Value.dict (other.dumpFields lib arguments')).toJson ↔
      ((action.dumpFields lib arguments).map fun e => e.2.toJson) =
        (other.dumpFields lib arguments').map fun e => e.2.toJson :=
  toJson_dict_inj modelFields rfl rfl modelFields_nodup (isJson_dumpFields h) (isJson_dumpFields h')

/-- Two actions have one payload when their dumps are one JSON value. -/
theorem payload_eq_iff (spec : SigningSpec lib rt) {payload : PyBytes}
    (h : action.payload lib rt = .ok payload) :
    other.payload lib rt = .ok payload ↔
      ∃ v w, action.modelDump lib = .ok v ∧ other.modelDump lib = .ok w ∧
        v.toJson = w.toJson :=
  bytes_of_dump_iff spec.orjson spec.repr id (fun _ => isJson_modelDump spec)
    (fun _ => isJson_modelDump spec) h

/-- Two actions have one dump when the fields of their dumps are the same. -/
theorem modelDumps_eq_iff (spec : SigningSpec lib rt) :
    (∃ v w, action.modelDump lib = .ok v ∧ other.modelDump lib = .ok w ∧ v.toJson = w.toJson) ↔
      ∃ x y, lib.dumpArguments action.arguments = .ok x ∧
        lib.dumpArguments other.arguments = .ok y ∧
        ((action.dumpFields lib x).map fun e => e.2.toJson) =
          (other.dumpFields lib y).map fun e => e.2.toJson := by
  constructor
  · intro hsame
    obtain ⟨v, w, hv, hw, hequal⟩ := hsame
    obtain ⟨x, hx, hv⟩ := bind_eq_ok.mp hv
    obtain ⟨y, hy, hw⟩ := bind_eq_ok.mp hw
    obtain rfl := Except.ok.inj hv
    obtain rfl := Except.ok.inj hw
    exact ⟨x, y, hx, hy,
      (toJson_dumpFields_inj (spec.isJson_dump hx) (spec.isJson_dump hy)).mp hequal⟩
  · intro hsame
    obtain ⟨x, y, hx, hy, hfields⟩ := hsame
    exact ⟨_, _, bind_eq_ok.mpr ⟨x, hx, rfl⟩, bind_eq_ok.mpr ⟨y, hy, rfl⟩,
      (toJson_dumpFields_inj (spec.isJson_dump hx) (spec.isJson_dump hy)).mpr hfields⟩

/-- Under the signature of one action another verifies exactly when the two have one
dump. -/
theorem verify_signed_iff (spec : SigningSpec lib rt) (h : signer.sign lib rt action = .ok signed)
    (other : Action) :
    ActionVerifier.verify lib rt { signed with action := other } (lib.publicKey signer.key) =
        .ok true ↔
      ∃ v w, action.modelDump lib = .ok v ∧ other.modelDump lib = .ok w ∧
        v.toJson = w.toJson := by
  obtain ⟨payload, hpayload, heq⟩ := bind_eq_ok.mp h
  obtain rfl := Except.ok.inj heq
  rw [← payload_eq_iff spec hpayload]
  simp only [ActionVerifier.verify, Base64.decode_encode, bind_eq_ok]
  have haccept : ∀ payload', Crypto.verify lib (lib.publicKey signer.key)
      (Crypto.sign lib signer.key payload) payload' = true ↔ payload' = payload :=
    fun payload' => Crypto.verify_eq_true.trans (spec.ideal signer.key payload payload')
  constructor
  · intro hverify
    obtain ⟨payload', hother, htrue⟩ := hverify
    rw [hother, (haccept payload').mp (Except.ok.inj htrue)]
  · intro hother
    exact ⟨payload, hother, congrArg Except.ok ((haccept payload).mpr rfl)⟩

/-- A model library that knows strings as keys and the start of time, with a signature that
is the payload itself. -/
def ratioMode : JsonMode where
  key
    | .str s => .ok s
    | _ => .error ⟨.typeError, py "not valid as object key"⟩
  key_str _ := rfl
  bytes bs := .ok (bs.map fun b => Fin.ofNat 0x110000 b.val)
  date _ := py "1970-01-01"
  datetime _ := py "1970-01-01T00:00:00Z"
  object _ := .error ⟨.other (py "PydanticSerializationError"), py "Unable to serialize"⟩
  object_isJson h := by cases h

def ratioSigning : SigningLibrary PyBytes PyBytes where
  toHashLibrary :=
    { ratioLibrary with dumpArguments := fun arguments => ratioMode.dump arguments.toValue }
  dumpDatetime := ratioMode.datetime
  publicKey key := key
  publicBytes key := key
  privateSign _ payload := payload
  publicVerify _ signature payload :=
    if signature = payload then .ok ()
    else .error ⟨.other (py "InvalidSignature"), py ""⟩

def ratioSigningSpec : SigningSpec ratioSigning ratioRuntime where
  orjson := { ratioPrints with }
  floats := ratioFloats
  repr := ratioRuntime_repr
  mode := ratioMode
  dumpArguments _ := rfl
  ideal _ payload payload' := by
    simp only [ratioSigning]
    split
    · next h => exact iff_of_true rfl h.symm
    · next h => exact iff_of_false (by simp) (Ne.symm h)

/-! ### Tampering with the arguments -/

/-- Other arguments keep the signature valid exactly when they have the same dump. -/
theorem verify_setArgs_iff (spec : SigningSpec lib rt)
    (h : signer.sign lib rt action = .ok signed) (v : PyDict Value) :
    ActionVerifier.verify lib rt (signed.setArgs v) (lib.publicKey signer.key) = .ok true ↔
      spec.mode.Alike action.arguments.toValue v.toValue := by
  have haction : signed.action = action := by
    obtain ⟨payload, -, heq⟩ := bind_eq_ok.mp h
    obtain rfl := Except.ok.inj heq
    rfl
  rw [SignedAction.setArgs, haction, verify_signed_iff spec h, modelDumps_eq_iff spec]
  simp only [spec.dumpArguments]
  constructor
  · intro hsame
    obtain ⟨x, y, hx, hy, hfields⟩ := hsame
    simp only [Action.dumpFields, List.map_cons, List.cons.injEq] at hfields
    exact ⟨x, y, hx, hy, hfields.2.2.2.2.2.1⟩
  · intro hsame
    obtain ⟨x, y, hx, hy, hequal⟩ := hsame
    refine ⟨x, y, hx, hy, ?_⟩
    simp only [Action.dumpFields, List.map_cons, hequal]

/-- **Signed actions are tamper-evident**, a signature being valid for the arguments that
equal the signed ones and for no others, exactly for arguments that part from the signed ones
at a place where both see it, and for those that part where only equality sees it just when
they part where only the JSON form does. -/
theorem tamperEvident_iff (spec : SigningSpec lib rt)
    (h : signer.sign lib rt action = .ok signed) (v : PyDict Value) :
    (ActionVerifier.verify lib rt (signed.setArgs v) (lib.publicKey signer.key) = .ok true ↔
        v.toValue.pyEq action.arguments.toValue = true) ↔
      Differs spec.mode .real v.toValue action.arguments.toValue ∨
        (Differs spec.mode .hidden v.toValue action.arguments.toValue ↔
          Differs spec.mode .spelled v.toValue action.arguments.toValue) := by
  have halike : spec.mode.Alike action.arguments.toValue v.toValue ↔
      spec.mode.Alike v.toValue action.arguments.toValue :=
    ⟨JsonMode.Alike.symm, JsonMode.Alike.symm⟩
  rw [verify_setArgs_iff spec h, halike, JsonMode.alike_iff_not_differs,
    ← Value.memberEq_toValue, Value.memberEq_iff_not_differs spec.mode]
  tauto

def ratioSigner : ActionSigner PyBytes := { key := [] }

theorem sign_payment : ∃ signed : SignedAction,
    ratioSigner.sign ratioSigning ratioRuntime Interceptor.payment = .ok signed :=
  exists_of_isOk (by decide +kernel)

/-- The arguments of the payment in another order keep its signature. -/
theorem tamperEvident_payment : ∃ signed : SignedAction,
    ratioSigner.sign ratioSigning ratioRuntime Interceptor.payment = .ok signed ∧
      (ActionVerifier.verify ratioSigning ratioRuntime
          (signed.setArgs ⟨[(py "to", .str (py "bob")), (py "amount", .int (2 ^ 64))], by decide⟩)
          (ratioSigning.publicKey ratioSigner.key) = .ok true ↔
        (PyDict.toValue ⟨[(py "to", .str (py "bob")), (py "amount", .int (2 ^ 64))],
          by decide⟩).pyEq Interceptor.payment.arguments.toValue = true) := by
  obtain ⟨signed, hsigned⟩ := sign_payment
  refine ⟨signed, hsigned, (tamperEvident_iff ratioSigningSpec hsigned _).mpr (Or.inr ?_)⟩
  have hequal := (Value.memberEq_iff_not_differs ratioMode
    (PyDict.toValue ⟨[(py "to", .str (py "bob")), (py "amount", .int (2 ^ 64))], by decide⟩)
    Interceptor.payment.arguments.toValue).mp (by decide +kernel)
  have halike := (JsonMode.alike_iff_not_differs ratioMode
    (PyDict.toValue ⟨[(py "to", .str (py "bob")), (py "amount", .int (2 ^ 64))], by decide⟩)
    Interceptor.payment.arguments.toValue).mp ⟨_, _, rfl, rfl, rfl⟩
  exact iff_of_false hequal.1 halike.1

/-- A signed tuple may be replaced by a list. -/
theorem tuple_tampering_passes : ¬ ∀ (lib : SigningLibrary PyBytes PyBytes) (rt : PyRuntime),
    SigningSpec lib rt → ∀ (signer : ActionSigner PyBytes) (action : Action)
    (signed : SignedAction), signer.sign lib rt action = .ok signed → ∀ v : PyDict Value,
    (ActionVerifier.verify lib rt (signed.setArgs v) (lib.publicKey signer.key) = .ok true ↔
      v.toValue.pyEq action.arguments.toValue = true) := by
  intro h
  let action : Action :=
    { (default : Action) with arguments := ⟨[(py "ids", .tuple [.int 1])], by decide⟩ }
  obtain ⟨signed, hsigned⟩ := exists_of_isOk
    (by decide +kernel : (ratioSigner.sign ratioSigning ratioRuntime action).isOk = true)
  have hequal := (h ratioSigning ratioRuntime ratioSigningSpec ratioSigner action signed hsigned
    ⟨[(py "ids", .list [.int 1])], by decide⟩).mp
      ((verify_setArgs_iff ratioSigningSpec hsigned _).mpr ⟨_, _, rfl, rfl, rfl⟩)
  exact absurd hequal (by decide +kernel)

/-- Arguments built of `None`, integers, strings, lists and dictionaries with string keys
cannot be tampered with. -/
theorem verify_setArgs_of_exact (spec : SigningSpec lib rt)
    (h : signer.sign lib rt action = .ok signed) {v : PyDict Value} {s t : JsonValue}
    (hs : action.arguments.toValue.Exact s) (ht : v.toValue.Exact t) :
    ActionVerifier.verify lib rt (signed.setArgs v) (lib.publicKey signer.key) = .ok true ↔
      v.toValue.pyEq action.arguments.toValue = true := by
  rw [verify_setArgs_iff spec h, JsonMode.alike_iff_of_toJson hs.1 ht.1, ht.pyEq_iff hs, eq_comm]

/-! ### Ingress -/

/-- An action with a digest is not touched at ingress. -/
theorem verify_stamped_of_digest (spec : SigningSpec lib rt) {pipeline : PipelineDeps}
    (h : signer.sign lib rt action = .ok signed) {stamped : Action}
    (hstamp : (Interceptor.mk pipeline lib.toHashLibrary).stamp rt action = .ok stamped)
    (hdigest : action.payloadDigest ≠ none) :
    ActionVerifier.verify lib rt { signed with action := stamped } (lib.publicKey signer.key) =
      .ok true := by
  rw [verify_signed_iff spec h]
  rcases Interceptor.stamp_eq_ok hstamp with ⟨d, -, rfl⟩ | ⟨d, hnone, -, -⟩
  · obtain ⟨payload, hpayload, -⟩ := bind_eq_ok.mp h
    obtain ⟨v, hv, -⟩ := bind_eq_ok.mp hpayload
    exact ⟨v, v, hv, hv, rfl⟩
  · exact absurd hnone hdigest

/-- The digest that ingress adds was not signed. -/
theorem not_verify_stamped (spec : SigningSpec lib rt) {pipeline : PipelineDeps}
    (h : signer.sign lib rt action = .ok signed) {stamped : Action}
    (hstamp : (Interceptor.mk pipeline lib.toHashLibrary).stamp rt action = .ok stamped)
    (hnone : action.payloadDigest = none) :
    ActionVerifier.verify lib rt { signed with action := stamped } (lib.publicKey signer.key) ≠
      .ok true := by
  rw [Ne, verify_signed_iff spec h, modelDumps_eq_iff spec]
  rcases Interceptor.stamp_eq_ok hstamp with ⟨d, hsome, -⟩ | ⟨d, -, -, rfl⟩
  · rw [hnone] at hsome
    cases hsome
  · intro hsame
    obtain ⟨x, y, -, -, hfields⟩ := hsame
    simp only [Action.dumpFields, hnone, List.map_cons, List.cons.injEq] at hfields
    have hdigest := hfields.2.2.2.2.2.2.1
    cases hdigest

/-- **A signature survives ingress** exactly when the action was signed with a digest in
it: the interceptor stamps the others, and the digest is part of what is signed. -/
theorem verify_stamped_iff (spec : SigningSpec lib rt) (pipeline : PipelineDeps)
    (h : signer.sign lib rt action = .ok signed) {stamped : Action}
    (hstamp : (Interceptor.mk pipeline lib.toHashLibrary).stamp rt action = .ok stamped) :
    ActionVerifier.verify lib rt { signed with action := stamped } (lib.publicKey signer.key) =
        .ok true ↔ action.payloadDigest ≠ none := by
  constructor
  · intro hverify hnone
    exact not_verify_stamped spec h hstamp hnone hverify
  · exact verify_stamped_of_digest spec h hstamp

/-- The payment, signed with a digest in it, verifies after ingress. -/
theorem verify_stamped_payment : ∃ signed stamped,
    ratioSigner.sign ratioSigning ratioRuntime
        { Interceptor.payment with payloadDigest := some (py "0") } = .ok signed ∧
      (Interceptor.mk (quietDeps [] default) ratioSigning.toHashLibrary).stamp ratioRuntime
        { Interceptor.payment with payloadDigest := some (py "0") } = .ok stamped ∧
      ActionVerifier.verify ratioSigning ratioRuntime { signed with action := stamped }
        (ratioSigning.publicKey ratioSigner.key) = .ok true := by
  obtain ⟨signed, hsigned⟩ := exists_of_isOk (by decide +kernel :
    (ratioSigner.sign ratioSigning ratioRuntime
      { Interceptor.payment with payloadDigest := some (py "0") }).isOk = true)
  refine ⟨signed, _, hsigned, rfl, ?_⟩
  exact (verify_stamped_iff ratioSigningSpec (quietDeps [] default) hsigned rfl).mpr (by simp)

/-- The payment, signed without one, does not. -/
theorem stamped_payment_fails : ¬ ∀ (lib : SigningLibrary PyBytes PyBytes) (rt : PyRuntime),
    SigningSpec lib rt → ∀ (pipeline : PipelineDeps) (signer : ActionSigner PyBytes)
    (action stamped : Action) (signed : SignedAction), signer.sign lib rt action = .ok signed →
    (Interceptor.mk pipeline lib.toHashLibrary).stamp rt action = .ok stamped →
    ActionVerifier.verify lib rt { signed with action := stamped } (lib.publicKey signer.key) =
      .ok true := by
  intro h
  obtain ⟨signed, hsigned⟩ := sign_payment
  obtain ⟨stamped, hstamped⟩ := exists_of_isOk (by decide +kernel :
    ((Interceptor.mk (quietDeps [] default) ratioSigning.toHashLibrary).stamp ratioRuntime
      Interceptor.payment).isOk = true)
  exact not_verify_stamped ratioSigningSpec hsigned hstamped rfl (h ratioSigning ratioRuntime
    ratioSigningSpec (quietDeps [] default) ratioSigner Interceptor.payment stamped signed hsigned
    hstamped)

end AgentSentinel
