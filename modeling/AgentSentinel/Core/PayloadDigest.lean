import AgentSentinel.Core.Interceptor
import AgentSentinel.Utils.CanonicalIdentity

/-!
# AgentSentinel.Core.PayloadDigest

What the payload digest of an action says when the action reaches the pipeline. The
digest the interceptor computes is the hash of the action's canonical content, which
leaves the digest itself out, so that equal digests come from equal contents. The
interceptor computes it only for an action that comes without one: whatever digest a
caller has put in is passed on unread.
-/

namespace AgentSentinel

namespace Action

variable {lib : HashLibrary} {rt : PyRuntime} {a b : Action}

/-- The arguments are a JSON value. -/
def PlainArguments (a : Action) : Prop := a.arguments.toValue.IsJson

/-- The canonical content: the JSON value of `canonical_dict`. -/
def content (lib : HashLibrary) (a : Action) : Option JsonValue :=
  match a.canonicalDict lib with
  | .ok v => v.toJson
  | .error _ => none

/-- The digest is that of the action's own canonical content. -/
def Authentic (lib : HashLibrary) (rt : PyRuntime) (a : Action) : Prop :=
  ∃ d, a.payloadDigest = some d ∧ a.digest lib rt = .ok d

/-- The canonical dictionary is a JSON value when the dump of the arguments is one. -/
theorem isJson_canonicalDict {v arguments : Value}
    (hdump : lib.dumpArguments a.arguments = .ok arguments) (hjson : arguments.IsJson)
    (hv : a.canonicalDict lib = .ok v) : v.IsJson := by
  have hstr := isJson_dumpOption isJson_str
  simp only [canonicalDict, hdump] at hv
  obtain rfl := Except.ok.inj hv
  refine isJson_dict [py "id", py "type", py "agent_did", py "tenant_id", py "tool",
    py "arguments", py "intent", py "context"] rfl (by decide) ?_
  simp only [List.forall_mem_cons, isJson_str, hstr, hjson, isJson_context, List.not_mem_nil,
    false_imp_iff, implies_true, and_self]

/-- Equal digests of actions with plain arguments come from equal contents. -/
theorem content_eq_of_digest {floats : FloatPrinter} (orjson : OrjsonPrints lib)
    (hrepr : ∀ x : FiniteFloat, x.val.text rt = floats.print x)
    (hhash : Function.Injective lib.sha256Hex)
    (hdump : ∀ {args : PyDict Value}, args.toValue.IsJson →
      lib.dumpArguments args = .ok args.toValue)
    (ha : a.PlainArguments) (hb : b.PlainArguments) {d : PyStr} (hda : a.digest lib rt = .ok d)
    (hdb : b.digest lib rt = .ok d) :
    ∃ t, a.content lib = some t ∧ b.content lib = some t := by
  obtain ⟨v, hv, hhashv⟩ := bind_eq_ok.mp hda
  obtain ⟨w, hw, hhashw⟩ := bind_eq_ok.mp hdb
  obtain ⟨bytes, hbytes, hd⟩ := map_eq_ok.mp hhashv
  obtain ⟨bytes', hbytes', hd'⟩ := map_eq_ok.mp hhashw
  obtain rfl := hhash (hd.trans hd'.symm)
  obtain ⟨s, hs⟩ := isJson_canonicalDict (hdump ha) ha hv
  obtain ⟨t, ht⟩ := isJson_canonicalDict (hdump hb) hb hw
  obtain rfl := toJson_eq_of_canonicalBytes orjson hrepr hs ht hbytes hbytes'
  exact ⟨s, by simp [content, hv, hs], by simp [content, hw, ht]⟩

end Action

namespace Interceptor

variable {interceptor : Interceptor} {rt : PyRuntime} {action stamped : Action}

/-- Stamping changes the digest only, and only where there was none. -/
theorem stamp_eq_ok (h : interceptor.stamp rt action = .ok stamped) :
    (∃ d, action.payloadDigest = some d ∧ stamped = action) ∨
      ∃ d, action.payloadDigest = none ∧ action.digest interceptor.lib rt = .ok d ∧
        stamped = { action with payloadDigest := some d } := by
  unfold stamp at h
  split at h
  · next d hd => exact Or.inl ⟨d, hd, (Except.ok.inj h).symm⟩
  · next hnone =>
      obtain ⟨d, hd, heq⟩ := bind_eq_ok.mp h
      exact Or.inr ⟨d, hnone, hd, (Except.ok.inj heq).symm⟩

theorem arguments_stamp (h : interceptor.stamp rt action = .ok stamped) :
    stamped.arguments = action.arguments := by
  rcases stamp_eq_ok h with ⟨d, -, rfl⟩ | ⟨d, -, -, rfl⟩ <;> rfl

/-- An action reaches the pipeline with an authentic digest exactly when it did not come
with a wrong one. -/
theorem stamp_authentic_iff :
    (∀ stamped, interceptor.stamp rt action = .ok stamped →
      stamped.Authentic interceptor.lib rt) ↔
      ∀ d, action.payloadDigest = some d → action.digest interceptor.lib rt = .ok d := by
  constructor
  · intro h d hd
    have hstamp : interceptor.stamp rt action = .ok action := by simp only [stamp, hd]
    obtain ⟨d', hd', hdigest⟩ := h action hstamp
    rw [hd] at hd'
    obtain rfl := Option.some.inj hd'
    exact hdigest
  · intro h stamped hstamp
    rcases stamp_eq_ok hstamp with ⟨d, hd, rfl⟩ | ⟨d, -, hdigest, rfl⟩
    · exact ⟨d, hd, h d hd⟩
    · exact ⟨d, rfl, hdigest⟩

/-- **The digest is authentic**, and equal digests come from equal contents, for any set
of submitted actions none of which comes with a wrong digest. -/
theorem digests_authentic_iff {floats : FloatPrinter} (orjson : OrjsonPrints interceptor.lib)
    (hrepr : ∀ x : FiniteFloat, x.val.text rt = floats.print x)
    (hhash : Function.Injective interceptor.lib.sha256Hex)
    (hdump : ∀ {args : PyDict Value}, args.toValue.IsJson →
      interceptor.lib.dumpArguments args = .ok args.toValue)
    {submitted : Set Action} (hplain : ∀ a ∈ submitted, a.PlainArguments) :
    ((∀ a ∈ submitted, ∀ a', interceptor.stamp rt a = .ok a' → a'.Authentic interceptor.lib rt) ∧
      ∀ a ∈ submitted, ∀ b ∈ submitted, ∀ a' b', interceptor.stamp rt a = .ok a' →
        interceptor.stamp rt b = .ok b' → a'.payloadDigest = b'.payloadDigest →
        ∃ t, a'.content interceptor.lib = some t ∧ b'.content interceptor.lib = some t) ↔
      ∀ a ∈ submitted, ∀ d, a.payloadDigest = some d → a.digest interceptor.lib rt = .ok d := by
  constructor
  · intro h a ha
    exact stamp_authentic_iff.mp (h.1 a ha)
  · intro h
    have hauthentic : ∀ a ∈ submitted, ∀ a', interceptor.stamp rt a = .ok a' →
        a'.Authentic interceptor.lib rt := fun a ha => stamp_authentic_iff.mpr (h a ha)
    refine ⟨hauthentic, fun a ha b hb a' b' ha' hb' hequal => ?_⟩
    obtain ⟨d, hd, hdigest⟩ := hauthentic a ha a' ha'
    obtain ⟨d', hd', hdigest'⟩ := hauthentic b hb b' hb'
    rw [hd, hd'] at hequal
    obtain rfl := Option.some.inj hequal
    have hplain' : ∀ {c c'}, c ∈ submitted → interceptor.stamp rt c = .ok c' →
        c'.PlainArguments := by
      intro c c' hc hstamp
      rw [Action.PlainArguments, arguments_stamp hstamp]
      exact hplain c hc
    exact Action.content_eq_of_digest orjson hrepr hhash hdump (hplain' ha ha') (hplain' hb hb')
      hdigest hdigest'

/-- An interceptor with the libraries of the examples. -/
def ratioInterceptor : Interceptor := ⟨quietDeps [] default, ratioLibrary⟩

/-- A payment in an integer too long for the fast encoder. -/
def payment : Action :=
  { (default : Action) with
    type := .payment
    arguments := ⟨[(py "amount", .int (2 ^ 64)), (py "to", .str (py "bob"))], by decide⟩ }

/-- It is made again a minute later, with its arguments the other way round. -/
def retried : Action :=
  { payment with
    arguments := ⟨[(py "to", .str (py "bob")), (py "amount", .int (2 ^ 64))], by decide⟩
    createdAt := .aware 60000000 0 }

theorem payment_plain : payment.PlainArguments := ⟨_, rfl⟩

/-- The two payments reach the pipeline with one digest, and have one content. -/
theorem digests_authentic_payment : ∃ a' b', ratioInterceptor.stamp ratioRuntime payment = .ok a' ∧
    ratioInterceptor.stamp ratioRuntime retried = .ok b' ∧ a'.payloadDigest = b'.payloadDigest ∧
    a'.Authentic ratioLibrary ratioRuntime ∧
    ∃ t, a'.content ratioLibrary = some t ∧ b'.content ratioLibrary = some t := by
  have hplain : ∀ a ∈ ({payment, retried} : Set Action), a.PlainArguments := by
    rintro a (rfl | rfl)
    · exact payment_plain
    · exact ⟨_, rfl⟩
  have hno : ∀ a ∈ ({payment, retried} : Set Action), ∀ d, a.payloadDigest = some d →
      a.digest ratioInterceptor.lib ratioRuntime = .ok d := by
    rintro a (rfl | rfl) d hd
    · cases hd
    · cases hd
  obtain ⟨hauthentic, hcontent⟩ := (digests_authentic_iff ratioPrints ratioRuntime_repr
    ratioLibrary_sha256Hex_injective (fun _ => rfl) hplain).mpr hno
  have hsame : (ratioInterceptor.stamp ratioRuntime payment).map (·.payloadDigest) =
      (ratioInterceptor.stamp ratioRuntime retried).map (·.payloadDigest) := by decide +kernel
  obtain ⟨a', ha'⟩ := exists_of_isOk
    (by decide +kernel : (ratioInterceptor.stamp ratioRuntime payment).isOk = true)
  obtain ⟨b', hb'⟩ := exists_of_isOk
    (by decide +kernel : (ratioInterceptor.stamp ratioRuntime retried).isOk = true)
  rw [ha', hb'] at hsame
  have hdigest : a'.payloadDigest = b'.payloadDigest := Except.ok.inj hsame
  exact ⟨a', b', ha', hb', hdigest, hauthentic payment (.inl rfl) a' ha',
    hcontent payment (.inl rfl) retried (.inr rfl) a' b' ha' hb' hdigest⟩

/-- A digest that the caller made up is passed on. -/
theorem forged_digest_passes : ¬ ∀ (interceptor : Interceptor) (rt : PyRuntime)
    (floats : FloatPrinter), OrjsonPrints interceptor.lib →
    (∀ x : FiniteFloat, x.val.text rt = floats.print x) →
    Function.Injective interceptor.lib.sha256Hex →
    (∀ {args : PyDict Value}, args.toValue.IsJson →
      interceptor.lib.dumpArguments args = .ok args.toValue) →
    ∀ a : Action, a.PlainArguments → ∀ a', interceptor.stamp rt a = .ok a' →
      a'.Authentic interceptor.lib rt := by
  intro h
  let forged : Action := { payment with payloadDigest := some (py "0") }
  obtain ⟨d, hd, hdigest⟩ := h ratioInterceptor ratioRuntime ratioFloats ratioPrints
    ratioRuntime_repr ratioLibrary_sha256Hex_injective (fun _ => rfl) forged payment_plain forged
    rfl
  obtain rfl := Option.some.inj hd
  have hother : forged.digest ratioLibrary ratioRuntime ≠ .ok (py "0") := by decide +kernel
  exact hother hdigest

end Interceptor

end AgentSentinel
