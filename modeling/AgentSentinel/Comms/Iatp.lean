import AgentSentinel.Identity.Signing
import AgentSentinel.Lib.IdealSignature

/-!
# AgentSentinel.Comms.Iatp

Signed envelopes between agents. An envelope carries a nonce that is meant to grow within
a conversation, and the signature covers it, but the receiver keeps nothing between two
calls of `verify`: whatever has been sealed is accepted whenever and however often it
arrives. So the accepted envelopes come in the order of their nonces exactly when the
network delivers the genuine ones in that order and each once.
-/

namespace AgentSentinel

open Lib

/-- One signed inter-agent message. -/
structure IatpEnvelope where
  senderDid : PyStr
  recipientDid : PyStr
  conversationId : PyStr
  nonce : ℕ
  issuedAt : PyDatetime
  intent : PyStr
  body : PyDict Value
  signatureB64 : Option PyStr := none

variable {SK PK : Type}

/-- `canonical_body`: every field but the signature, in JSON mode. -/
def IatpEnvelope.canonicalBody (lib : SigningLibrary SK PK) (envelope : IatpEnvelope) :
    Result Value := do
  let body ← lib.dumpArguments envelope.body
  return .dict [(.str (py "sender_did"), .str envelope.senderDid),
    (.str (py "recipient_did"), .str envelope.recipientDid),
    (.str (py "conversation_id"), .str envelope.conversationId),
    (.str (py "nonce"), .int envelope.nonce),
    (.str (py "issued_at"), .str (lib.dumpDatetime envelope.issuedAt)),
    (.str (py "intent"), .str envelope.intent),
    (.str (py "body"), body)]

/-- The bytes an envelope's signature is over. -/
def IatpEnvelope.payload (lib : SigningLibrary SK PK) (rt : PyRuntime)
    (envelope : IatpEnvelope) : Result PyBytes := do
  canonicalBytes lib.toHashLibrary rt (← envelope.canonicalBody lib)

/-- Sign and verify IATP envelopes. -/
structure IatpTransport (SK PK : Type) where
  priv : SK
  pub : PK
  deriving DecidableEq

namespace IatpTransport

variable (lib : SigningLibrary SK PK) (rt : PyRuntime) (transport : IatpTransport SK PK)

/-- `seal`. -/
def sealEnvelope (envelope : IatpEnvelope) : Result IatpEnvelope := do
  let sig := Crypto.sign lib transport.priv (← envelope.payload lib rt)
  return { envelope with signatureB64 := some (Base64.encode sig) }

/-- `verify`; without a public key the transport's own is used. -/
def verify (envelope : IatpEnvelope) (publicKey : Option PK) : Result Bool :=
  match envelope.signatureB64 with
  | none => .ok false
  | some signatureB64 =>
    match Base64.decode signatureB64 with
    | .error e =>
      if e.kind = .valueError ∨ e.kind = .typeError then .ok false else .error e
    | .ok sig => do
      let payload ← envelope.payload lib rt
      return Crypto.verify lib (publicKey.getD transport.pub) sig payload

/-- An envelope on the wire, with the public key the receiver passes for it. -/
abbrev Presented (PK : Type) := IatpEnvelope × Option PK

/-- The envelopes `verify` accepts, in the order they are presented. -/
def accepted (presented : List (Presented PK)) : List IatpEnvelope :=
  (presented.filter fun p => (transport.verify lib rt p.1 p.2).toOption == some true).map Prod.fst

/-- Within a conversation of a sender the nonces grow strictly. -/
def Precedes (first second : IatpEnvelope) : Prop :=
  first.senderDid = second.senderDid → first.conversationId = second.conversationId →
    first.nonce < second.nonce

/-- A call of `seal` on a transport. -/
abbrev SealCall (SK PK : Type) := IatpTransport SK PK × IatpEnvelope

/-- The keys as the receiver sees them after these calls of `seal`: every public key is
that of some transport, and the scheme is ideal for what this one has sealed. -/
structure KeySpec (calls : List (SealCall SK PK)) where
  owner : PK → IatpTransport SK PK
  ideal : ∀ pk, IdealSignature (lib.privateSign (owner pk).priv)
    (fun sig payload => lib.publicVerify pk sig payload = .ok ())
    (IdealSignature.Encodes (fun envelope payload => envelope.payload lib rt = .ok payload)
      fun envelope => (owner pk, envelope) ∈ calls)

variable {lib rt transport} {calls : List (SealCall SK PK)}

/-- The presented envelope has the content and the signature of one that the owner of the
key has sealed. -/
def Genuine (spec : KeySpec lib rt calls) (transport : IatpTransport SK PK)
    (p : Presented PK) : Prop :=
  ∃ call ∈ calls, call.1 = spec.owner (p.2.getD transport.pub) ∧
    ∃ genuine, call.1.sealEnvelope lib rt call.2 = .ok genuine ∧
      p.1.payload lib rt = genuine.payload lib rt ∧
      p.1.signatureB64.map Base64.decode = genuine.signatureB64.map Base64.decode

theorem sealEnvelope_eq_ok {envelope genuine : IatpEnvelope} :
    transport.sealEnvelope lib rt envelope = .ok genuine ↔
      ∃ payload, envelope.payload lib rt = .ok payload ∧ genuine = { envelope with
        signatureB64 := some (Base64.encode (lib.privateSign transport.priv payload)) } := by
  simp only [sealEnvelope, bind_eq_ok, Crypto.sign]
  refine exists_congr fun payload => and_congr_right fun _ => ?_
  exact ⟨fun h => (Except.ok.inj h).symm, fun h => congrArg Except.ok h.symm⟩

/-- Every way `verify` comes to say yes. -/
theorem verify_eq_true {envelope : IatpEnvelope} {publicKey : Option PK} :
    transport.verify lib rt envelope publicKey = .ok true ↔
      ∃ sig payload, envelope.signatureB64.map Base64.decode = some (.ok sig) ∧
        envelope.payload lib rt = .ok payload ∧
        lib.publicVerify (publicKey.getD transport.pub) sig payload = .ok () := by
  unfold verify
  cases envelope.signatureB64 with
  | none => simp
  | some signatureB64 =>
      cases hdecode : Base64.decode signatureB64 with
      | error e =>
          simp only [Option.map_some, hdecode]
          split <;> simp
      | ok sig =>
          simp only [Option.map_some, hdecode, bind_eq_ok]
          constructor
          · rintro ⟨payload, hpayload, hverify⟩
            exact ⟨sig, payload, rfl, hpayload, Crypto.verify_eq_true.mp (Except.ok.inj hverify)⟩
          · rintro ⟨sig', payload, hsig, hpayload, hverify⟩
            obtain rfl := Except.ok.inj (Option.some.inj hsig)
            exact ⟨payload, hpayload, congrArg Except.ok (Crypto.verify_eq_true.mpr hverify)⟩

/-- What is genuine is accepted, and nothing else, whatever came before. -/
theorem verify_iff (spec : KeySpec lib rt calls) (p : Presented PK) :
    transport.verify lib rt p.1 p.2 = .ok true ↔ Genuine spec transport p := by
  rw [verify_eq_true]
  constructor
  · rintro ⟨sig, payload, hsig, hpayload, haccept⟩
    obtain ⟨⟨envelope, hcall, henvelope⟩, rfl⟩ :=
      ((spec.ideal _).accepts_iff sig payload).mp haccept
    refine ⟨_, hcall, rfl, _, sealEnvelope_eq_ok.mpr ⟨payload, henvelope, rfl⟩,
      hpayload.trans henvelope.symm, ?_⟩
    rw [hsig, Option.map_some, Base64.decode_encode]
  · rintro ⟨⟨_, envelope⟩, hcall, rfl, genuine, hseal, hpayload, hsig⟩
    obtain ⟨payload, henvelope, rfl⟩ := sealEnvelope_eq_ok.mp hseal
    rw [Option.map_some, Base64.decode_encode] at hsig
    exact ⟨_, payload, hsig, hpayload.trans henvelope,
      (spec.ideal _).accepts_made hcall henvelope⟩

theorem precedes_irrefl (envelope : IatpEnvelope) : ¬ Precedes envelope envelope :=
  fun h => lt_irrefl _ (h rfl rfl)

/-- Envelopes in the order of their nonces are accepted once each. -/
theorem nodup_of_precedes {envelopes : List IatpEnvelope} (h : envelopes.Pairwise Precedes) :
    envelopes.Nodup := by
  refine List.Pairwise.imp ?_ h
  rintro first _ hpre rfl
  exact precedes_irrefl first hpre

/-- **Replays are accepted.** The accepted envelopes of every conversation have strictly
increasing nonces, and none is accepted twice, exactly when the genuine ones among the
presented come in that order. -/
theorem accepted_precedes_iff (spec : KeySpec lib rt calls) (presented : List (Presented PK)) :
    ((transport.accepted lib rt presented).Pairwise Precedes ∧
        (transport.accepted lib rt presented).Nodup) ↔
      presented.Pairwise fun p q => Genuine spec transport p → Genuine spec transport q →
        Precedes p.1 q.1 := by
  have hgenuine : ∀ p : Presented PK,
      ((transport.verify lib rt p.1 p.2).toOption == some true) = true ↔
        Genuine spec transport p := by
    intro p
    rw [beq_iff_eq, toOption_eq_some, verify_iff spec]
  rw [and_iff_left_of_imp nodup_of_precedes, accepted, List.pairwise_map, List.pairwise_filter]
  simp only [hgenuine]

/-- Libraries whose signature check knows what has been sealed, with a signature that is
the payload itself. -/
def postOffice (calls : List (SealCall PyBytes PyBytes)) : SigningLibrary PyBytes PyBytes :=
  { ratioSigning with
    publicVerify := fun pk sig payload =>
      if (∃ call ∈ calls, call.1 = ⟨pk, pk⟩ ∧
          (call.2.payload ratioSigning ratioRuntime).toOption = some payload) ∧ sig = payload then
        .ok ()
      else .error ⟨.other (py "InvalidSignature"), py ""⟩ }

def postOfficeSpec (calls : List (SealCall PyBytes PyBytes)) :
    KeySpec (postOffice calls) ratioRuntime calls where
  owner pk := ⟨pk, pk⟩
  ideal pk := by
    refine ⟨fun sig payload => ?_⟩
    have hmade : IdealSignature.Encodes
        (fun envelope payload =>
          IatpEnvelope.payload (postOffice calls) ratioRuntime envelope = .ok payload)
        (fun envelope => ((⟨pk, pk⟩ : IatpTransport PyBytes PyBytes), envelope) ∈ calls) payload ↔
        ∃ call ∈ calls, call.1 = ⟨pk, pk⟩ ∧
          (call.2.payload ratioSigning ratioRuntime).toOption = some payload := by
      simp only [toOption_eq_some]
      constructor
      · rintro ⟨envelope, hcall, hpayload⟩
        exact ⟨_, hcall, rfl, hpayload⟩
      · rintro ⟨⟨_, envelope⟩, hcall, rfl, hpayload⟩
        exact ⟨envelope, hcall, hpayload⟩
    rw [hmade]
    simp only [postOffice]
    split
    · next h => exact iff_of_true rfl h
    · next h => exact iff_of_false (by simp) h

/-- One agent's key, and the one envelope it seals. -/
def alice : IatpTransport PyBytes PyBytes := ⟨[], []⟩

def greeting : IatpEnvelope where
  senderDid := py "did:alice"
  recipientDid := py "did:bob"
  conversationId := py "c"
  nonce := 0
  issuedAt := .aware 0 0
  intent := py "greet"
  body := .empty

def greetingCalls : List (SealCall PyBytes PyBytes) := [(alice, greeting)]

theorem greeting_genuine : ∃ genuine,
    alice.sealEnvelope (postOffice greetingCalls) ratioRuntime greeting = .ok genuine ∧
      Genuine (postOfficeSpec greetingCalls) alice (genuine, none) := by
  obtain ⟨genuine, hseal⟩ := exists_of_isOk (by decide +kernel :
    (alice.sealEnvelope (postOffice greetingCalls) ratioRuntime greeting).isOk = true)
  exact ⟨genuine, hseal, (alice, greeting), List.mem_singleton.mpr rfl, rfl, genuine, hseal,
    rfl, rfl⟩

/-- What she seals later in the conversation, and what somebody else makes of it. -/
def farewell : IatpEnvelope := { greeting with nonce := 1, intent := py "leave" }

def forged : IatpEnvelope := { farewell with nonce := 7, signatureB64 := some (py "AAAA") }

def conversationCalls : List (SealCall PyBytes PyBytes) := [(alice, greeting), (alice, farewell)]

/-- What is presented: the forged envelope, and the two that she has sealed. -/
def conversation : Result (List (Presented PyBytes)) := do
  let first ← alice.sealEnvelope (postOffice conversationCalls) ratioRuntime greeting
  let second ← alice.sealEnvelope (postOffice conversationCalls) ratioRuntime farewell
  return [(forged, none), (first, none), (second, none)]

theorem not_genuine_forged : ¬ Genuine (postOfficeSpec conversationCalls) alice (forged, none) := by
  have hrefused : (alice.verify (postOffice conversationCalls) ratioRuntime forged none) =
      .ok false := by decide +kernel
  rw [← verify_iff, hrefused]
  simp

/-- The sealed ones are accepted, in the order of their nonces. -/
theorem accepted_precedes_conversation : ∃ presented, conversation = .ok presented ∧
    (alice.accepted (postOffice conversationCalls) ratioRuntime presented).map (·.nonce) = [0, 1] ∧
    (alice.accepted (postOffice conversationCalls) ratioRuntime presented).Pairwise Precedes ∧
      (alice.accepted (postOffice conversationCalls) ratioRuntime presented).Nodup := by
  have haccepted : (conversation.map fun presented =>
      (alice.accepted (postOffice conversationCalls) ratioRuntime presented).map (·.nonce)) =
        .ok [0, 1] := by decide +kernel
  obtain ⟨presented, hpresented, hnonces⟩ := map_eq_ok.mp haccepted
  refine ⟨presented, hpresented, hnonces,
    (accepted_precedes_iff (postOfficeSpec conversationCalls) presented).mpr ?_⟩
  obtain ⟨first, hfirst, hrest⟩ := bind_eq_ok.mp hpresented
  obtain ⟨second, hsecond, hwire⟩ := bind_eq_ok.mp hrest
  obtain rfl := Except.ok.inj hwire
  obtain ⟨-, -, rfl⟩ := sealEnvelope_eq_ok.mp hfirst
  obtain ⟨-, -, rfl⟩ := sealEnvelope_eq_ok.mp hsecond
  refine .cons (fun _ _ hgenuine => absurd hgenuine not_genuine_forged)
    (.cons ?_ (List.pairwise_singleton _ _))
  intro q hq _ _ _ _
  rw [List.mem_singleton.mp hq]
  exact Nat.zero_lt_one

/-- The same envelope is accepted twice. -/
theorem replayed_envelope_accepted : ¬ ∀ (lib : SigningLibrary PyBytes PyBytes) (rt : PyRuntime)
    (calls : List (SealCall PyBytes PyBytes)) (spec : KeySpec lib rt calls)
    (transport : IatpTransport PyBytes PyBytes) (presented : List (Presented PyBytes)),
    (∀ p ∈ presented, Genuine spec transport p) →
      (transport.accepted lib rt presented).Pairwise Precedes ∧
        (transport.accepted lib rt presented).Nodup := by
  intro h
  obtain ⟨genuine, -, hgenuine⟩ := greeting_genuine
  have haccepted := (verify_iff (postOfficeSpec greetingCalls) (genuine, none)).mpr hgenuine
  obtain ⟨-, hnodup⟩ := h _ _ _ (postOfficeSpec greetingCalls) alice
    [(genuine, none), (genuine, none)] (by simpa using hgenuine)
  simp [accepted, haccepted, Except.toOption] at hnodup

end IatpTransport

end AgentSentinel
