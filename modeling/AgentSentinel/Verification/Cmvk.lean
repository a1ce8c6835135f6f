import AgentSentinel.Identity.Signing
import AgentSentinel.Lib.IdealSignature

/-!
# AgentSentinel.Verification.Cmvk

Signed receipts for memory writes. A receipt is signed over the agent, the key and a
digest of agent, key and value; its identifier, its time and its version are not.

Under an ideal signature scheme this binds: a receipt verifies with a value only if that
agent wrote that value under that key. It does not bind more. A receipt verifies forever,
however many have been issued for its key since, and with any identifier, time and
version, so an old or a relabelled receipt is told from the newest one only when nobody
presents it.
-/

namespace AgentSentinel

open Lib

/-- A signed, verifiable receipt for a memory write. -/
structure MemoryReceipt where
  id : UUID
  agentDid : PyStr
  key : PyStr
  digestHex : PyStr
  signatureB64 : PyStr
  issuedAt : PyDatetime
  version : ℤ := 1
  deriving DecidableEq

/-- What the signature of a receipt speaks about: agent, key and digest. -/
def MemoryReceipt.statement (receipt : MemoryReceipt) : PyStr × PyStr × PyStr :=
  (receipt.agentDid, receipt.key, receipt.digestHex)

/-- Issue and verify memory receipts. -/
structure Cmvk (SK PK : Type) where
  priv : SK
  pub : PK

/-- The arguments of one call of `issue`, with the identifier and the time it draws. -/
structure IssueCall where
  agentDid : PyStr
  key : PyStr
  value : Value
  id : UUID
  issuedAt : PyDatetime

namespace Cmvk

/-- What is hashed. -/
def digestInput (agentDid key : PyStr) (value : Value) : Value :=
  .dict [(.str (py "key"), .str key), (.str (py "value"), value),
    (.str (py "agent_did"), .str agentDid)]

/-- What is signed. -/
def signedBody (statement : PyStr × PyStr × PyStr) : Value :=
  .dict [(.str (py "agent_did"), .str statement.1), (.str (py "key"), .str statement.2.1),
    (.str (py "digest"), .str statement.2.2)]

variable {SK PK : Type} (lib : SigningLibrary SK PK) (rt : PyRuntime) (cmvk : Cmvk SK PK)

def issue (call : IssueCall) : Result MemoryReceipt := do
  let digest ← sha256Hex lib.toHashLibrary rt (digestInput call.agentDid call.key call.value)
  let body ← canonicalBytes lib.toHashLibrary rt (signedBody (call.agentDid, call.key, digest))
  let sig := Crypto.sign lib cmvk.priv body
  return {
    id := call.id
    agentDid := call.agentDid
    key := call.key
    digestHex := digest
    signatureB64 := Base64.encode sig
    issuedAt := call.issuedAt }

def verify (receipt : MemoryReceipt) (value : Value) : Result Bool := do
  let expected ←
    sha256Hex lib.toHashLibrary rt (digestInput receipt.agentDid receipt.key value)
  if expected ≠ receipt.digestHex then return false
  else
    let body ← canonicalBytes lib.toHashLibrary rt (signedBody receipt.statement)
    match Base64.decode receipt.signatureB64 with
    | .error e =>
      if e.kind = .valueError ∨ e.kind = .typeError then return false else .error e
    | .ok sig => return Crypto.verify lib cmvk.pub sig body

/-- The receipts a sequence of calls has issued; a call that raises issues none. -/
def issued (calls : List IssueCall) : List MemoryReceipt :=
  calls.filterMap fun call => (cmvk.issue lib rt call).toOption

/-- The statement is what these bytes encode. -/
def Signs (statement : PyStr × PyStr × PyStr) (body : PyBytes) : Prop :=
  canonicalBytes lib.toHashLibrary rt (signedBody statement) = .ok body

/-- What verification relies on after these calls of `issue`: the two encoders on JSON
values, and an ideal signature scheme whose key has signed the receipts issued. -/
structure ReceiptSpec (calls : List IssueCall) extends EncoderSpec lib.toHashLibrary rt where
  ideal : IdealSignature (lib.privateSign cmvk.priv)
    (fun sig body => lib.publicVerify cmvk.pub sig body = .ok ())
    (IdealSignature.Encodes (Signs lib rt) fun statement =>
      ∃ receipt ∈ cmvk.issued lib rt calls, receipt.statement = statement)

/-! ### What a receipt that verifies carries -/

variable {lib rt cmvk} {calls : List IssueCall} {call : IssueCall} {receipt : MemoryReceipt}
  {value : Value}

theorem issue_eq_ok : cmvk.issue lib rt call = .ok receipt ↔
    ∃ digest body,
      sha256Hex lib.toHashLibrary rt (digestInput call.agentDid call.key call.value) =
        .ok digest ∧
      Signs lib rt (call.agentDid, call.key, digest) body ∧
      receipt = {
        id := call.id
        agentDid := call.agentDid
        key := call.key
        digestHex := digest
        signatureB64 := Base64.encode (lib.privateSign cmvk.priv body)
        issuedAt := call.issuedAt } := by
  simp only [issue, bind_eq_ok, Signs, Crypto.sign]
  constructor
  · rintro ⟨digest, hdigest, body, hbody, heq⟩
    exact ⟨digest, body, hdigest, hbody, (Except.ok.inj heq).symm⟩
  · rintro ⟨digest, body, hdigest, hbody, rfl⟩
    exact ⟨digest, hdigest, body, hbody, rfl⟩

theorem mem_issued :
    receipt ∈ cmvk.issued lib rt calls ↔ ∃ call ∈ calls, cmvk.issue lib rt call = .ok receipt := by
  simp only [issued, List.mem_filterMap, toOption_eq_some]

/-- The signature of an issued receipt is that of its statement. -/
theorem issued_signature (h : receipt ∈ cmvk.issued lib rt calls) :
    ∃ body, Signs lib rt receipt.statement body ∧
      Base64.decode receipt.signatureB64 = .ok (lib.privateSign cmvk.priv body) := by
  obtain ⟨call, -, hissue⟩ := mem_issued.mp h
  obtain ⟨digest, body, -, hbody, rfl⟩ := issue_eq_ok.mp hissue
  exact ⟨body, hbody, Base64.decode_encode _⟩

/-- Every way `verify` comes to say yes. -/
theorem verify_eq_true : cmvk.verify lib rt receipt value = .ok true ↔
    sha256Hex lib.toHashLibrary rt (digestInput receipt.agentDid receipt.key value) =
        .ok receipt.digestHex ∧
      ∃ body sig, Signs lib rt receipt.statement body ∧
        Base64.decode receipt.signatureB64 = .ok sig ∧
        lib.publicVerify cmvk.pub sig body = .ok () := by
  simp only [verify, bind_eq_ok, Signs]
  constructor
  · rintro ⟨expected, hexpected, h⟩
    split at h
    · cases h
    · next heq =>
        obtain ⟨body, hbody, h⟩ := bind_eq_ok.mp h
        rw [not_not.mp heq] at hexpected
        refine ⟨hexpected, body, ?_⟩
        split at h
        · split at h <;> cases h
        · next sig hsig =>
            exact ⟨sig, hbody, hsig, Crypto.verify_eq_true.mp (Except.ok.inj h)⟩
  · rintro ⟨hexpected, body, sig, hbody, hsig, hverify⟩
    refine ⟨receipt.digestHex, hexpected, ?_⟩
    rw [if_neg (not_not.mpr rfl), hbody]
    simp only [hsig, Crypto.verify_eq_true.mpr hverify, Bind.bind, Except.bind]
    rfl

/-- The bytes that are signed tell the statement. -/
theorem signs_inj (spec : ReceiptSpec lib rt cmvk calls) (s t : PyStr × PyStr × PyStr)
    (body : PyBytes) (hs : Signs lib rt s body) (ht : Signs lib rt t body) : s = t := by
  have hfields := fields_eq_of_canonicalBytes spec.orjson spec.repr
    [py "agent_did", py "key", py "digest"] rfl rfl (by decide) (by simp [isJson_str])
    (by simp [isJson_str]) hs ht
  simp only [List.map_cons, Value.toJson, List.cons.injEq, Option.some.injEq,
    JsonTree.str.injEq] at hfields
  exact Prod.ext hfields.1 (Prod.ext hfields.2.1 hfields.2.2.1)

/-- A receipt verifies with a value exactly when the value has its digest and an issued
receipt carries the same statement and signature. -/
theorem verify_iff (spec : ReceiptSpec lib rt cmvk calls) :
    cmvk.verify lib rt receipt value = .ok true ↔
      sha256Hex lib.toHashLibrary rt (digestInput receipt.agentDid receipt.key value) =
          .ok receipt.digestHex ∧
        ∃ issuedReceipt ∈ cmvk.issued lib rt calls,
          issuedReceipt.statement = receipt.statement ∧
            Base64.decode issuedReceipt.signatureB64 = Base64.decode receipt.signatureB64 := by
  rw [verify_eq_true]
  refine and_congr_right fun _ => ?_
  constructor
  · rintro ⟨body, sig, hbody, hsig, haccept⟩
    obtain ⟨⟨genuine, hgenuine, hsame⟩, rfl⟩ :=
      (spec.ideal.accepts_statement_iff (signs_inj spec) hbody).mp haccept
    obtain ⟨body', hbody', hsig'⟩ := issued_signature hgenuine
    rw [hsame] at hbody'
    obtain rfl := Except.ok.inj (hbody.symm.trans hbody')
    exact ⟨genuine, hgenuine, hsame, hsig'.trans hsig.symm⟩
  · rintro ⟨genuine, hgenuine, hsame, hsig⟩
    obtain ⟨body, hbody, hsig'⟩ := issued_signature hgenuine
    rw [hsame] at hbody
    exact ⟨body, _, hbody, hsig.symm.trans hsig',
      spec.ideal.accepts_made ⟨genuine, hgenuine, hsame⟩ hbody⟩

/-! ### Libraries that are ideal for a history -/

/-- What the key pair has signed, with a signature that is the body itself. -/
def signedBodies (calls : List IssueCall) : List PyBytes :=
  ((⟨[], []⟩ : Cmvk PyBytes PyBytes).issued ratioSigning ratioRuntime calls).filterMap
    fun receipt => (canonicalBytes ratioLibrary ratioRuntime
      (signedBody receipt.statement)).toOption

/-- Libraries whose signature check knows the history. -/
def vault (calls : List IssueCall) : SigningLibrary PyBytes PyBytes :=
  { ratioSigning with
    publicVerify := fun _ sig body =>
      if body ∈ signedBodies calls ∧ sig = body then .ok ()
      else .error ⟨.other (py "InvalidSignature"), py ""⟩ }

/-- The key pair of the vault. -/
def vaultKeys : Cmvk PyBytes PyBytes := ⟨[], []⟩

def vaultSpec (calls : List IssueCall) :
    ReceiptSpec (vault calls) ratioRuntime vaultKeys calls where
  orjson := { ratioPrints with }
  floats := ratioFloats
  repr := ratioRuntime_repr
  ideal := by
    refine ⟨fun sig body => ?_⟩
    have hsigned : body ∈ signedBodies calls ↔ IdealSignature.Encodes
        (Signs (vault calls) ratioRuntime) (fun statement =>
          ∃ receipt ∈ vaultKeys.issued (vault calls) ratioRuntime calls,
            receipt.statement = statement) body := by
      simp only [signedBodies, List.mem_filterMap, toOption_eq_some, IdealSignature.Encodes]
      constructor
      · rintro ⟨receipt, hreceipt, hbody⟩
        exact ⟨receipt.statement, ⟨receipt, hreceipt, rfl⟩, hbody⟩
      · rintro ⟨_, ⟨receipt, hreceipt, rfl⟩, hbody⟩
        exact ⟨receipt, hreceipt, hbody⟩
    rw [← hsigned]
    simp only [vault]
    split
    · next h => exact iff_of_true rfl h
    · next h => exact iff_of_false (by simp) h

/-! ### Freshness -/

/-- The receipt most recently issued for this agent and key. -/
def latest (receipts : List MemoryReceipt) (agentDid key : PyStr) : Option MemoryReceipt :=
  (receipts.filter fun receipt => receipt.agentDid == agentDid && receipt.key == key).getLast?

/-- The receipt is, in every field but the signature, the latest of its agent and key. -/
def IsLatest (receipts : List MemoryReceipt) (receipt : MemoryReceipt) : Prop :=
  ∃ newest, latest receipts receipt.agentDid receipt.key = some newest ∧
    { receipt with signatureB64 := newest.signatureB64 } = newest

/-- The receipt carries the statement and the signature of a receipt that was issued. -/
def CarriesGenuine (receipts : List MemoryReceipt) (receipt : MemoryReceipt) : Prop :=
  ∃ genuine ∈ receipts, genuine.statement = receipt.statement ∧
    Base64.decode genuine.signatureB64 = Base64.decode receipt.signatureB64

/-- What carries a genuine statement and signature verifies, with the value that was
written, and nothing else verifies with any. -/
theorem exists_verify_iff (spec : ReceiptSpec lib rt cmvk calls) :
    (∃ value, cmvk.verify lib rt receipt value = .ok true) ↔
      CarriesGenuine (cmvk.issued lib rt calls) receipt := by
  simp only [verify_iff spec]
  constructor
  · rintro ⟨value, -, hgenuine⟩
    exact hgenuine
  · rintro ⟨genuine, hgenuine, hsame, hsig⟩
    obtain ⟨call, -, hissue⟩ := mem_issued.mp hgenuine
    obtain ⟨digest, body, hdigest, -, hreceipt⟩ := issue_eq_ok.mp hissue
    obtain ⟨hdid, hkey, hhex⟩ : call.agentDid = receipt.agentDid ∧ call.key = receipt.key ∧
        digest = receipt.digestHex := by
      simpa [hreceipt, MemoryReceipt.statement] using hsame
    refine ⟨call.value, ?_, genuine, hgenuine, hsame, hsig⟩
    rw [← hdid, ← hkey, hdigest, hhex]

/-- A genuine statement and signature in a receipt that is not the latest one: an older
receipt, or one with another identifier, time or version. -/
def Replayed (receipts : List MemoryReceipt) (receipt : MemoryReceipt) : Prop :=
  CarriesGenuine receipts receipt ∧ ¬ IsLatest receipts receipt

/-- **Receipts resist replay and relabelling** in exactly those receipts that are neither
replayed nor relabelled. -/
theorem resists_replay_iff (spec : ReceiptSpec lib rt cmvk calls) (receipt : MemoryReceipt) :
    (∀ value, cmvk.verify lib rt receipt value = .ok true →
        IsLatest (cmvk.issued lib rt calls) receipt) ↔
      ¬ Replayed (cmvk.issued lib rt calls) receipt := by
  rw [Replayed, not_and, not_not, ← exists_verify_iff spec, forall_exists_index]

/-- Whoever has one receipt can relabel it. -/
theorem resists_all_iff (spec : ReceiptSpec lib rt cmvk calls) :
    (∀ receipt value, cmvk.verify lib rt receipt value = .ok true →
        IsLatest (cmvk.issued lib rt calls) receipt) ↔ cmvk.issued lib rt calls = [] := by
  constructor
  · intro h
    by_contra hne
    obtain ⟨genuine, hgenuine⟩ := List.exists_mem_of_ne_nil _ hne
    -- Two versions of it cannot both be the version of the latest receipt.
    have hversion : ∀ n : ℤ, IsLatest (cmvk.issued lib rt calls) { genuine with version := n } := by
      intro n
      obtain ⟨value, hvalue⟩ := (exists_verify_iff spec).mpr
        (⟨genuine, hgenuine, rfl, rfl⟩ : CarriesGenuine _ { genuine with version := n })
      exact h _ value hvalue
    obtain ⟨newest, hnewest, hsame⟩ := hversion 0
    obtain ⟨newest', hnewest', hsame'⟩ := hversion 1
    obtain rfl := Option.some.inj (hnewest.symm.trans hnewest')
    have hzero : (0 : ℤ) = 1 := congrArg MemoryReceipt.version (hsame.trans hsame'.symm)
    exact absurd hzero (by decide)
  · intro hnil receipt value hverify
    obtain ⟨-, genuine, hgenuine, -⟩ := (verify_iff spec).mp hverify
    rw [hnil] at hgenuine
    cases hgenuine

/-- One agent's two writes under one key. -/
def oldWrite : IssueCall := ⟨py "did:a", py "k", .str (py "old"), 1, .aware 1 0⟩

def newWrite : IssueCall := ⟨py "did:a", py "k", .str (py "new"), 2, .aware 2 0⟩

def writes : List IssueCall := [oldWrite, newWrite]

theorem latest_writes :
    latest (vaultKeys.issued (vault writes) ratioRuntime writes) (py "did:a") (py "k") =
      (vaultKeys.issue (vault writes) ratioRuntime newWrite).toOption := by decide +kernel

/-- The receipt of the second write is the latest, after the first. -/
theorem resists_replay_newest : ∃ receipt,
    vaultKeys.issue (vault writes) ratioRuntime newWrite = .ok receipt ∧
      ∀ value, vaultKeys.verify (vault writes) ratioRuntime receipt value = .ok true →
        IsLatest (vaultKeys.issued (vault writes) ratioRuntime writes) receipt := by
  obtain ⟨receipt, hreceipt⟩ := exists_of_isOk (by decide +kernel :
    (vaultKeys.issue (vault writes) ratioRuntime newWrite).isOk = true)
  refine ⟨receipt, hreceipt, (resists_replay_iff (vaultSpec writes) receipt).mpr ?_⟩
  rintro ⟨-, hold⟩
  have hlatest := latest_writes
  rw [hreceipt, Except.toOption] at hlatest
  obtain ⟨digest, body, -, -, rfl⟩ := issue_eq_ok.mp hreceipt
  exact hold ⟨_, hlatest, rfl⟩

/-- The receipt of the first write still verifies after the second. -/
theorem outdated_receipt_verifies : ¬ ∀ (lib : SigningLibrary PyBytes PyBytes) (rt : PyRuntime)
    (cmvk : Cmvk PyBytes PyBytes) (calls : List IssueCall), ReceiptSpec lib rt cmvk calls →
    Function.Injective lib.sha256Hex → ∀ receipt value,
    cmvk.verify lib rt receipt value = .ok true →
      IsLatest (cmvk.issued lib rt calls) receipt := by
  intro h
  obtain ⟨receipt, hreceipt⟩ := exists_of_isOk (by decide +kernel :
    (vaultKeys.issue (vault writes) ratioRuntime oldWrite).isOk = true)
  have hmem := mem_issued.mpr ⟨oldWrite, (List.mem_cons_self : oldWrite ∈ writes), hreceipt⟩
  obtain ⟨value, hvalue⟩ := (exists_verify_iff (vaultSpec writes)).mpr
    ⟨receipt, hmem, rfl, rfl⟩
  obtain ⟨newest, hnewest, hsame⟩ := h _ _ _ _ (vaultSpec writes)
    ratioLibrary_sha256Hex_injective receipt value hvalue
  obtain ⟨digest, body, -, -, rfl⟩ := issue_eq_ok.mp hreceipt
  have hid : (latest (vaultKeys.issued (vault writes) ratioRuntime writes) (py "did:a")
      (py "k")).map MemoryReceipt.id = some 2 := by
    rw [latest_writes]
    decide +kernel
  rw [show latest _ (py "did:a") (py "k") = some newest from hnewest, ← hsame] at hid
  have hone : (1 : UUID) = 2 := Option.some.inj hid
  exact absurd hone (by decide)

/-! ### Binding -/

/-- What is hashed tells the value that is written. -/
theorem toJson_eq_of_digest (spec : ReceiptSpec lib rt cmvk calls)
    (hhash : Function.Injective lib.sha256Hex) {agentDid key digest : PyStr} {v w : Value}
    (hv : v.IsJson) (hw : w.IsJson)
    (hdv : sha256Hex lib.toHashLibrary rt (digestInput agentDid key v) = .ok digest)
    (hdw : sha256Hex lib.toHashLibrary rt (digestInput agentDid key w) = .ok digest) :
    v.toJson = w.toJson := by
  obtain ⟨bytes, hbytes, rfl⟩ := map_eq_ok.mp hdv
  obtain ⟨bytes', hbytes', heq⟩ := map_eq_ok.mp hdw
  obtain rfl := hhash heq
  have hfields := fields_eq_of_canonicalBytes spec.orjson spec.repr
    [py "key", py "value", py "agent_did"] rfl rfl (by decide) (by simp [isJson_str, hv])
    (by simp [isJson_str, hw]) hbytes hbytes'
  simp only [List.map_cons, List.cons.injEq] at hfields
  exact hfields.2.1

/-- **Receipts bind agent, key and value.** With JSON values only a receipt for a value
that this agent wrote under this key verifies, and every issued receipt verifies with its
own. -/
theorem receipts_bind (spec : ReceiptSpec lib rt cmvk calls)
    (hhash : Function.Injective lib.sha256Hex) (hjson : ∀ call ∈ calls, call.value.IsJson) :
    (∀ receipt value, value.IsJson → cmvk.verify lib rt receipt value = .ok true →
        ∃ call ∈ calls, (∃ genuine, cmvk.issue lib rt call = .ok genuine) ∧
          call.agentDid = receipt.agentDid ∧ call.key = receipt.key ∧
          call.value.toJson = value.toJson) ∧
      ∀ call ∈ calls, ∀ receipt, cmvk.issue lib rt call = .ok receipt →
        cmvk.verify lib rt receipt call.value = .ok true := by
  constructor
  · intro receipt value hvalue hverify
    obtain ⟨hdigest, genuine, hgenuine, hsame, -⟩ := (verify_iff spec).mp hverify
    obtain ⟨call, hcall, hissue⟩ := mem_issued.mp hgenuine
    obtain ⟨digest, body, hdigest', -, hfields⟩ := issue_eq_ok.mp hissue
    obtain ⟨hdid, hkey, rfl⟩ : call.agentDid = receipt.agentDid ∧ call.key = receipt.key ∧
        digest = receipt.digestHex := by
      simpa [hfields, MemoryReceipt.statement] using hsame
    rw [hdid, hkey] at hdigest'
    exact ⟨call, hcall, ⟨genuine, hissue⟩, hdid, hkey,
      toJson_eq_of_digest spec hhash (hjson call hcall) hvalue hdigest' hdigest⟩
  · intro call hcall receipt hissue
    obtain ⟨digest, body, hdigest, -, hfields⟩ := issue_eq_ok.mp hissue
    refine (verify_iff spec).mpr ⟨?_, receipt, mem_issued.mpr ⟨call, hcall, hissue⟩, rfl, rfl⟩
    rw [hfields]
    exact hdigest

theorem receipts_bind_writes :
    (∀ receipt value, value.IsJson →
        vaultKeys.verify (vault writes) ratioRuntime receipt value = .ok true →
        ∃ call ∈ writes, (∃ genuine, vaultKeys.issue (vault writes) ratioRuntime call = .ok genuine) ∧
          call.agentDid = receipt.agentDid ∧ call.key = receipt.key ∧
          call.value.toJson = value.toJson) ∧
      ∀ call ∈ writes, ∀ receipt,
        vaultKeys.issue (vault writes) ratioRuntime call = .ok receipt →
          vaultKeys.verify (vault writes) ratioRuntime receipt call.value = .ok true :=
  receipts_bind (vaultSpec writes) ratioLibrary_sha256Hex_injective
    (List.forall_mem_cons.mpr ⟨isJson_str _, List.forall_mem_singleton.mpr (isJson_str _)⟩)

end Cmvk

end AgentSentinel
