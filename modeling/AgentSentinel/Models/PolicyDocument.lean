import AgentSentinel.Identity.Signing
import AgentSentinel.Models.Policy
import AgentSentinel.Utils.JsonEquality

/-!
# AgentSentinel.Models.PolicyDocument

Policy rules and bundles with all the fields of their models: how a document is
validated into a bundle, and how the bundle is dumped to JSON again. The engine reads
only the part of a bundle that is a `PolicyBundle`.

Validating a value of a given type is the model library's business. It is lax: text may
stand for a number or a time, bytes for text. What is relied on is that a value which has
the type already is left as it is. So what was dumped is validated to a bundle with the
same dump, and with the same fields but for the match dictionaries, which come back as
JSON (`rules_reread`).
-/

namespace AgentSentinel

open Lib

/-- A rule with the fields that the engine does not read. -/
structure RuleDocument extends PolicyRule where
  description : PyStr := []
  tags : List PyStr := []
  rationale : Option PyStr := none
  owaspIds : List PyStr := []

/-- A signed, versioned set of rules. -/
structure BundleDocument where
  version : PyStr
  issuedAt : PyDatetime
  issuer : PyStr := []
  bundleId : PyStr := []
  rules : List RuleDocument
  signature : Option PyStr := none
  tenantId : Option PyStr := none

/-- What the engine reads. -/
def BundleDocument.toBundle (bundle : BundleDocument) : PolicyBundle :=
  ⟨bundle.rules.map (·.toPolicyRule)⟩

/-- `rule == other`. -/
structure RuleDocument.Same (rule other : RuleDocument) : Prop where
  id : rule.id = other.id
  description : rule.description = other.description
  effect : rule.effect = other.effect
  priority : rule.priority = other.priority
  enabled : rule.enabled = other.enabled
  matchOn : rule.matchOn.toValue.pyEq other.matchOn.toValue = true
  tags : rule.tags = other.tags
  rationale : rule.rationale = other.rationale
  owaspIds : rule.owaspIds = other.owaspIds

/-- What two bundles have in common that are the same but for their rules. -/
structure BundleDocument.SameHead (bundle other : BundleDocument) : Prop where
  version : bundle.version = other.version
  issuedAt : bundle.issuedAt.eq other.issuedAt = true
  issuer : bundle.issuer = other.issuer
  bundleId : bundle.bundleId = other.bundleId
  signature : bundle.signature = other.signature
  tenantId : bundle.tenantId = other.tenantId

/-- `bundle == other`. -/
structure BundleDocument.Same (bundle other : BundleDocument) : Prop
    extends bundle.SameHead other where
  rules : List.Forall₂ RuleDocument.Same bundle.rules other.rules

/-! ### Dumps -/

/-- The value of an effect in documents. -/
def RuleEffect.value : RuleEffect → PyStr
  | allow => py "allow"
  | deny => py "deny"
  | escalate => py "escalate"
  | throttle => py "throttle"

def strings (ss : List PyStr) : Value := .list (ss.map .str)

/-- The fields of a rule as they are dumped, given the dump of its match dictionary. -/
def RuleDocument.dumpFields (rule : RuleDocument) (matchOn : Value) : List (Value × Value) :=
  [(.str (py "id"), .str rule.id),
    (.str (py "description"), .str rule.description),
    (.str (py "effect"), .str rule.effect.value),
    (.str (py "priority"), .int rule.priority.val),
    (.str (py "enabled"), .bool rule.enabled),
    (.str (py "match"), matchOn),
    (.str (py "tags"), strings rule.tags),
    (.str (py "rationale"), dumpOption .str rule.rationale),
    (.str (py "owasp_ids"), strings rule.owaspIds)]

theorem rigid_strings (ss : List PyStr) : (strings ss).Rigid :=
  Value.rigid_list fun x hx => by
    obtain ⟨s, -, rfl⟩ := List.mem_map.mp hx
    exact Value.rigid_str s

/-- The names of the fields of a rule. -/
def ruleFields : List PyStr :=
  [py "id", py "description", py "effect", py "priority", py "enabled", py "match", py "tags",
    py "rationale", py "owasp_ids"]

theorem ruleFields_nodup : ruleFields.Nodup := by decide

theorem isJson_ruleFields {rule : RuleDocument} {matchOn : Value} (h : matchOn.IsJson) :
    ∀ e ∈ rule.dumpFields matchOn, e.2.IsJson := by
  have hpriority : (Value.int rule.priority.val).IsJson := ⟨_, rfl⟩
  have henabled : (Value.bool rule.enabled).IsJson := ⟨_, rfl⟩
  simp only [RuleDocument.dumpFields, List.forall_mem_cons, isJson_str, hpriority, henabled, h,
    (rigid_strings _).1, (Value.rigid_dumpOption _).1, List.not_mem_nil, false_imp_iff,
    implies_true, and_self]

/-- Dumps of rules are one JSON value when their fields are. -/
theorem toJson_ruleFields_inj {rule other : RuleDocument} {m m' : Value} (h : m.IsJson)
    (h' : m'.IsJson) :
    (Value.dict (rule.dumpFields m)).toJson = (Value.dict (other.dumpFields m')).toJson ↔
      ((rule.dumpFields m).map fun e => e.2.toJson) =
        (other.dumpFields m').map fun e => e.2.toJson :=
  toJson_dict_inj ruleFields rfl rfl ruleFields_nodup (isJson_ruleFields h) (isJson_ruleFields h')

section Dump

variable {SK PK : Type} (lib : SigningLibrary SK PK)

/-- A match dictionary is typed as the arguments of an action are, and dumped like them. -/
def RuleDocument.modelDump (rule : RuleDocument) : Result Value := do
  let matchOn ← lib.dumpArguments rule.matchOn
  return .dict (rule.dumpFields matchOn)

variable {lib} in
theorem RuleDocument.modelDump_eq_ok {rule : RuleDocument} {w : Value} :
    rule.modelDump lib = .ok w ↔
      ∃ m, lib.dumpArguments rule.matchOn = .ok m ∧ .dict (rule.dumpFields m) = w := by
  simp only [RuleDocument.modelDump, bind_eq_ok, pure, Except.pure, Except.ok.injEq]

/-- The names of the fields of a bundle. -/
def bundleFields : List PyStr :=
  [py "version", py "issued_at", py "issuer", py "bundle_id", py "rules", py "signature",
    py "tenant_id"]

theorem bundleFields_nodup : bundleFields.Nodup := by decide

/-- The fields of a bundle as they are dumped, given the dumps of its rules. -/
def BundleDocument.dumpFields (bundle : BundleDocument) (rules : List Value) : PyDict Value where
  entries := [(py "version", .str bundle.version),
    (py "issued_at", .str (lib.dumpDatetime bundle.issuedAt)),
    (py "issuer", .str bundle.issuer),
    (py "bundle_id", .str bundle.bundleId),
    (py "rules", .list rules),
    (py "signature", dumpOption .str bundle.signature),
    (py "tenant_id", dumpOption .str bundle.tenantId)]
  nodup := bundleFields_nodup

/-- `model_dump(mode="json")`. -/
def BundleDocument.modelDump (bundle : BundleDocument) : Result (PyDict Value) := do
  let rules ← bundle.rules.mapM (RuleDocument.modelDump lib)
  return bundle.dumpFields lib rules

end Dump

/-! ### Validation -/

/-- What the model library makes of a value for a field of each type. -/
structure LaxValidators where
  str : Value → Result PyStr
  int : Value → Result ℤ
  bool : Value → Result Bool
  datetime : Value → Result PyDatetime
  list : Value → Result (List Value)
  effect : Value → Result RuleEffect

namespace LaxValidators

/-- A field that must be there. -/
def required {α : Type} (es : List (Value × Value)) (key : PyStr)
    (validate : Value → Result α) : Result α :=
  match Value.lookupStr es key with
  | none => .error ⟨.validationError, py "Field required"⟩
  | some v => validate v

/-- A field with a default. -/
def defaulted {α : Type} (es : List (Value × Value)) (key : PyStr) (default : α)
    (validate : Value → Result α) : Result α :=
  match Value.lookupStr es key with
  | none => .ok default
  | some v => validate v

/-- A field that may be `None`. -/
def nullable {α : Type} (validate : Value → Result α) : Value → Result (Option α)
  | .none => .ok none
  | v => (validate v).map some

variable (lax : LaxValidators)

/-- `ge=0, le=10_000`. -/
def priority (v : Value) : Result (Fin 10001) := do
  let n ← lax.int v
  if h : 0 ≤ n ∧ n ≤ 10000 then return ⟨n.toNat, by omega⟩
  else .error ⟨.validationError, py "Input should be between 0 and 10000"⟩

/-- `list[str]`. -/
def strs (v : Value) : Result (List PyStr) := do (← lax.list v).mapM lax.str

/-- `dict[str, Any]`: the keys are validated, and a later entry replaces an earlier one
whose key is validated to the same text. -/
def dict : Value → Result (PyDict Value)
  | .dict es => es.foldlM (fun d e => (lax.str e.1).map fun key => d.set key e.2) .empty
  | _ => .error ⟨.validationError, py "Input should be a valid dictionary"⟩

def rule : Value → Result RuleDocument
  | .dict es => do
    let id ← required es (py "id") lax.str
    let description ← defaulted es (py "description") [] lax.str
    let effect ← required es (py "effect") lax.effect
    let priority ← defaulted es (py "priority") 100 lax.priority
    let enabled ← defaulted es (py "enabled") true lax.bool
    let matchOn ← defaulted es (py "match") .empty lax.dict
    let tags ← defaulted es (py "tags") [] lax.strs
    let rationale ← defaulted es (py "rationale") none (nullable lax.str)
    let owaspIds ← defaulted es (py "owasp_ids") [] lax.strs
    return { id, description, effect, priority, enabled, matchOn, tags, rationale, owaspIds }
  | _ => .error ⟨.validationError, py "Input should be a valid dictionary"⟩

/-- `PolicyBundle.model_validate`; `now` is what the default of `issued_at` gives. -/
def modelValidate (now : PyDatetime) : Value → Result BundleDocument
  | .dict es => do
    let version ← required es (py "version") lax.str
    let issuedAt ← defaulted es (py "issued_at") now lax.datetime
    let issuer ← defaulted es (py "issuer") [] lax.str
    let bundleId ← defaulted es (py "bundle_id") [] lax.str
    let rules ← required es (py "rules") fun v => do (← lax.list v).mapM lax.rule
    let signature ← defaulted es (py "signature") none (nullable lax.str)
    let tenantId ← defaulted es (py "tenant_id") none (nullable lax.str)
    return { version, issuedAt, issuer, bundleId, rules, signature, tenantId }
  | _ => .error ⟨.validationError, py "Input should be a valid dictionary"⟩

/-- What is relied on: a value of the type is left as it is. -/
structure Keeps (lax : LaxValidators) : Prop where
  str : ∀ s, lax.str (.str s) = .ok s
  int : ∀ n, lax.int (.int n) = .ok n
  bool : ∀ b, lax.bool (.bool b) = .ok b
  list : ∀ xs, lax.list (.list xs) = .ok xs
  effect : ∀ effect : RuleEffect, lax.effect (.str effect.value) = .ok effect

variable {lax} {es : List (Value × Value)} {α : Type} {key : PyStr} {v : Value} {a : α}
  {validate : Value → Result α}

theorem required_eq_ok (h : Value.lookupStr es key = some v) (hv : validate v = .ok a) :
    required es key validate = .ok a := by
  simp only [required, h, hv]

theorem defaulted_eq_ok {default : α} (h : Value.lookupStr es key = some v)
    (hv : validate v = .ok a) : defaulted es key default validate = .ok a := by
  simp only [defaulted, h, hv]

theorem Keeps.nullable (keeps : lax.Keeps) (o : Option PyStr) :
    nullable lax.str (dumpOption .str o) = .ok o := by
  cases o with
  | none => rfl
  | some s => simp [LaxValidators.nullable, dumpOption, keeps.str, Except.map]

theorem Keeps.priority (keeps : lax.Keeps) (p : Fin 10001) :
    lax.priority (.int p.val) = .ok p := by
  have hp : (0 : ℤ) ≤ p.val ∧ (p.val : ℤ) ≤ 10000 := by omega
  refine bind_eq_ok.mpr ⟨_, keeps.int _, ?_⟩
  rw [dif_pos hp]
  rfl

theorem Keeps.strs (keeps : lax.Keeps) (ss : List PyStr) : lax.strs (strings ss) = .ok ss := by
  refine bind_eq_ok.mpr ⟨_, keeps.list _, mapM_eq_ok.mpr ?_⟩
  rw [List.forall₂_map_left_iff]
  exact List.forall₂_same.mpr fun s _ => keeps.str s

/-- The entries not yet looked at come after the others, as their keys are new. -/
theorem Keeps.dictEntries (keeps : lax.Keeps) {ts : List (PyStr × JsonValue)}
    (h : List.Forall₂ Value.EntryOf es ts) {acc : PyDict Value}
    (hnodup : (acc.entries.map Prod.fst ++ ts.map Prod.fst).Nodup) :
    ∃ d, es.foldlM (fun d e => (lax.str e.1).map fun key => d.set key e.2) acc = .ok d ∧
      d.toValue = .dict (acc.entries.map (fun e => (.str e.1, e.2)) ++ es) := by
  induction h generalizing acc with
  | nil => exact ⟨acc, rfl, by rw [List.append_nil, PyDict.toValue]⟩
  | @cons e f es ts hhead _ ih =>
      obtain ⟨_, v⟩ := e
      obtain ⟨rfl, -⟩ := hhead
      have hset := JsonMode.entries_set_of_nodup hnodup v
      obtain ⟨d, hd, hvalue⟩ := @ih (acc.set f.1 v) (by simpa [hset] using hnodup)
      refine ⟨d, ?_, by simpa [hset] using hvalue⟩
      rw [List.foldlM_cons, keeps.str]
      exact hd

/-- A dictionary that stands for JSON is kept entry by entry. -/
theorem Keeps.dict (keeps : lax.Keeps) {t : JsonValue} (h : (Value.dict es).toJson = some t) :
    ∃ d, lax.dict (.dict es) = .ok d ∧ d.toValue = .dict es := by
  obtain ⟨ts, hts, hnodup, -⟩ := Value.toJson_dict_eq_some.mp h
  exact keeps.dictEntries hts (by simpa [PyDict.empty] using hnodup)

/-- A rule is validated from whatever stands for its dump, but for the match dictionary,
which is kept as it is found and of which only the JSON value is known. -/
theorem Keeps.rule (keeps : lax.Keeps) {rule : RuleDocument} {matchOn w : Value}
    (hmatch : ∃ t, matchOn.toJson = some (.obj t))
    (hw : w.toJson = (Value.dict (rule.dumpFields matchOn)).toJson) :
    ∃ d es, lax.rule w = .ok { rule with matchOn := d } ∧ d.toValue.toJson = matchOn.toJson ∧
      w = .dict es ∧ Value.lookupStr es (py "match") = some d.toValue := by
  obtain ⟨m, hm⟩ := hmatch
  have hfields : (Value.dict (rule.dumpFields matchOn)).IsJson :=
    isJson_dict ruleFields rfl ruleFields_nodup (isJson_ruleFields ⟨_, hm⟩)
  obtain ⟨es, rfl⟩ := Value.eq_dict_of_toJson_eq hfields hw
  obtain ⟨t, ht⟩ := hfields
  rw [ht] at hw
  have hfield {key : PyStr} {v : Value} (hv : v.Rigid)
      (h : Value.lookupStr (rule.dumpFields matchOn) key = some v) :
      Value.lookupStr es key = some v := Value.lookupStr_of_rigid ht hw hv h
  obtain ⟨w', u, hlookup, hu, hw'⟩ := Value.lookupStr_toJson ht hw
    (k := py "match") (v := matchOn) rfl
  obtain rfl := Option.some.inj (hm.symm.trans hu)
  obtain ⟨fs, rfl⟩ := Value.eq_dict_of_toJson hw'
  obtain ⟨d, hd, hvalue⟩ := keeps.dict hw'
  refine ⟨d, es, ?_, by rw [hvalue, hw', hm], rfl, by rw [hlookup, hvalue]⟩
  rw [LaxValidators.rule]
  refine bind_eq_ok.mpr ⟨_, required_eq_ok (hfield (Value.rigid_str _) rfl) (keeps.str _), ?_⟩
  refine bind_eq_ok.mpr ⟨_, defaulted_eq_ok (hfield (Value.rigid_str _) rfl) (keeps.str _), ?_⟩
  refine bind_eq_ok.mpr ⟨_, required_eq_ok (hfield (Value.rigid_str _) rfl) (keeps.effect _), ?_⟩
  refine bind_eq_ok.mpr ⟨_, defaulted_eq_ok
    (hfield (Value.rigid_scalar (s := .int rule.priority.val) rfl) rfl) (keeps.priority _), ?_⟩
  refine bind_eq_ok.mpr ⟨_, defaulted_eq_ok
    (hfield (Value.rigid_scalar (s := .bool rule.enabled) rfl) rfl) (keeps.bool _), ?_⟩
  refine bind_eq_ok.mpr ⟨_, defaulted_eq_ok hlookup hd, ?_⟩
  refine bind_eq_ok.mpr ⟨_, defaulted_eq_ok (hfield (rigid_strings _) rfl) (keeps.strs _), ?_⟩
  refine bind_eq_ok.mpr ⟨_, defaulted_eq_ok (hfield (Value.rigid_dumpOption _) rfl)
    (keeps.nullable _), ?_⟩
  refine bind_eq_ok.mpr ⟨_, defaulted_eq_ok (hfield (rigid_strings _) rfl) (keeps.strs _), ?_⟩
  rfl

/-- A bundle is validated from its fields. -/
theorem Keeps.modelValidate (keeps : lax.Keeps) (bundle : BundleDocument)
    {now issuedAt : PyDatetime} {issued : PyStr} {ws : List Value}
    (hversion : Value.lookupStr es (py "version") = some (.str bundle.version))
    (hissued : Value.lookupStr es (py "issued_at") = some (.str issued))
    (hdatetime : lax.datetime (.str issued) = .ok issuedAt)
    (hissuer : Value.lookupStr es (py "issuer") = some (.str bundle.issuer))
    (hbundleId : Value.lookupStr es (py "bundle_id") = some (.str bundle.bundleId))
    (hrules : Value.lookupStr es (py "rules") = some (.list ws))
    (hws : ws.mapM lax.rule = .ok bundle.rules)
    (hsignature :
      defaulted es (py "signature") none (LaxValidators.nullable lax.str) = .ok bundle.signature)
    (htenant : Value.lookupStr es (py "tenant_id") = some (dumpOption .str bundle.tenantId)) :
    lax.modelValidate now (.dict es) = .ok { bundle with issuedAt } := by
  rw [LaxValidators.modelValidate]
  refine bind_eq_ok.mpr ⟨_, required_eq_ok hversion (keeps.str _), ?_⟩
  refine bind_eq_ok.mpr ⟨_, defaulted_eq_ok hissued hdatetime, ?_⟩
  refine bind_eq_ok.mpr ⟨_, defaulted_eq_ok hissuer (keeps.str _), ?_⟩
  refine bind_eq_ok.mpr ⟨_, defaulted_eq_ok hbundleId (keeps.str _), ?_⟩
  refine bind_eq_ok.mpr ⟨_, required_eq_ok hrules (bind_eq_ok.mpr ⟨_, keeps.list _, hws⟩), ?_⟩
  refine bind_eq_ok.mpr ⟨_, hsignature, ?_⟩
  refine bind_eq_ok.mpr ⟨_, defaulted_eq_ok htenant (keeps.nullable _), ?_⟩
  rfl

/-- The time of issue was read, or it is the default. -/
theorem issuedAt_of_modelValidate {now : PyDatetime} {bundle : BundleDocument}
    (h : lax.modelValidate now v = .ok bundle) :
    (∃ w, lax.datetime w = .ok bundle.issuedAt) ∨ bundle.issuedAt = now := by
  unfold LaxValidators.modelValidate at h
  split at h
  · obtain ⟨version, -, h⟩ := bind_eq_ok.mp h
    obtain ⟨issuedAt, hissued, h⟩ := bind_eq_ok.mp h
    obtain ⟨issuer, -, h⟩ := bind_eq_ok.mp h
    obtain ⟨bundleId, -, h⟩ := bind_eq_ok.mp h
    obtain ⟨rules, -, h⟩ := bind_eq_ok.mp h
    obtain ⟨signature, -, h⟩ := bind_eq_ok.mp h
    obtain ⟨tenantId, -, h⟩ := bind_eq_ok.mp h
    obtain rfl := Except.ok.inj h
    unfold defaulted at hissued
    split at hissued
    · exact Or.inr (Except.ok.inj hissued).symm
    · exact Or.inl ⟨_, hissued⟩
  · cases h

end LaxValidators

/-! ### Bundles that are dumped and validated again -/

section Reread

variable {SK PK : Type} {lib : SigningLibrary SK PK} {rt : PyRuntime}

/-- The rule with a match dictionary that stands for the dump of the one it had. -/
def RuleDocument.Reread (lib : SigningLibrary SK PK) (rule reread : RuleDocument) : Prop :=
  ∃ d m, reread = { rule with matchOn := d } ∧ lib.dumpArguments rule.matchOn = .ok m ∧
    d.toValue.toJson = m.toJson

/-- A dictionary is dumped to an object. -/
theorem DumpSpec.dumpArguments_obj (spec : DumpSpec lib rt) {args : PyDict Value} {m : Value}
    (h : lib.dumpArguments args = .ok m) : ∃ t, m.toJson = some (.obj t) := by
  obtain ⟨t, ht⟩ := spec.isJson_dump h
  rw [spec.dumpArguments] at h
  obtain ⟨d, -, rfl⟩ := map_eq_ok.mp h
  obtain ⟨ts, -, -, rfl⟩ := Value.toJson_dict_eq_some.mp ht
  exact ⟨_, ht⟩

theorem rules_reread {lax : LaxValidators} (keeps : lax.Keeps) (spec : DumpSpec lib rt)
    {rules : List RuleDocument} {dumps ws : List Value} {ts : List JsonValue}
    (hdumps : List.Forall₂ (fun r d => r.modelDump lib = .ok d) rules dumps)
    (hts : List.Forall₂ (fun d t => d.toJson = some t) dumps ts)
    (hws : List.Forall₂ (fun w t => w.toJson = some t) ws ts) :
    ∃ rs, ws.mapM lax.rule = .ok rs ∧ List.Forall₂ (RuleDocument.Reread lib) rules rs := by
  induction hdumps generalizing ts ws with
  | nil =>
      cases hts
      cases hws
      exact ⟨[], rfl, .nil⟩
  | @cons rule dump rules dumps hdump _ ih =>
      cases hts with
      | cons ht hts =>
          cases hws with
          | cons hw hws =>
              obtain ⟨m, hm, rfl⟩ := RuleDocument.modelDump_eq_ok.mp hdump
              obtain ⟨d, -, hd, hvalue, -⟩ :=
                keeps.rule (spec.dumpArguments_obj hm) (hw.trans ht.symm)
              obtain ⟨rs, hrs, hrest⟩ := ih hts hws
              refine ⟨{ rule with matchOn := d } :: rs, ?_, .cons ⟨d, m, rfl, hm, hvalue⟩ hrest⟩
              exact mapM_eq_ok.mpr (.cons hd (mapM_eq_ok.mp hrs))

/-- The dump of a rule that has been read again is the dump it was read from. -/
theorem RuleDocument.Reread.modelDump (spec : DumpSpec lib rt) {rule reread : RuleDocument}
    (h : rule.Reread lib reread) {w : Value} (hw : rule.modelDump lib = .ok w) :
    ∃ w', reread.modelDump lib = .ok w' ∧ w'.toJson = w.toJson := by
  obtain ⟨d, m, rfl, hm, hvalue⟩ := h
  obtain ⟨m', hm', rfl⟩ := RuleDocument.modelDump_eq_ok.mp hw
  obtain rfl := Except.ok.inj (hm.symm.trans hm')
  have hjson := spec.isJson_dump hm
  have hd : d.toValue.IsJson := hjson.imp fun t ht => hvalue.trans ht
  have hdump : lib.dumpArguments d = .ok d.toValue := by
    rw [spec.dumpArguments, JsonMode.dump_of_isJson hd]
  refine ⟨_, RuleDocument.modelDump_eq_ok.mpr ⟨_, hdump, rfl⟩, ?_⟩
  refine (toJson_ruleFields_inj hd hjson).mpr ?_
  simp only [RuleDocument.dumpFields, List.map_cons, hvalue]

/-- The dumps of rules that have been read again. -/
theorem modelDumps_reread (spec : DumpSpec lib rt) {rules rs : List RuleDocument}
    {dumps : List Value} (h : List.Forall₂ (RuleDocument.Reread lib) rules rs)
    (hdumps : rules.mapM (RuleDocument.modelDump lib) = .ok dumps) :
    ∃ ds, rs.mapM (RuleDocument.modelDump lib) = .ok ds ∧
      ds.map Value.toJson = dumps.map Value.toJson := by
  rw [mapM_eq_ok] at hdumps
  induction h generalizing dumps with
  | nil =>
      cases hdumps
      exact ⟨[], rfl, rfl⟩
  | cons hhead _ ih =>
      cases hdumps with
      | cons hdump hdumps =>
          obtain ⟨d, hd, hsame⟩ := hhead.modelDump spec hdump
          obtain ⟨ds, hds, hrest⟩ := ih hdumps
          refine ⟨d :: ds, mapM_eq_ok.mpr (.cons hd (mapM_eq_ok.mp hds)), ?_⟩
          rw [List.map_cons, List.map_cons, hsame, hrest]

/-- A rule that has been read again is the one it was exactly when its match dictionary
was plain JSON. -/
theorem RuleDocument.Reread.same_iff (spec : DumpSpec lib rt) {rule reread : RuleDocument}
    (h : rule.Reread lib reread) (hdistinct : rule.matchOn.toValue.KeysDistinct) :
    rule.Same reread ↔ rule.matchOn.toValue.IsJson := by
  obtain ⟨d, m, rfl, hm, hvalue⟩ := h
  obtain ⟨t, ht⟩ := spec.isJson_dump hm
  constructor
  · intro hsame
    exact Value.isJson_of_pyEq hdistinct ⟨t, hvalue.trans ht⟩ hsame.matchOn
  · intro hjson
    rw [spec.dumpArguments, JsonMode.dump_of_isJson hjson] at hm
    obtain rfl := Except.ok.inj hm
    exact ⟨rfl, rfl, rfl, rfl, rfl, Value.pyEq_of_toJson ht (hvalue.trans ht), rfl, rfl, rfl⟩

/-- Rules that have been read again are the same exactly where all matches are plain. -/
theorem same_reread_iff (spec : DumpSpec lib rt) {rules rs : List RuleDocument}
    (h : List.Forall₂ (RuleDocument.Reread lib) rules rs)
    (hdistinct : ∀ rule ∈ rules, rule.matchOn.toValue.KeysDistinct) :
    List.Forall₂ RuleDocument.Same rules rs ↔ ∀ rule ∈ rules, rule.matchOn.toValue.IsJson := by
  induction h with
  | nil => simp
  | cons hhead _ ih =>
      rw [List.forall_mem_cons] at hdistinct ⊢
      rw [List.forall₂_cons, hhead.same_iff spec hdistinct.1, ih hdistinct.2]

end Reread

/-! ### Dumps of bundles -/

section Rules

variable {SK PK : Type} {lib : SigningLibrary SK PK} {rt : PyRuntime}

theorem RuleEffect.value_injective : Function.Injective RuleEffect.value := by
  intro e f h
  cases e <;> cases f <;> first | rfl | exact absurd h (by decide)

/-- What two rules have in common that have one dump, of what the engine reads: everything,
but for what the JSON mode does not tell apart in the match dictionaries. -/
structure RuleDocument.Tied (mode : JsonMode) (rule other : RuleDocument) : Prop where
  id : rule.id = other.id
  effect : rule.effect = other.effect
  priority : rule.priority = other.priority
  enabled : rule.enabled = other.enabled
  matchOn : mode.Alike rule.matchOn.toValue other.matchOn.toValue

theorem RuleDocument.tied_of_modelDump (spec : DumpSpec lib rt) {rule other : RuleDocument}
    {w w' : Value} (h : rule.modelDump lib = .ok w) (h' : other.modelDump lib = .ok w')
    (hequal : w.toJson = w'.toJson) : rule.Tied spec.mode other := by
  obtain ⟨m, hm, rfl⟩ := RuleDocument.modelDump_eq_ok.mp h
  obtain ⟨m', hm', rfl⟩ := RuleDocument.modelDump_eq_ok.mp h'
  have hfields :=
    (toJson_ruleFields_inj (spec.isJson_dump hm) (spec.isJson_dump hm')).mp hequal
  simp only [RuleDocument.dumpFields, List.map_cons, List.cons.injEq] at hfields
  obtain ⟨hid, -, heffect, hpriority, henabled, hmatch, -⟩ := hfields
  simp only [Value.toJson, Option.some.injEq, JsonTree.str.injEq, JsonTree.scalar.injEq,
    JsonScalar.int.injEq, JsonScalar.bool.injEq, Nat.cast_inj] at hid heffect hpriority henabled
  refine ⟨hid, RuleEffect.value_injective heffect, Fin.ext hpriority, henabled, ?_⟩
  exact ⟨m, m', (spec.dumpArguments _).symm.trans hm, (spec.dumpArguments _).symm.trans hm',
    hmatch⟩

/-- Rules are tied one by one when their dumps are one JSON value. -/
theorem rules_tied (spec : DumpSpec lib rt) {rules rules' : List RuleDocument}
    {dumps dumps' : List Value} (h : rules.mapM (RuleDocument.modelDump lib) = .ok dumps)
    (h' : rules'.mapM (RuleDocument.modelDump lib) = .ok dumps') {t : JsonValue}
    (ht : (Value.list dumps).toJson = some t) (ht' : (Value.list dumps').toJson = some t) :
    List.Forall₂ (RuleDocument.Tied spec.mode) rules rules' := by
  obtain ⟨ts, hts, rfl⟩ := Value.toJson_list_eq_some.mp ht
  obtain ⟨ts', hts', heq⟩ := Value.toJson_list_eq_some.mp ht'
  obtain rfl := JsonTree.arr.inj heq
  have hleft := forall₂_comp (mapM_eq_ok.mp h) hts
  have hright := forall₂_comp (mapM_eq_ok.mp h') hts'
  refine (forall₂_comp hleft hright.flip).imp fun rule rule' hboth => ?_
  obtain ⟨t, ⟨w, hw, ht⟩, w', hw', ht'⟩ := hboth
  exact RuleDocument.tied_of_modelDump spec hw hw' (ht.trans ht'.symm)

end Rules

section Bundles

variable {SK PK : Type} {lib : SigningLibrary SK PK} {bundle other : BundleDocument}
  {rules rules' : List Value}

theorem isJson_bundleFields (h : (Value.list rules).IsJson) :
    ∀ e ∈ (bundle.dumpFields lib rules).entries, e.2.IsJson := by
  simp only [BundleDocument.dumpFields, List.forall_mem_cons, isJson_str, h,
    (Value.rigid_dumpOption _).1, List.not_mem_nil, false_imp_iff, implies_true, and_self]

/-- Two bundles have one dump when their fields have. -/
theorem bundleDump_eq_iff (lib : SigningLibrary SK PK) (bundle other : BundleDocument)
    (h : (Value.list rules).IsJson) (h' : (Value.list rules').IsJson) :
    (bundle.dumpFields lib rules).toValue.toJson =
        (other.dumpFields lib rules').toValue.toJson ↔
      bundle.version = other.version ∧
        lib.dumpDatetime bundle.issuedAt = lib.dumpDatetime other.issuedAt ∧
        bundle.issuer = other.issuer ∧ bundle.bundleId = other.bundleId ∧
        (Value.list rules).toJson = (Value.list rules').toJson ∧
        bundle.signature = other.signature ∧ bundle.tenantId = other.tenantId := by
  have hstr {s s' : PyStr} : (Value.str s).toJson = (Value.str s').toJson ↔ s = s' := by
    simp [Value.toJson]
  rw [Value.toValue_toJson_inj (c := bundle.dumpFields lib rules)
    (d := other.dumpFields lib rules') rfl (isJson_bundleFields h) (isJson_bundleFields h')]
  simp only [BundleDocument.dumpFields, List.map_cons, List.map_nil, List.cons.injEq, and_true,
    hstr, Value.toJson_dumpOption_inj]

/-- The dumps of rules are JSON values. -/
theorem isJson_ruleDumps {rt : PyRuntime} (spec : DumpSpec lib rt) {rs : List RuleDocument}
    (h : rs.mapM (RuleDocument.modelDump lib) = .ok rules) : (Value.list rules).IsJson := by
  refine JsonMode.isJson_list fun w hw => ?_
  obtain ⟨rule, hrule, -⟩ :=
    exists_mem_of_forall₂ (mapM_eq_ok.mp h).flip hw
  obtain ⟨m, hm, rfl⟩ := RuleDocument.modelDump_eq_ok.mp hrule
  exact isJson_dict ruleFields rfl ruleFields_nodup (isJson_ruleFields (spec.isJson_dump hm))

end Bundles

end AgentSentinel
