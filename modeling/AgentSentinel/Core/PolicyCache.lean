import AgentSentinel.PolicyPac.PinnedMeaning
import AgentSentinel.Utils.JsonReading

/-!
# AgentSentinel.Core.PolicyCache

The local policy cache: a bundle is saved as its canonical bytes and loaded from them again.
What the cache serves are the rules with their match dictionaries as they are read back from
JSON. That is the saved bundle again, as long as no check of the matcher tells a value from
what it is read back as.
-/

namespace AgentSentinel

open Lib

/-- What the cache takes from libraries; `readJson` is `json.loads(path.read_text())` of a
file with these bytes. -/
structure PolicyCache (SK PK : Type) where
  lib : SigningLibrary SK PK
  rt : PyRuntime
  lax : LaxValidators
  readJson : PyBytes → Result Value

namespace PolicyCache

variable {SK PK : Type} (cache : PolicyCache SK PK)

/-- `save`, with the bytes of the bundle's file. -/
def save (bundle : BundleDocument) : Result PyBytes := do
  let dump ← bundle.modelDump cache.lib
  canonicalBytes cache.lib.toHashLibrary cache.rt dump.toValue

/-- `load`, with the bytes of the bundle's file if there is one. Whatever goes wrong, there
is no bundle. -/
def load (clock : ℤ) (file : Option PyBytes) : Option BundleDocument :=
  file.bind fun bytes =>
    ((cache.readJson bytes).bind (cache.lax.modelValidate (PolicyTools.utcNow clock))).toOption

/-- What is relied on for a file with these bytes: the encoders and the JSON mode, a model
library that keeps values of the type of their field and reads its own times, and that the
bytes, if they are canonical, are read as the JSON value they stand for. -/
structure Reliable (bytes : PyBytes) where
  dumps : DumpSpec cache.lib cache.rt
  keeps : cache.lax.Keeps
  datetime : ∀ t, (∃ v, cache.lax.datetime v = .ok t) ∨ (∃ clock, t = PolicyTools.utcNow clock) →
    ∃ t', cache.lax.datetime (.str (cache.lib.dumpDatetime t)) = .ok t'
  readJson : ∀ v t, v.toJson = some t →
    canonicalBytes cache.lib.toHashLibrary cache.rt v = .ok bytes →
      cache.readJson bytes = .ok t.toValue

/-- What is loaded from the bytes says of every action what the bundle says. -/
def Preserves (clock : ℤ) (bytes : PyBytes) (bundle : BundleDocument) : Prop :=
  ∃ loaded, cache.load clock (some bytes) = some loaded ∧
    ∀ action identity factors,
      (⟨bundle.toBundle⟩ : PolicyEngine).outcome cache.rt action identity factors =
        (⟨loaded.toBundle⟩ : PolicyEngine).outcome cache.rt action identity factors

end PolicyCache

/-! ### Rules that are read back -/

/-- The value is dumped to one that is read back as `w`. -/
def JsonMode.ReadsBack (mode : JsonMode) (v w : Value) : Prop :=
  ∃ d t, mode.dump v = .ok d ∧ d.toJson = some t ∧ w = t.toValue

/-- The rule with its match dictionary as it is read back. -/
def RuleDocument.ReadBack {SK PK : Type} (lib : SigningLibrary SK PK)
    (rule reread : RuleDocument) : Prop :=
  ∃ d m t, reread = { rule with matchOn := d } ∧ lib.dumpArguments rule.matchOn = .ok m ∧
    m.toJson = some t ∧ d.toValue = t.toValue

section ReadBack

variable {SK PK : Type} {lib : SigningLibrary SK PK} {rt : PyRuntime} {lax : LaxValidators}

theorem ruleReadBack (keeps : lax.Keeps) (spec : DumpSpec lib rt) {rule : RuleDocument}
    {dump : Value} {t : JsonValue} (hdump : rule.modelDump lib = .ok dump)
    (ht : dump.toJson = some t) :
    ∃ reread, lax.rule t.toValue = .ok reread ∧ rule.ReadBack lib reread := by
  obtain ⟨m, hm, rfl⟩ := RuleDocument.modelDump_eq_ok.mp hdump
  obtain ⟨fs, hfs, -, hlookup⟩ := JsonValue.lookupStr_toValue ht
  obtain ⟨d, es, hd, -, hes, hmatch⟩ :=
    keeps.rule (spec.dumpArguments_obj hm) ((JsonValue.toJson_toValue ht).trans ht.symm)
  obtain ⟨u, hu, hread⟩ := hlookup (k := py "match") (v := m) rfl
  obtain rfl := Value.dict.inj (hes.symm.trans hfs)
  rw [hread, Option.some.injEq] at hmatch
  exact ⟨_, hd, d, m, u, rfl, hm, hu, hmatch.symm⟩

theorem rulesReadBack (keeps : lax.Keeps) (spec : DumpSpec lib rt) {rules : List RuleDocument}
    {dumps : List Value} {ts : List JsonValue}
    (hdumps : List.Forall₂ (fun r d => r.modelDump lib = .ok d) rules dumps)
    (hts : List.Forall₂ (fun d t => d.toJson = some t) dumps ts) :
    ∃ rs, (ts.map JsonValue.toValue).mapM lax.rule = .ok rs ∧
      List.Forall₂ (RuleDocument.ReadBack lib) rules rs := by
  induction hdumps generalizing ts with
  | nil =>
      cases hts
      exact ⟨[], rfl, .nil⟩
  | cons hdump _ ih =>
      cases hts with
      | cons ht hts =>
          obtain ⟨reread, hreread, hback⟩ := ruleReadBack keeps spec hdump ht
          obtain ⟨rs, hrs, hrest⟩ := ih hts
          exact ⟨reread :: rs, mapM_eq_ok.mpr (.cons hreread (mapM_eq_ok.mp hrs)),
            .cons hback hrest⟩

/-- The entries of a dictionary, looked up as those of a dictionary value. -/
theorem lookupStr_entries (d : PyDict Value) (key : PyStr) :
    Value.lookupStr (d.entries.map fun e => (.str e.1, e.2)) key = d.get key := by
  rw [PyDict.get]
  induction d.entries with
  | nil => rfl
  | cons e es ih =>
      rw [List.map_cons, Value.lookupStr, ih, List.lookup_cons]
      by_cases hkey : e.1 = key
      · simp [hkey]
      · rw [if_neg hkey, beq_false_of_ne (Ne.symm hkey)]

/-- Under each key there is what the value is read back as. -/
theorem RuleDocument.ReadBack.get (spec : DumpSpec lib rt) {rule reread : RuleDocument}
    (h : rule.ReadBack lib reread) (key : PyStr) :
    Option.Rel spec.mode.ReadsBack (rule.matchOn.get key) (reread.matchOn.get key) := by
  obtain ⟨d, m, t, rfl, hm, ht, hread⟩ := h
  rw [spec.dumpArguments] at hm
  obtain ⟨ds, rfl, hds⟩ := JsonMode.dump_toValue hm
  obtain ⟨fs, hfs, hfsJson, hlookup⟩ := JsonValue.lookupStr_toValue ht
  have hentries : (d.entries.map fun e => (.str e.1, e.2)) = fs :=
    Value.dict.inj (hread.trans hfs)
  cases hv : rule.matchOn.get key with
  | some v =>
      obtain ⟨f, ⟨hkey, hdump⟩, hf⟩ := exists_mem_of_forall₂ hds
        (PyDict.get_eq_some_iff.mp hv)
      obtain ⟨u, hu, hfound⟩ := hlookup ((Value.lookupStr_eq_some_iff ht).mpr
        (List.mem_map.mpr ⟨f, hf, by rw [hkey]⟩))
      rw [← hentries, lookupStr_entries] at hfound
      rw [show ({ rule with matchOn := d } : RuleDocument).matchOn.get key = _ from hfound]
      exact .some ⟨f.2, u, hdump, hu, rfl⟩
  | none =>
      cases hw : d.get key with
      | none => exact .none
      | some w =>
          -- What is read back under a key was written under it.
          rw [← lookupStr_entries, hentries] at hw
          obtain ⟨x, -, hx, -⟩ := Value.lookupStr_toJson hfsJson ht hw
          obtain ⟨f, hf, hfx⟩ := List.mem_map.mp ((Value.lookupStr_eq_some_iff ht).mp hx)
          obtain ⟨e, ⟨hkey, -⟩, he⟩ := exists_mem_of_forall₂ hds.flip hf
          have heq : e.1 = key := by
            rw [← hkey]
            exact Value.str.inj (congrArg Prod.fst hfx)
          have hfound := PyDict.get_eq_some_iff.mpr he
          rw [heq, hv] at hfound
          cases hfound

end ReadBack

theorem JsonMode.ReadsBack.unique {mode : JsonMode} {v w w' : Value} (h : mode.ReadsBack v w)
    (h' : mode.ReadsBack v w') : w = w' := by
  obtain ⟨d, t, hd, ht, rfl⟩ := h
  obtain ⟨d', t', hd', ht', rfl⟩ := h'
  obtain rfl := Except.ok.inj (hd.symm.trans hd')
  rw [Option.some.inj (ht.symm.trans ht')]

/-- A relation of optional values, made stronger for the value there is. -/
theorem optionRel_of_some {α β : Type} {r r' : α → β → Prop} {o : Option α} {o' : Option β}
    (h : Option.Rel r o o') (himp : ∀ a, o = some a → ∀ b, r a b → r' a b) :
    Option.Rel r' o o' := by
  cases h with
  | none => exact .none
  | some hab => exact .some (himp _ rfl _ hab)

namespace PolicyCache

variable {SK PK : Type} {cache : PolicyCache SK PK} {bundle : BundleDocument} {bytes : PyBytes}
  {now : PyDatetime} {data : Value}

/-- Loading what was saved gives the bundle with its rules read back. -/
theorem load_saved (reliable : cache.Reliable bytes) {issued : ℤ} (clock : ℤ)
    (hvalid : cache.lax.modelValidate (PolicyTools.utcNow issued) data = .ok bundle)
    (hsave : cache.save bundle = .ok bytes) :
    ∃ issuedAt rs, cache.lax.datetime (.str (cache.lib.dumpDatetime bundle.issuedAt)) =
        .ok issuedAt ∧ List.Forall₂ (RuleDocument.ReadBack cache.lib) bundle.rules rs ∧
      cache.load clock (some bytes) = some { bundle with issuedAt, rules := rs } := by
  obtain ⟨dump, hdump, hbytes⟩ := bind_eq_ok.mp hsave
  obtain ⟨rules, hrules, rfl⟩ := PolicyTools.modelDump_eq_ok.mp hdump
  obtain ⟨t, ht⟩ : (bundle.dumpFields cache.lib rules).toValue.IsJson :=
    JsonMode.isJson_toValue (isJson_bundleFields (isJson_ruleDumps reliable.dumps hrules))
  have hread := reliable.readJson _ _ ht hbytes
  obtain ⟨fs, hfs, hfsJson, hlookup⟩ := JsonValue.lookupStr_toValue ht
  have hfield {k : PyStr} {v : Value} (hv : v.Rigid)
      (h : Value.lookupStr ((bundle.dumpFields cache.lib rules).entries.map fun e =>
        (.str e.1, e.2)) k = some v) :
      Value.lookupStr fs k = some v := Value.lookupStr_of_rigid ht hfsJson hv h
  obtain ⟨u, hu, hfound⟩ := hlookup (k := py "rules") (v := .list rules) rfl
  obtain ⟨ts, hts, rfl⟩ := Value.toJson_list_eq_some.mp hu
  obtain ⟨rs, hrs, hback⟩ := rulesReadBack reliable.keeps reliable.dumps (mapM_eq_ok.mp hrules) hts
  obtain ⟨issuedAt, hissued⟩ := reliable.datetime bundle.issuedAt
    ((LaxValidators.issuedAt_of_modelValidate hvalid).imp_right fun h => ⟨issued, h⟩)
  refine ⟨issuedAt, rs, hissued, hback, ?_⟩
  have hvalidate : cache.lax.modelValidate (PolicyTools.utcNow clock) (.dict fs) =
      .ok { bundle with issuedAt, rules := rs } :=
    reliable.keeps.modelValidate { bundle with rules := rs }
      (hfield (Value.rigid_str _) rfl) (hfield (Value.rigid_str _) rfl) hissued
      (hfield (Value.rigid_str _) rfl) (hfield (Value.rigid_str _) rfl)
      (hfound.trans (by rw [JsonValue.toValue, JsonValue.toValueList_eq])) hrs
      (LaxValidators.defaulted_eq_ok (hfield (Value.rigid_dumpOption _) rfl)
        (reliable.keeps.nullable _))
      (hfield (Value.rigid_dumpOption _) rfl)
  rw [load, Option.bind_some, hread, hfs, Except.bind, hvalidate]
  rfl

/-- In every enabled rule, no check tells a value from what it is read back as. -/
def Survives (cache : PolicyCache SK PK) (mode : JsonMode) (bundle : BundleDocument) : Prop :=
  ∀ rule ∈ bundle.rules, rule.enabled = true → ∀ key v, rule.matchOn.get key = some v →
    ∀ w, mode.ReadsBack v w → SameEntry cache.rt key v w

theorem alike_of_readsBack {mode : JsonMode} {v w : Value} (h : mode.ReadsBack v w) :
    mode.Alike v w := by
  obtain ⟨d, t, hd, ht, rfl⟩ := h
  have hread := JsonValue.toJson_toValue ht
  exact ⟨d, _, hd, JsonMode.dump_of_isJson ⟨t, hread⟩, ht.trans hread.symm⟩

/-- Plain JSON survives, and so does what is converted to the same as what it is read back
as. -/
theorem survives_of_readAlike {mode : JsonMode}
    (h : ∀ rule ∈ bundle.rules, rule.enabled = true → ∀ key v, rule.matchOn.get key = some v →
      ∀ w, mode.ReadsBack v w → ReadAlike cache.rt (MatchKey.parse key) v w) :
    cache.Survives mode bundle := by
  intro rule hrule henabled key v hv w hw action identity factors
  have hread := (h rule hrule henabled key v hv w hw).interchangeable (alike_of_readsBack hw)
  refine MatchAgree.ruleMatches fun k _ => ?_
  rw [get_entryRule, get_entryRule]
  split
  · next hk => exact .some (hk ▸ hread)
  · exact .none

/-- Rules that survive say the same when they are read back. -/
theorem outcome_readBack (spec : DumpSpec cache.lib cache.rt)
    (hsurvives : cache.Survives spec.mode bundle) (issuedAt : PyDatetime)
    {rs : List RuleDocument} (hrs : List.Forall₂ (RuleDocument.ReadBack cache.lib) bundle.rules rs)
    (action : Action) (identity : Option Identity) (factors : List RiskFactor) :
    (⟨bundle.toBundle⟩ : PolicyEngine).outcome cache.rt action identity factors =
      (⟨({ bundle with issuedAt, rules := rs } : BundleDocument).toBundle⟩ : PolicyEngine).outcome
        cache.rt action identity factors := by
  refine outcome_alike ?_
  show List.Forall₂ _ (bundle.rules.map _) (rs.map _)
  rw [List.forall₂_map_left_iff, List.forall₂_map_right_iff]
  refine forall₂_imp_mem hrs fun rule hrule reread _ hback => ?_
  have hget := hback.get spec
  obtain ⟨d, m, t, rfl, -⟩ := hback
  refine ⟨rfl, rfl, rfl, rfl, fun henabled => ruleMatches_of_entries fun key => ?_⟩
  exact optionRel_of_some (hget key) (hsurvives rule hrule henabled key)

/-- **The cache** serves a bundle of the same meaning if no check tells a value from what it
is read back as. -/
theorem preserves_of_survives (reliable : cache.Reliable bytes) {issued : ℤ} (clock : ℤ)
    (hvalid : cache.lax.modelValidate (PolicyTools.utcNow issued) data = .ok bundle)
    (hsave : cache.save bundle = .ok bytes)
    (hsurvives : cache.Survives reliable.dumps.mode bundle) :
    cache.Preserves clock bytes bundle := by
  obtain ⟨issuedAt, rs, -, hrs, hload⟩ := load_saved reliable clock hvalid hsave
  exact ⟨_, hload, outcome_readBack reliable.dumps hsurvives _ hrs⟩

/-- What a bundle of one enabled rule says. -/
theorem outcome_one {rt : PyRuntime} {action : Action} {identity : Option Identity}
    {factors : List RiskFactor} {rule : PolicyRule} (henabled : rule.enabled = true) :
    (⟨⟨[rule]⟩⟩ : PolicyEngine).outcome rt action identity factors =
      (PolicyEngine.ruleMatches rt action identity factors rule).map fun hit =>
        if hit then [(rule.id, rule.effect)] else [] := by
  have hsorted : (⟨[rule]⟩ : PolicyBundle).byPriority = [rule] := by
    simp [PolicyBundle.byPriority, henabled]
  rw [PolicyEngine.outcome, PolicyEngine.evaluate, hsorted, matchNames_cons]
  cases PolicyEngine.ruleMatches rt action identity factors rule <;> rfl

/-- A rule whose dictionary has one entry matches as the entry does. -/
theorem ruleMatches_of_entry {rt : PyRuntime} {action : Action} {identity : Option Identity}
    {factors : List RiskFactor} {rule : PolicyRule} {key : PyStr} {v : Value}
    (h : ∀ k, rule.matchOn.get k = if k = key then some v else none) :
    PolicyEngine.ruleMatches rt action identity factors rule =
      PolicyEngine.ruleMatches rt action identity factors (entryRule key v) := by
  refine ruleMatches_of_entries fun k => ?_
  rw [h k, get_entryRule]
  split
  · exact .some fun _ _ _ => rfl
  · exact .none

/-- For a bundle of one rule with one entry the condition is exact. -/
theorem preserves_iff_of_entry (reliable : cache.Reliable bytes) {issued : ℤ} (clock : ℤ)
    (hvalid : cache.lax.modelValidate (PolicyTools.utcNow issued) data = .ok bundle)
    (hsave : cache.save bundle = .ok bytes) {rule : RuleDocument} (hrules : bundle.rules = [rule])
    (henabled : rule.enabled = true) {key : PyStr} {v : Value}
    (hentry : rule.matchOn = PyDict.empty.set key v) :
    cache.Preserves clock bytes bundle ↔ cache.Survives reliable.dumps.mode bundle := by
  obtain ⟨issuedAt, rs, -, hrs, hload⟩ := load_saved reliable clock hvalid hsave
  refine ⟨fun h => ?_, fun h => ⟨_, hload, outcome_readBack reliable.dumps h _ hrs⟩⟩
  obtain ⟨loaded, hloaded, hsame⟩ := h
  obtain rfl := Option.some.inj (hload.symm.trans hloaded)
  rw [hrules] at hrs
  cases hrs with
  | @cons _ reread _ _ hback htail =>
      cases htail
      have hget : ∀ k, rule.matchOn.get k = if k = key then some v else none := fun k =>
        hentry ▸ get_entryRule key k v
      have hread := hback.get reliable.dumps
      intro rule' hrule' _ k u hu w hw
      rw [hrules, List.mem_singleton] at hrule'
      subst hrule'
      obtain ⟨rfl, rfl⟩ : k = key ∧ u = v := by
        rw [hget] at hu
        split at hu
        · next hk => exact ⟨hk, (Option.some.inj hu).symm⟩
        · cases hu
      -- The entry that was read back is the only one, and its value is `w`.
      have hgetBack : ∀ k', reread.matchOn.get k' = if k' = k then some w else none := by
        intro k'
        have hrel := hread k'
        rw [hget] at hrel
        split
        · next hk =>
            rw [if_pos hk] at hrel
            obtain ⟨w', hw', hback⟩ := rel_some_left.mp hrel
            rw [hw', hback.unique hw]
        · next hk =>
            rw [if_neg hk] at hrel
            exact Option.isNone_iff_eq_none.mp
              (Option.isSome_eq_false_iff.mp (isSome_eq_of_rel hrel).symm)
      intro action identity factors
      have houtcome := hsame action identity factors
      simp only [BundleDocument.toBundle, hrules, List.map_cons, List.map_nil] at houtcome
      obtain ⟨d, m, t, rfl, -⟩ := hback
      have hafter : ({ rule' with matchOn := d } : RuleDocument).toPolicyRule.enabled = true :=
        henabled
      rw [outcome_one henabled, outcome_one hafter, ruleMatches_of_entry hget,
        ruleMatches_of_entry hgetBack] at houtcome
      refine map_injective (fun hit hit' h => ?_) houtcome
      cases hit <;> cases hit' <;> simp at h <;> rfl

/-! ### One file -/

open PolicyTools

/-- The JSON value of the bundle that keeps agents off the shell. -/
def shellJson : JsonValue :=
  (shellBundle.dumpFields sealedSigning shellRules).toValue.toJson.getD (.scalar .null)

theorem toJson_shell :
    (shellBundle.dumpFields sealedSigning shellRules).toValue.toJson = some shellJson := by
  obtain ⟨t, ht⟩ : (shellBundle.dumpFields sealedSigning shellRules).toValue.IsJson :=
    JsonMode.isJson_toValue (isJson_bundleFields (isJson_ruleDumps markedSigningSpec.toDumpSpec
      shellRules_eq))
  rw [shellJson, ht, Option.getD_some]

/-- A cache whose reader knows the file of this bundle. -/
def shellCache : PolicyCache PyBytes PyBytes where
  lib := sealedSigning
  rt := ratioRuntime
  lax := exactTypes
  readJson bytes :=
    if bytes = shellBytes then .ok shellJson.toValue
    else .error ⟨.valueError, py "Expecting value: line 1 column 1 (char 0)"⟩

theorem readJson_shell : shellCache.readJson shellBytes = .ok shellJson.toValue := by
  simp [shellCache]

theorem valid_shell : shellCache.lax.modelValidate (utcNow 0) shellData = .ok shellBundle := rfl

theorem save_shell : shellCache.save shellBundle = .ok shellBytes :=
  @payload_tool (py "shell") (.str (py "shell"))

def shellCacheReliable : shellCache.Reliable shellBytes where
  dumps := { markedSigningSpec.toDumpSpec with }
  keeps := exactTypes_keeps
  datetime _ _ := ⟨utcNow 0, rfl⟩
  readJson v t ht hbytes := by
    obtain ⟨dump, hdump, hsaved⟩ := bind_eq_ok.mp save_shell
    obtain ⟨rules, hrules, rfl⟩ := PolicyTools.modelDump_eq_ok.mp hdump
    obtain rfl := Except.ok.inj (hrules.symm.trans shellRules_eq)
    obtain rfl := toJson_eq_of_canonicalBytes ratioPrints ratioRuntime_repr ht toJson_shell
      hbytes hsaved
    exact readJson_shell

theorem survives_shell : shellCache.Survives shellCacheReliable.dumps.mode shellBundle := by
  intro rule hrule _ key v hv w hw
  obtain rfl := List.mem_singleton.mp hrule
  have hentry : key = py "action.tool" ∧ v = .str (py "shell") := by
    have hmem := PyDict.get_eq_some_iff.mp hv
    exact Prod.mk.inj (List.mem_singleton.mp hmem)
  obtain ⟨rfl, rfl⟩ := hentry
  obtain ⟨d, t, hd, ht, rfl⟩ := hw
  obtain rfl := Except.ok.inj hd
  obtain rfl := Option.some.inj ht
  exact fun _ _ _ => rfl

theorem preserves_of_survives_shell : shellCache.Preserves 60 shellBytes shellBundle :=
  preserves_of_survives shellCacheReliable 60 valid_shell save_shell survives_shell

theorem save_shellAsBytes : shellCache.save (toolBundle shellAsBytes) = .ok shellBytes :=
  payload_shellAsBytes (py "shell")

/-- A bundle with the name of the tool as bytes comes back with the name as a string. -/
theorem bytes_not_preserved : ¬ ∀ (cache : PolicyCache PyBytes PyBytes) (issued clock : ℤ)
    (data : Value) (bundle : BundleDocument) (bytes : PyBytes), cache.Reliable bytes →
    cache.lax.modelValidate (utcNow issued) data = .ok bundle →
    cache.save bundle = .ok bytes → cache.Preserves clock bytes bundle := by
  intro h
  obtain ⟨loaded, hloaded, hsame⟩ := h shellCache 60 60 _ _ _ shellCacheReliable
    (@modelValidate_tool shellAsBytes) save_shellAsBytes
  -- Both bundles have one file, and from it comes the one with the string.
  obtain ⟨issuedAt, rs, -, hrs, hload⟩ := load_saved shellCacheReliable 60 valid_shell save_shell
  have hshell := outcome_readBack shellCacheReliable.dumps survives_shell issuedAt hrs
  have hloaded := Option.some.inj (hload.symm.trans hloaded)
  rw [← hloaded] at hsame
  exact outcome_shellAsBytes ((hshell _ none []).trans (hsame _ none []).symm)

end PolicyCache

end AgentSentinel
