import AgentSentinel.Core.PolicyCache
import AgentSentinel.Lib.FileWrites
import AgentSentinel.Utils.JsonText

/-!
# AgentSentinel.Core.CacheCrash

Saving a bundle writes its file in place. If the process stops while that write is under
way, the file holds a part of the new bundle, which is no JSON document, and the cache has no
bundle to serve; the last one is gone. At every other moment the file holds the last bundle or
the new one, and that is what is loaded if its match values are plain JSON. If they are not,
another bundle is loaded, unless the other of the two happens to be just what was dumped.
-/

namespace AgentSentinel

open Lib

/-! ### Bundles that are read back as the same -/

/-- All match values are plain JSON. -/
def BundleDocument.Plain (bundle : BundleDocument) : Prop :=
  ∀ rule ∈ bundle.rules, rule.matchOn.toValue.IsJson

section DumpsTo

variable {SK PK : Type} {lib : SigningLibrary SK PK} {rt : PyRuntime} {lax : LaxValidators}
  {rule reread other : RuleDocument} {rules rs others : List RuleDocument}

/-- The rule, with its match values as they are dumped, is the other one. -/
def RuleDocument.DumpsTo (lib : SigningLibrary SK PK) (rule other : RuleDocument) : Prop :=
  ∃ d, lib.dumpArguments rule.matchOn = .ok d.toValue ∧ other.Same { rule with matchOn := d }

/-- The bundle, with its match values as they are dumped, is the other one. -/
structure BundleDocument.DumpsTo (lib : SigningLibrary SK PK) (bundle other : BundleDocument) :
    Prop extends other.SameHead bundle where
  rules : List.Forall₂ (RuleDocument.DumpsTo lib) bundle.rules other.rules

theorem RuleDocument.ReadBack.toReread (h : rule.ReadBack lib reread) : rule.Reread lib reread := by
  obtain ⟨d, m, t, rfl, hm, ht, hread⟩ := h
  exact ⟨d, m, rfl, hm, by rw [hread, JsonValue.toJson_toValue ht, ht]⟩

/-- What is dumped and what is read back equal the same rules. -/
theorem RuleDocument.ReadBack.dumpsTo_iff (keeps : lax.Keeps) (spec : DumpSpec lib rt)
    (h : rule.ReadBack lib reread) : rule.DumpsTo lib other ↔ other.Same reread := by
  obtain ⟨d, m, t, rfl, hm, ht, hread⟩ := h
  have hback : d.toValue.toJson = some t := by rw [hread, JsonValue.toJson_toValue ht]
  obtain ⟨u, hu⟩ := spec.dumpArguments_obj hm
  obtain ⟨es, rfl⟩ := Value.eq_dict_of_toJson hu
  obtain ⟨dumped, -, hdumped⟩ := keeps.dict hu
  constructor
  · rintro ⟨d', hd', hsame⟩
    obtain hvalue := Except.ok.inj (hm.symm.trans hd')
    refine { hsame with matchOn := ?_ }
    exact (Value.pyEq_congr hback (hvalue ▸ ht)).trans hsame.matchOn
  · intro hsame
    refine ⟨dumped, by rw [hm, hdumped], { hsame with matchOn := ?_ }⟩
    exact (Value.pyEq_congr (hdumped.symm ▸ ht) hback).trans hsame.matchOn

theorem dumpsTo_rules_iff (keeps : lax.Keeps) (spec : DumpSpec lib rt)
    (h : List.Forall₂ (RuleDocument.ReadBack lib) rules rs) :
    List.Forall₂ (RuleDocument.DumpsTo lib) rules others ↔
      List.Forall₂ RuleDocument.Same others rs := by
  induction h generalizing others with
  | nil => cases others <;> simp
  | cons hhead _ ih =>
      cases others with
      | nil => simp
      | cons other others =>
          rw [List.forall₂_cons, List.forall₂_cons, hhead.dumpsTo_iff keeps spec, ih]

variable {bundle loaded known : BundleDocument}

/-- A bundle whose rules have been read back is the same exactly if it is plain. -/
theorem BundleDocument.same_readBack_iff (spec : DumpSpec lib rt)
    (hdistinct : ∀ rule ∈ bundle.rules, rule.matchOn.toValue.KeysDistinct)
    (hhead : bundle.SameHead loaded)
    (hrules : List.Forall₂ (RuleDocument.ReadBack lib) bundle.rules loaded.rules) :
    bundle.Same loaded ↔ bundle.Plain := by
  have hiff := same_reread_iff spec (hrules.imp fun _ _ h => h.toReread) hdistinct
  constructor
  · intro hsame
    exact hiff.mp hsame.rules
  · intro hplain
    exact ⟨hhead, hiff.mpr hplain⟩

theorem BundleDocument.SameHead.trans {a b c : BundleDocument} (hab : a.SameHead b)
    (hbc : b.SameHead c) : a.SameHead c where
  version := hab.version.trans hbc.version
  issuedAt := PyDatetime.eq_trans hab.issuedAt hbc.issuedAt
  issuer := hab.issuer.trans hbc.issuer
  bundleId := hab.bundleId.trans hbc.bundleId
  signature := hab.signature.trans hbc.signature
  tenantId := hab.tenantId.trans hbc.tenantId

theorem BundleDocument.SameHead.symm {a b : BundleDocument} (h : a.SameHead b) :
    b.SameHead a where
  version := h.version.symm
  issuedAt := PyDatetime.eq_symm h.issuedAt
  issuer := h.issuer.symm
  bundleId := h.bundleId.symm
  signature := h.signature.symm
  tenantId := h.tenantId.symm

/-- Another bundle is the one that has been read back exactly if it is what was dumped. -/
theorem BundleDocument.dumpsTo_iff (keeps : lax.Keeps) (spec : DumpSpec lib rt)
    (hhead : bundle.SameHead loaded)
    (hrules : List.Forall₂ (RuleDocument.ReadBack lib) bundle.rules loaded.rules) :
    bundle.DumpsTo lib known ↔ known.Same loaded := by
  have hiff : List.Forall₂ (RuleDocument.DumpsTo lib) bundle.rules known.rules ↔
      List.Forall₂ RuleDocument.Same known.rules loaded.rules := dumpsTo_rules_iff keeps spec hrules
  constructor
  · intro h
    exact ⟨h.toSameHead.trans hhead, hiff.mp h.rules⟩
  · intro h
    exact ⟨h.toSameHead.trans hhead.symm, hiff.mpr h.rules⟩

end DumpsTo

namespace PolicyCache

/-- `BUNDLE_FILE`. -/
def bundleFile : PyStr := py "policy_bundle.json"

/-- `META_FILE`. -/
def metaFile : PyStr := py "policy_meta.json"

/-- `json.dumps(meta, indent=2)`. -/
def metaText (bundle : BundleDocument) (savedAt : PyStr) : PyStr :=
  let line (key value : PyStr) : PyStr :=
    py "  " ++ Json.encodeStr true key ++ py ": " ++ Json.encodeStr true value
  py "\x7b\n" ++ PyStr.join (py ",\n") [line (py "version") bundle.version,
    line (py "issuer") bundle.issuer, line (py "saved_at") savedAt] ++ py "\n\x7d"

section Crash

variable {SK PK : Type} (cache : PolicyCache SK PK)

/-- `save`, as what it does to the files one step after the other; `savedAt` is the time it
writes down. A bundle that cannot be dumped leaves the files alone. -/
def writes (bundle : BundleDocument) (savedAt : PyStr) :
    Result (List (FileOp PyStr (Fin 256))) := do
  let bytes ← cache.save bundle
  return FileOp.rewrite bundleFile bytes ++
    FileOp.rewrite metaFile (utf8 (metaText bundle savedAt))

/-- `load`. -/
def loadFrom (clock : ℤ) (files : Files PyStr (Fin 256)) : Option BundleDocument :=
  cache.load clock (files bundleFile)

/-- What is loaded is this bundle. -/
def Returns (clock : ℤ) (files : Files PyStr (Fin 256)) (bundle : BundleDocument) : Prop :=
  ∃ loaded, cache.loadFrom clock files = some loaded ∧ bundle.Same loaded

/-- `json.loads` raises on what is no JSON document. -/
def ReadsDocuments : Prop := ∀ bytes v, cache.readJson bytes = .ok v → JsonText bytes

/-- The time of issue of a bundle is read back as the same time. -/
def KeepsTime (bundle : BundleDocument) : Prop :=
  ∀ t, cache.lax.datetime (.str (cache.lib.dumpDatetime bundle.issuedAt)) = .ok t →
    bundle.issuedAt.eq t = true

variable {cache} {bundle previous : BundleDocument} {bytes : PyBytes} {data : Value}
  {files start : Files PyStr (Fin 256)} {ops done rest : List (FileOp PyStr (Fin 256))}
  {savedAt : PyStr} {issued clock : ℤ}

theorem writes_eq_ok : cache.writes bundle savedAt = .ok ops ↔
    ∃ bytes, cache.save bundle = .ok bytes ∧ FileOp.rewrite bundleFile bytes ++
      FileOp.rewrite metaFile (utf8 (metaText bundle savedAt)) = ops := by
  simp only [writes, bind_eq_ok, pure, Except.pure, Except.ok.injEq]

/-- The second file is another one. -/
theorem ne_bundleFile_of_meta {content : PyBytes} :
    ∀ op ∈ FileOp.rewrite metaFile content, op.name ≠ bundleFile := by
  intro op hop
  rw [FileOp.name_of_mem_rewrite hop, metaFile, bundleFile]
  decide

/-- A bundle that was saved is loaded, with its rules as they are read back. -/
theorem loadFrom_saved (reliable : cache.Reliable bytes) (htime : cache.KeepsTime bundle)
    (hvalid : cache.lax.modelValidate (PolicyTools.utcNow issued) data = .ok bundle)
    (hsave : cache.save bundle = .ok bytes) (hfile : files bundleFile = some bytes) :
    ∃ loaded, cache.loadFrom clock files = some loaded ∧ bundle.SameHead loaded ∧
      List.Forall₂ (RuleDocument.ReadBack cache.lib) bundle.rules loaded.rules := by
  obtain ⟨issuedAt, rs, hissued, hrs, hload⟩ := load_saved reliable clock hvalid hsave
  rw [← hfile, ← loadFrom] at hload
  exact ⟨_, hload, ⟨rfl, htime issuedAt hissued, rfl, rfl, rfl, rfl⟩, hrs⟩

/-- It is loaded as the same bundle exactly if its match values are plain JSON, and as another
one exactly if that is what was dumped. -/
theorem returns_saved_iff (reliable : cache.Reliable bytes) (htime : cache.KeepsTime bundle)
    (hdistinct : ∀ rule ∈ bundle.rules, rule.matchOn.toValue.KeysDistinct)
    (hvalid : cache.lax.modelValidate (PolicyTools.utcNow issued) data = .ok bundle)
    (hsave : cache.save bundle = .ok bytes) (hfile : files bundleFile = some bytes)
    (other : BundleDocument) :
    cache.Returns clock files bundle ∨ cache.Returns clock files other ↔
      bundle.Plain ∨ bundle.DumpsTo cache.lib other := by
  obtain ⟨loaded, hload, hhead, hrules⟩ := loadFrom_saved reliable htime hvalid hsave hfile
  have hreturns : ∀ known, cache.Returns clock files known ↔ known.Same loaded := by
    intro known
    constructor
    · rintro ⟨found, hfound, hsame⟩
      obtain rfl := Option.some.inj (hload.symm.trans hfound)
      exact hsame
    · intro hsame
      exact ⟨loaded, hload, hsame⟩
  rw [hreturns, hreturns, BundleDocument.same_readBack_iff reliable.dumps hdistinct hhead hrules,
    BundleDocument.dumpsTo_iff reliable.keeps reliable.dumps hhead hrules]

/-- What is saved is the canonical text of an object. -/
theorem save_eq_object (spec : DumpSpec cache.lib cache.rt)
    (hsave : cache.save bundle = .ok bytes) :
    ∃ spell es, Reads readChar spell ∧ bytes = utf8 (JsonTree.text spell (.obj es)) := by
  obtain ⟨dump, hdump, hbytes⟩ := bind_eq_ok.mp hsave
  obtain ⟨rules, hrules, rfl⟩ := PolicyTools.modelDump_eq_ok.mp hdump
  obtain ⟨t, ht⟩ : (bundle.dumpFields cache.lib rules).toValue.IsJson :=
    JsonMode.isJson_toValue (isJson_bundleFields (isJson_ruleDumps spec hrules))
  obtain ⟨ts, -, -, rfl⟩ := Value.toJson_dict_eq_some.mp ht
  rcases canonicalBytes_eq_ok spec.orjson spec.repr ht hbytes with ⟨-, rfl⟩ | ⟨e, -, rfl⟩
  · exact ⟨_, _, spec.orjson.reads, rfl⟩
  · exact ⟨_, _, reads_escapeChar, rfl⟩

theorem jsonText_of_save (spec : DumpSpec cache.lib cache.rt)
    (hsave : cache.save bundle = .ok bytes) : JsonText bytes := by
  obtain ⟨spell, es, hspell, rfl⟩ := save_eq_object spec hsave
  exact jsonText_canonical hspell _

/-- From a part of the file nothing is loaded. -/
theorem load_part (documents : cache.ReadsDocuments) (spec : DumpSpec cache.lib cache.rt)
    (hsave : cache.save bundle = .ok bytes) {part left : PyBytes} (hleft : left ≠ [])
    (hcut : bytes = part ++ left) (clock : ℤ) : cache.load clock (some part) = none := by
  obtain ⟨spell, es, hspell, rfl⟩ := save_eq_object spec hsave
  rw [load, Option.bind_some]
  cases hread : cache.readJson part with
  | error e => rfl
  | ok v => exact absurd (documents part v hread) (not_jsonText_of_cut hspell es hleft hcut)

/-- **Last known-good.** After a stop at any point of a save, the previous bundle or the new
one is loaded if and only if the write of the bundle's file was not under way, and the one that
the file holds is plain or is dumped as the other. -/
theorem returns_iff_not_underWay (documents : cache.ReadsDocuments)
    (reliable : ∀ bytes, cache.save previous = .ok bytes ∨ cache.save bundle = .ok bytes →
      cache.Reliable bytes) {issued' : ℤ} {data' : Value} {savedAt' : PyStr}
    (htimes : cache.KeepsTime previous ∧ cache.KeepsTime bundle)
    (hdistinct : ∀ rule ∈ previous.rules ++ bundle.rules, rule.matchOn.toValue.KeysDistinct)
    (hprevious : cache.lax.modelValidate (PolicyTools.utcNow issued) data = .ok previous)
    (hbundle : cache.lax.modelValidate (PolicyTools.utcNow issued') data' = .ok bundle)
    (hsaved : cache.writes previous savedAt = .ok ops)
    (hstop : cache.writes bundle savedAt' = .ok (done ++ rest))
    (start : Files PyStr (Fin 256)) (clock : ℤ) :
    cache.Returns clock (FileOp.run (FileOp.run start ops) done) previous ∨
        cache.Returns clock (FileOp.run (FileOp.run start ops) done) bundle ↔
      ¬ FileOp.UnderWay bundleFile done rest ∧
        if done = [] then previous.Plain ∨ previous.DumpsTo cache.lib bundle
        else bundle.Plain ∨ bundle.DumpsTo cache.lib previous := by
  obtain ⟨oldBytes, hsave, hops⟩ := writes_eq_ok.mp hsaved
  obtain ⟨newBytes, hsave', hops'⟩ := writes_eq_ok.mp hstop
  have hnew := reliable newBytes (Or.inr hsave')
  rw [List.forall_mem_append] at hdistinct
  by_cases hunderWay : FileOp.UnderWay bundleFile done rest
  · obtain ⟨part, byte, left, hcut, hfile⟩ := FileOp.run_of_underWay (FileOp.run start ops)
      ne_bundleFile_of_meta hops' hunderWay
    have hlost := load_part documents hnew.dumps hsave' (List.cons_ne_nil byte left) hcut clock
    rw [← hfile, ← loadFrom] at hlost
    refine iff_of_false ?_ fun h => h.1 hunderWay
    rintro (⟨loaded, hload, -⟩ | ⟨loaded, hload, -⟩)
    · cases hlost.symm.trans hload
    · cases hlost.symm.trans hload
  · rw [and_iff_right hunderWay]
    split
    · next hdone =>
        subst hdone
        have hfile : FileOp.run start ops bundleFile = some oldBytes := by
          rw [← hops, FileOp.run_append, FileOp.run_of_ne ne_bundleFile_of_meta,
            FileOp.run_rewrite]
        exact returns_saved_iff (reliable oldBytes (Or.inl hsave)) htimes.1 hdistinct.1 hprevious
          hsave hfile bundle
    · next hdone =>
        rw [or_comm]
        exact returns_saved_iff hnew htimes.2 hdistinct.2 hbundle hsave'
          (FileOp.run_of_written (FileOp.run start ops) ne_bundleFile_of_meta hops' hdone
            hunderWay) previous

end Crash

/-! ### One save -/

open PolicyTools

theorem shellCache_readsDocuments : shellCache.ReadsDocuments := by
  intro bytes v hread
  have hbytes : bytes = shellBytes := by
    by_contra hne
    simp [shellCache, hne] at hread
  rw [hbytes]
  exact jsonText_of_save shellCacheReliable.dumps save_shell

theorem writes_shell (savedAt : PyStr) : shellCache.writes shellBundle savedAt =
    .ok (FileOp.rewrite bundleFile shellBytes ++
      FileOp.rewrite metaFile (utf8 (metaText shellBundle savedAt))) :=
  writes_eq_ok.mpr ⟨_, save_shell, rfl⟩

/-- The files after the bundle was saved at this time. -/
def shellFiles (savedAt : PyStr) : Files PyStr (Fin 256) :=
  FileOp.run (fun _ => none) (FileOp.rewrite bundleFile shellBytes ++
    FileOp.rewrite metaFile (utf8 (metaText shellBundle savedAt)))

def shellCacheReliable_of_save (bytes : PyBytes)
    (h : shellCache.save shellBundle = .ok bytes ∨ shellCache.save shellBundle = .ok bytes) :
    shellCache.Reliable bytes := by
  obtain rfl : shellBytes = bytes := Except.ok.inj (save_shell.symm.trans (or_self_iff.mp h))
  exact shellCacheReliable

theorem keepsTime_shell : shellCache.KeepsTime shellBundle := by
  intro t ht
  obtain rfl : utcNow 0 = t := Except.ok.inj ht
  exact PyDatetime.eq_self _

theorem keysDistinct_shell :
    ∀ rule ∈ shellBundle.rules ++ shellBundle.rules, rule.matchOn.toValue.KeysDistinct := by
  intro rule hrule
  obtain rfl : rule = { id := py "no-shell", effect := .deny, matchOn := shellMatch } := by
    simpa [shellBundle] using hrule
  exact shellMatch_keysDistinct

/-- It is saved again, and the process stops between the two files. -/
theorem returns_iff_not_underWay_shell :
    shellCache.Returns 60 (FileOp.run (shellFiles (py "noon"))
          (FileOp.rewrite bundleFile shellBytes)) shellBundle ∨
        shellCache.Returns 60 (FileOp.run (shellFiles (py "noon"))
          (FileOp.rewrite bundleFile shellBytes)) shellBundle := by
  have hstopped : ¬ FileOp.UnderWay bundleFile (FileOp.rewrite bundleFile shellBytes)
      (FileOp.rewrite metaFile (utf8 (metaText shellBundle (py "midnight")))) :=
    fun h => absurd rfl (ne_bundleFile_of_meta _ h.2.choose_spec)
  have hplain : shellBundle.Plain := by
    intro rule hrule
    obtain rfl := List.mem_singleton.mp hrule
    exact shellMatch_isJson
  refine (returns_iff_not_underWay shellCache_readsDocuments shellCacheReliable_of_save
    ⟨keepsTime_shell, keepsTime_shell⟩ keysDistinct_shell valid_shell valid_shell (writes_shell _)
    (writes_shell _) _ 60).mpr ⟨hstopped, ?_⟩
  exact Or.inl hplain

/-- It is saved again, and the process stops once the file is open: the cache had a bundle
and has none. -/
theorem lastKnownGood_lost : ∃ rest,
    shellCache.writes shellBundle (py "noon") =
      .ok ([.truncate bundleFile] ++ rest) ∧
    (shellCache.loadFrom 60 (shellFiles (py "noon"))).isSome = true ∧
    shellCache.loadFrom 60
      (FileOp.run (shellFiles (py "noon")) [.truncate bundleFile]) = none := by
  refine ⟨_, writes_shell _, ?_, ?_⟩
  · have hfile : shellFiles (py "noon") bundleFile = some shellBytes := by
      rw [shellFiles, FileOp.run_append, FileOp.run_of_ne ne_bundleFile_of_meta,
        FileOp.run_rewrite]
    obtain ⟨loaded, hload, -⟩ : ∃ loaded, shellCache.loadFrom 60 (shellFiles (py "noon")) =
        some loaded ∧ _ :=
      loadFrom_saved shellCacheReliable keepsTime_shell valid_shell save_shell hfile
    rw [hload]
    rfl
  · have hfile : FileOp.run (shellFiles (py "noon")) [.truncate bundleFile] bundleFile =
        some [] := FileOp.run_rewrite (shellFiles (py "noon")) bundleFile []
    rw [loadFrom, hfile]
    exact load_part shellCache_readsDocuments shellCacheReliable.dumps save_shell
      (jsonText_of_save shellCacheReliable.dumps save_shell).ne_nil rfl 60

end PolicyCache

end AgentSentinel
