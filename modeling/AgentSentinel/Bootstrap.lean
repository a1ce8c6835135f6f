import AgentSentinel.Core.CacheCrash
import AgentSentinel.Lib.LastKnownGood
import AgentSentinel.PolicyPac.HotReload

/-!
# AgentSentinel.Bootstrap

Starting the process over and over. Every start loads the policy file and saves its bundle to
the cache. Where one of the two fails it falls back to the cache, whatever the reason: also
where the file is fine and cannot be saved.

Saving fails on a full disk, and after the file has been opened the bundle that was in it is
gone. So a start decides by its own file, or by the bundle that was written last, as it is read
back; and it fails if there has never been one, or if that one was not written to its end.
-/

namespace AgentSentinel

open Lib

/-- What the process finds at every start: the libraries, and how the cache's file is read. -/
structure Deployment (SK PK : Type) where
  tools : PolicyTools SK PK
  readJson : PyBytes → Result Value

/-- What differs from start to start: the path in the environment, what reading that file
gives, the clocks, and whether saving is broken off, after how many of its steps and with what
exception. -/
structure ProcessStart where
  path : PyStr
  read : Result PyStr
  clock : ℤ
  cacheClock : ℤ
  savedAt : PyStr
  fault : Option (ℕ × PyExc)

namespace Deployment

variable {SK PK : Type} (deployment : Deployment SK PK) (files : Files PyStr (Fin 256))
  (s : ProcessStart)

def cache : PolicyCache SK PK where
  lib := deployment.tools.lib
  rt := deployment.tools.rt
  lax := deployment.tools.lax
  readJson := deployment.readJson

/-- `loader.load()`. No public key is configured. -/
def load : Result BundleDocument :=
  ((⟨s.path, none, none⟩ : PolicyLoader PK).reload deployment.tools s.clock s.read).1

/-- The fallback to the cache after an exception, which is raised again if there is nothing. -/
def fallBack (e : PyExc) : Result BundleDocument × Files PyStr (Fin 256) :=
  match deployment.cache.loadFrom s.cacheClock files with
  | none => (.error e, files)
  | some cached => (.ok cached, files)

/-- `cache.save(bundle)`, with the files it leaves. -/
def save (bundle : BundleDocument) : Result Unit × Files PyStr (Fin 256) :=
  match deployment.cache.writes bundle s.savedAt with
  | .error e => (.error e, files)
  | .ok ops =>
    match s.fault with
    | none => (.ok (), FileOp.run files ops)
    | some (steps, e) => (.error e, FileOp.run files (ops.take steps))

/-- The policy of `build_default_interceptor`, and the files it leaves in the directory of the
cache. -/
def buildDefaultInterceptor : Result BundleDocument × Files PyStr (Fin 256) :=
  match deployment.load s with
  | .error e => deployment.fallBack files s e
  | .ok bundle =>
    match deployment.save files s bundle with
    | (.error e, files) => deployment.fallBack files s e
    | (.ok _, files) => (.ok bundle, files)

/-- The files after starts of a new deployment. -/
def filesAfter (starts : List ProcessStart) : Files PyStr (Fin 256) :=
  starts.foldl (fun files s => (deployment.buildDefaultInterceptor files s).2) fun _ => none

/-! ### What it is for -/

/-- The bundle that a start loads and goes on to save, with the bytes of the cache's file. -/
def dumped : Option (BundleDocument × PyBytes) :=
  match deployment.load s with
  | .error _ => none
  | .ok bundle => (deployment.cache.save bundle).toOption.map fun bytes => (bundle, bytes)

/-- What saving a bundle writes to the cache's file, with the bundle if that is all of it. The
first step opens the file. -/
def leaves (bundle : BundleDocument) (bytes : PyBytes) : Option (Option BundleDocument × PyBytes) :=
  match s.fault with
  | none => some (some bundle, bytes)
  | some (0, _) => none
  | some (steps + 1, _) =>
    some (if bytes.length ≤ steps then some bundle else none, bytes.take steps)

/-- The deployment as a source in front of a store. -/
def lastKnownGood : LastKnownGood ProcessStart BundleDocument PyBytes where
  fresh s := if s.fault.isSome then none else (deployment.dumped s).map Prod.fst
  stores s := (deployment.dumped s).bind fun d => leaves s d.1 d.2
  read s bytes := deployment.cache.load s.cacheClock (some bytes)

/-- The bundle is the other one with its time and its rules read back, and says the same of
every action if no check tells a value from what it is read back as. -/
def ReadBackOf (mode : JsonMode) (known bundle : BundleDocument) : Prop :=
  (∃ issuedAt rs, bundle = { known with issuedAt, rules := rs } ∧
    List.Forall₂ (RuleDocument.ReadBack deployment.tools.lib) known.rules rs) ∧
  (deployment.cache.Survives mode known → ∀ action identity factors,
    (⟨known.toBundle⟩ : PolicyEngine).outcome deployment.tools.rt action identity factors =
      (⟨bundle.toBundle⟩ : PolicyEngine).outcome deployment.tools.rt action identity factors)

variable {deployment} {files} {s} {starts : List ProcessStart} {bundle : BundleDocument}
  {bytes : PyBytes}

theorem dumped_eq_some : deployment.dumped s = some (bundle, bytes) ↔
    deployment.load s = .ok bundle ∧ deployment.cache.save bundle = .ok bytes := by
  unfold dumped
  cases deployment.load s with
  | error e => simp
  | ok loaded =>
      simp only [Except.ok.injEq]
      constructor
      · intro h
        obtain ⟨saved, hsaved, hpair⟩ := Option.map_eq_some_iff.mp h
        obtain ⟨rfl, rfl⟩ := Prod.mk.inj hpair
        refine ⟨rfl, ?_⟩
        cases hsave : deployment.cache.save loaded with
        | error e => simp [hsave, Except.toOption] at hsaved
        | ok found => simpa [hsave, Except.toOption] using hsaved
      · intro h
        obtain ⟨rfl, hsave⟩ := h
        simp [hsave, Except.toOption]

theorem fallBack_eq (e : PyExc) :
    (deployment.fallBack files s e).1.toOption = deployment.cache.loadFrom s.cacheClock files ∧
      (deployment.fallBack files s e).2 = files := by
  unfold fallBack
  cases deployment.cache.loadFrom s.cacheClock files <;> exact ⟨rfl, rfl⟩

/-- What a save leaves in the cache's file. -/
theorem save_bundleFile (hsave : deployment.cache.save bundle = .ok bytes)
    (files : Files PyStr (Fin 256)) :
    ((deployment.save files s bundle).1 = s.fault.elim (.ok ()) fun fault => .error fault.2) ∧
      (deployment.save files s bundle).2 PolicyCache.bundleFile =
        ((leaves s bundle bytes).map Prod.snd).or (files PolicyCache.bundleFile) := by
  have hwrites := PolicyCache.writes_eq_ok.mpr
    (⟨bytes, hsave, rfl⟩ : ∃ bytes, deployment.cache.save bundle = .ok bytes ∧
      FileOp.rewrite PolicyCache.bundleFile bytes ++ FileOp.rewrite PolicyCache.metaFile
        (utf8 (PolicyCache.metaText bundle s.savedAt)) = _)
  unfold save leaves
  rw [hwrites]
  cases s.fault with
  | none =>
      refine ⟨rfl, ?_⟩
      simp only [Option.map_some, Option.some_or]
      rw [FileOp.run_append, FileOp.run_of_ne PolicyCache.ne_bundleFile_of_meta,
        FileOp.run_rewrite]
  | some fault =>
      obtain ⟨steps, e⟩ := fault
      refine ⟨rfl, ?_⟩
      cases steps with
      | zero => rfl
      | succ steps =>
          exact FileOp.run_take files PolicyCache.ne_bundleFile_of_meta steps

/-- What a start serves, and the file of the cache after it. -/
def seen (outcome : Result BundleDocument × Files PyStr (Fin 256)) :
    Option BundleDocument × Option PyBytes :=
  (outcome.1.toOption, outcome.2 PolicyCache.bundleFile)

/-- **One start** serves and stores what the deployment is meant to. -/
theorem seen_buildDefaultInterceptor (deployment : Deployment SK PK)
    (files : Files PyStr (Fin 256)) (s : ProcessStart) :
    seen (deployment.buildDefaultInterceptor files s) =
      deployment.lastKnownGood.serve (files PolicyCache.bundleFile) s := by
  have hstale (files : Files PyStr (Fin 256)) (e : PyExc) :
      seen (deployment.fallBack files s e) =
        (deployment.cache.loadFrom s.cacheClock files, files PolicyCache.bundleFile) := by
    rw [seen, (fallBack_eq e).1, (fallBack_eq e).2]
  -- Without a bundle to save the store stays as it is.
  have hkept (h : deployment.dumped s = none) :
      deployment.lastKnownGood.serve (files PolicyCache.bundleFile) s =
        (deployment.cache.loadFrom s.cacheClock files, files PolicyCache.bundleFile) := by
    simp only [LastKnownGood.serve, lastKnownGood, h, Option.map_none, Option.bind_none, ite_self,
      Option.none_or]
    rfl
  unfold buildDefaultInterceptor
  cases hload : deployment.load s with
  | error e => rw [hkept (by simp only [dumped, hload]), ← hstale files e]
  | ok bundle =>
      cases hsave : deployment.cache.save bundle with
      | error e =>
          rw [hkept (by simp [dumped, hload, hsave, Except.toOption]), ← hstale files e]
          simp only [save, PolicyCache.writes, hsave, bind, Except.bind]
      | ok bytes =>
          have hdumped := dumped_eq_some.mpr ⟨hload, hsave⟩
          obtain ⟨hresult, hfile⟩ := save_bundleFile (s := s) hsave files
          simp only [LastKnownGood.serve, lastKnownGood, hdumped, Option.bind_some,
            Option.map_some, ← hfile]
          generalize deployment.save files s bundle = saved at hresult ⊢
          obtain ⟨result, files'⟩ := saved
          cases hfault : s.fault with
          | none =>
              simp only [hfault, Option.elim_none] at hresult
              rw [hresult]
              rfl
          | some fault =>
              simp only [hfault, Option.elim_some] at hresult
              rw [hresult, hstale files' fault.2]
              rfl

theorem filesAfter_bundleFile (starts : List ProcessStart) :
    deployment.filesAfter starts PolicyCache.bundleFile =
      deployment.lastKnownGood.after starts := by
  induction starts using List.reverseRecOn with
  | nil => rfl
  | append_singleton starts s ih =>
    rw [LastKnownGood.after_concat, ← ih, ← seen_buildDefaultInterceptor, filesAfter,
      List.foldl_append]
    rfl

/-- A bundle that is loaded has been validated. -/
theorem validated_of_load (h : deployment.load s = .ok bundle) : ∃ data,
    deployment.tools.lax.modelValidate (PolicyTools.utcNow s.clock) data = .ok bundle := by
  rcases PolicyLoader.reload_cases deployment.tools ⟨s.path, none, none⟩ s.clock s.read with
    ⟨e, herror⟩ | ⟨raw, loaded, -, hloaded, hok⟩
  · rw [load, herror] at h
    cases h
  · rw [load, hok] at h
    obtain rfl := Except.ok.inj h
    obtain ⟨data, -, hdata⟩ := bind_eq_ok.mp hloaded
    split at hdata
    · obtain ⟨validated, hvalidated, hrest⟩ := bind_eq_ok.mp hdata
      obtain ⟨-, -, hsame⟩ := bind_eq_ok.mp hrest
      obtain rfl := Except.ok.inj hsame
      exact ⟨_, hvalidated⟩
    · cases hdata

/-- What is written is a bundle that was loaded, all of its bytes or a part of them. -/
theorem stores_cases {known : Option BundleDocument}
    (h : deployment.lastKnownGood.stores s = some (known, bytes)) :
    ∃ bundle whole, deployment.dumped s = some (bundle, whole) ∧
      ((known = some bundle ∧ bytes = whole) ∨
        (known = none ∧ ∃ left, left ≠ [] ∧ whole = bytes ++ left)) := by
  obtain ⟨⟨bundle, whole⟩, hdumped, hleaves⟩ := Option.bind_eq_some_iff.mp h
  refine ⟨bundle, whole, hdumped, ?_⟩
  unfold leaves at hleaves
  split at hleaves
  · obtain ⟨rfl, rfl⟩ := Prod.mk.inj (Option.some.inj hleaves)
    exact Or.inl ⟨rfl, rfl⟩
  · cases hleaves
  · next steps _ _ =>
      obtain ⟨rfl, rfl⟩ := Prod.mk.inj (Option.some.inj hleaves)
      by_cases hlength : whole.length ≤ steps
      · rw [if_pos hlength, List.take_of_length_le hlength]
        exact Or.inl ⟨rfl, rfl⟩
      · rw [if_neg hlength]
        refine Or.inr ⟨rfl, whole.drop steps, ?_, (List.take_append_drop steps whole).symm⟩
        rw [Ne, List.drop_eq_nil_iff]
        exact hlength

/-- The exception with which loading or saving has failed. -/
def Failed (deployment : Deployment SK PK) (files : Files PyStr (Fin 256)) (s : ProcessStart)
    (e : PyExc) : Prop :=
  deployment.load s = .error e ∨
    ∃ bundle, deployment.load s = .ok bundle ∧ (deployment.save files s bundle).1 = .error e

/-- What a start comes to, after earlier ones. -/
inductive Outcome (deployment : Deployment SK PK) (mode : JsonMode) (starts : List ProcessStart)
    (s : ProcessStart) : Result BundleDocument → Prop
  /-- Its own bundle, which is saved. -/
  | own {bundle : BundleDocument} (hload : deployment.load s = .ok bundle)
      (hsave : (deployment.save (deployment.filesAfter starts) s bundle).1 = .ok ()) :
      Outcome deployment mode starts s (.ok bundle)
  /-- The bundle that was written last. -/
  | known {last bundle : BundleDocument} {e : PyExc}
      (hfailed : deployment.Failed (deployment.filesAfter starts) s e)
      (hlast : deployment.lastKnownGood.known (starts ++ [s]) = some last)
      (hread : deployment.ReadBackOf mode last bundle) :
      Outcome deployment mode starts s (.ok bundle)
  /-- None: no bundle has ever been written, or the last one not to its end. -/
  | nothing {e : PyExc} (hfailed : deployment.Failed (deployment.filesAfter starts) s e)
      (hlast : deployment.lastKnownGood.known (starts ++ [s]) = none) :
      Outcome deployment mode starts s (.error e)

/-- A start serves its own bundle or falls back. -/
theorem build_cases (deployment : Deployment SK PK) (files : Files PyStr (Fin 256))
    (s : ProcessStart) :
    (∃ bundle, deployment.load s = .ok bundle ∧ (deployment.save files s bundle).1 = .ok () ∧
        (deployment.buildDefaultInterceptor files s).1 = .ok bundle) ∨
      ∃ e files', deployment.Failed files s e ∧
        deployment.buildDefaultInterceptor files s = deployment.fallBack files' s e := by
  unfold buildDefaultInterceptor
  cases hload : deployment.load s with
  | error e => exact Or.inr ⟨e, files, Or.inl hload, rfl⟩
  | ok bundle =>
      cases hsave : deployment.save files s bundle with
      | mk result files' =>
          cases result with
          | error e =>
              exact Or.inr ⟨e, files', Or.inr ⟨bundle, hload, by rw [hsave]⟩, by simp [hsave]⟩
          | ok _ => exact Or.inl ⟨bundle, rfl, by rw [hsave], by simp [hsave]⟩

section Starts

variable {mode : JsonMode} (documents : deployment.cache.ReadsDocuments)
  (reliable : ∀ t ∈ starts, ∀ bundle bytes, deployment.dumped t = some (bundle, bytes) →
    ∃ r : deployment.cache.Reliable bytes, r.dumps.mode = mode)

include reliable in
/-- The bundle that was written last is read back, if it was written to its end. -/
theorem load_of_known {last : BundleDocument}
    (hlast : deployment.lastKnownGood.known starts = some last) (clock : ℤ) :
    ∃ bundle, deployment.cache.load clock (deployment.lastKnownGood.after starts) = some bundle ∧
      deployment.ReadBackOf mode last bundle := by
  obtain ⟨⟨known, bytes⟩, hlatest, rfl⟩ := Option.bind_eq_some_iff.mp hlast
  obtain ⟨t, ht, hstores⟩ := LastKnownGood.stores_of_latest hlatest
  obtain ⟨bundle, whole, hdumped, hcases⟩ := stores_cases hstores
  rcases hcases with ⟨hknown, rfl⟩ | ⟨hknown, -⟩
  · obtain rfl := Option.some.inj hknown
    obtain ⟨r, rfl⟩ := reliable t ht last bytes hdumped
    obtain ⟨hload, hsave⟩ := dumped_eq_some.mp hdumped
    obtain ⟨data, hvalid⟩ := validated_of_load hload
    obtain ⟨issuedAt, rs, -, hrs, hloaded⟩ := PolicyCache.load_saved r clock hvalid hsave
    rw [LastKnownGood.after_eq, hlatest]
    exact ⟨_, hloaded, ⟨issuedAt, rs, rfl, hrs⟩, fun hsurvives =>
      PolicyCache.outcome_readBack r.dumps hsurvives issuedAt hrs⟩
  · cases hknown

include documents reliable in
/-- From nothing, or from a part of a bundle, nothing is read. -/
theorem load_of_unknown (hlast : deployment.lastKnownGood.known starts = none) (clock : ℤ) :
    deployment.cache.load clock (deployment.lastKnownGood.after starts) = none := by
  rw [LastKnownGood.after_eq]
  cases hlatest : deployment.lastKnownGood.latest starts with
  | none => rfl
  | some stored =>
      obtain ⟨known, bytes⟩ := stored
      obtain rfl : known = none := by simpa [LastKnownGood.known, hlatest] using hlast
      obtain ⟨t, ht, hstores⟩ := LastKnownGood.stores_of_latest hlatest
      obtain ⟨bundle, whole, hdumped, hcases⟩ := stores_cases hstores
      rcases hcases with ⟨hknown, -⟩ | ⟨-, left, hleft, hcut⟩
      · cases hknown
      · obtain ⟨r, -⟩ := reliable t ht bundle whole hdumped
        exact PolicyCache.load_part documents r.dumps (dumped_eq_some.mp hdumped).2 hleft hcut clock

end Starts

/-- **Last known-good, over starts.** A start of a deployment that began without a cache runs
the bundle of its own file if that can be saved. Otherwise it runs the bundle that was written
last, and it fails only if there has never been one or it was not written to its end. -/
theorem outcome_of_starts {mode : JsonMode} (documents : deployment.cache.ReadsDocuments)
    (s : ProcessStart)
    (reliable : ∀ t ∈ starts ++ [s], ∀ bundle bytes,
      deployment.dumped t = some (bundle, bytes) →
        ∃ r : deployment.cache.Reliable bytes, r.dumps.mode = mode) :
    deployment.Outcome mode starts s
      (deployment.buildDefaultInterceptor (deployment.filesAfter starts) s).1 := by
  rcases deployment.build_cases (deployment.filesAfter starts) s with
    ⟨bundle, hload, hsave, hbuild⟩ | ⟨e, files, hfailed, hbuild⟩
  · rw [hbuild]
    exact .own hload hsave
  · -- What the start falls back to are the files after it.
    have hafter : deployment.filesAfter (starts ++ [s]) = files := by
      rw [filesAfter, List.foldl_append, ← filesAfter]
      simp only [List.foldl_cons, List.foldl_nil, hbuild, (fallBack_eq e).2]
    have hfile : files PolicyCache.bundleFile = deployment.lastKnownGood.after (starts ++ [s]) := by
      rw [← hafter, filesAfter_bundleFile]
    rw [hbuild, fallBack, PolicyCache.loadFrom, hfile]
    cases hlast : deployment.lastKnownGood.known (starts ++ [s]) with
    | none =>
        rw [load_of_unknown documents reliable hlast]
        exact .nothing hfailed hlast
    | some last =>
        obtain ⟨bundle, hload, hread⟩ := load_of_known reliable hlast s.cacheClock
        rw [hload]
        exact .known hfailed hlast hread

/-! ### A deployment whose file is lost -/

open PolicyTools PolicyCache

def shellDeployment : Deployment PyBytes PyBytes where
  tools := { shellTools with lib := sealedSigning }
  readJson := shellCache.readJson

/-- A start with the file there, one without, and one on a full disk. -/
def firstStart : ProcessStart := ⟨py "shell.json", .ok shellText, 0, 0, py "noon", none⟩

def secondStart : ProcessStart :=
  { firstStart with read := .error ⟨.other (py "FileNotFoundError"), py "shell.json"⟩ }

def fullDisk : ProcessStart :=
  { firstStart with fault := some (1, ⟨.other (py "OSError"), py "No space left on device"⟩) }

theorem load_firstStart : shellDeployment.load firstStart = .ok shellBundle := by
  -- The mapping has no signature to take out.
  have hpop (v w : Value) : popEntries [(.str (py "version"), v), (.str (py "rules"), w)]
      (py "signature") = [(.str (py "version"), v), (.str (py "rules"), w)] := by
    rw [popEntries_str, if_neg (by decide), popEntries_str, if_neg (by decide)]
    rfl
  have hload : shellDeployment.tools.loadBundleFromPath 0 (py "shell.json") shellText none =
      .ok shellBundle := by
    have hdata : shellDeployment.tools.files.load (isYamlPath (py "shell.json")) shellText =
        .ok shellData := rfl
    simp only [loadBundleFromPath, hdata, bind, Except.bind, shellData, bundleOf, hpop]
    rfl
  simp only [load, PolicyLoader.reload, firstStart, Except.bind, hload]

/-- All of them save this bundle or none. -/
theorem dumped_shell {t : ProcessStart} (ht : t ∈ [firstStart, fullDisk, secondStart])
    {bundle : BundleDocument} {bytes : PyBytes}
    (hdumped : shellDeployment.dumped t = some (bundle, bytes)) : bytes = shellBytes := by
  obtain ⟨hload, hsave⟩ := dumped_eq_some.mp hdumped
  have hload' : shellDeployment.load t = .ok shellBundle ∨
      ∃ e, shellDeployment.load t = .error e := by
    simp only [List.mem_cons, List.not_mem_nil, or_false] at ht
    rcases ht with rfl | rfl | rfl
    · exact Or.inl load_firstStart
    · exact Or.inl load_firstStart
    · exact Or.inr ⟨_, rfl⟩
  rcases hload' with hshell | ⟨e, herror⟩
  · obtain rfl := Except.ok.inj (hshell.symm.trans hload)
    exact (Except.ok.inj (save_shell.symm.trans hsave)).symm
  · cases herror.symm.trans hload

/-- The bundle of the first start is there for the second one, and gone after a start that could
not save it again. -/
theorem outcome_of_starts_shell : ∃ mode, shellDeployment.Outcome mode [firstStart] secondStart
      (shellDeployment.buildDefaultInterceptor (shellDeployment.filesAfter [firstStart])
        secondStart).1 ∧
    shellDeployment.Outcome mode [firstStart, fullDisk] secondStart
      (shellDeployment.buildDefaultInterceptor (shellDeployment.filesAfter [firstStart, fullDisk])
        secondStart).1 := by
  have documents : shellDeployment.cache.ReadsDocuments := shellCache_readsDocuments
  have hsub : [firstStart, secondStart] ⊆ [firstStart, fullDisk, secondStart] :=
    List.cons_subset_cons _ (List.subset_cons_self _ _)
  refine ⟨shellCacheReliable.dumps.mode, outcome_of_starts documents secondStart ?_,
    outcome_of_starts documents secondStart ?_⟩
  · intro t ht bundle bytes hdumped
    obtain rfl := dumped_shell (hsub ht) hdumped
    exact ⟨shellCacheReliable, rfl⟩
  · intro t ht bundle bytes hdumped
    obtain rfl := dumped_shell ht hdumped
    exact ⟨shellCacheReliable, rfl⟩

end Deployment

end AgentSentinel
