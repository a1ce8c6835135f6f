import AgentSentinel.Lib.Transition
import AgentSentinel.PolicyPac.PinnedMeaning

/-!
# AgentSentinel.PolicyPac.HotReload

Reloading the policy while it is in force. The loader keeps the bundle it has loaded last,
the engine the one it matches against. An attempt reads the file, whatever is in it by then,
and every check comes before the first assignment. So both sides only ever hold bundles whose
signature has been verified, and an attempt that raises leaves both alone.
-/

namespace AgentSentinel

open Lib

/-- Holds the active bundle and supports hot reload. -/
structure PolicyLoader (PK : Type) where
  path : PyStr
  publicKey : Option PK
  bundle : Option BundleDocument := none

namespace PolicyLoader

variable {SK PK : Type} (tools : PolicyTools SK PK) (loader : PolicyLoader PK)

/-- `reload`, with what reading the file gives at the time. -/
def reload (clock : ℤ) (read : Result PyStr) : Result BundleDocument × PolicyLoader PK :=
  match read.bind fun raw => tools.loadBundleFromPath clock loader.path raw loader.publicKey with
  | .error e => (.error e, loader)
  | .ok bundle => (.ok bundle, { loader with bundle := some bundle })

variable {tools} {loader} {clock : ℤ} {read : Result PyStr}

/-- What an attempt has done: nothing, or loaded and kept a bundle. -/
theorem reload_cases (tools : PolicyTools SK PK) (loader : PolicyLoader PK) (clock : ℤ)
    (read : Result PyStr) :
    (∃ e, loader.reload tools clock read = (.error e, loader)) ∨
      ∃ raw bundle, read = .ok raw ∧
        tools.loadBundleFromPath clock loader.path raw loader.publicKey = .ok bundle ∧
        loader.reload tools clock read = (.ok bundle, { loader with bundle := some bundle }) := by
  unfold reload
  cases hload : read.bind fun raw =>
      tools.loadBundleFromPath clock loader.path raw loader.publicKey with
  | error e => exact Or.inl ⟨e, rfl⟩
  | ok bundle =>
      obtain ⟨raw, hraw, hbundle⟩ := bind_eq_ok.mp hload
      exact Or.inr ⟨raw, bundle, hraw, hbundle, rfl⟩

end PolicyLoader

/-- The loader, the bundle the engine matches against, and the bundles that attempts have
returned and that are still to be installed. -/
structure PolicyServing (PK : Type) where
  loader : PolicyLoader PK
  active : BundleDocument
  returned : List BundleDocument

inductive ReloadEvent
  /-- An attempt to reload, and what reading the file gives. -/
  | attempt (clock : ℤ) (read : Result PyStr)
  /-- `replace_bundle` with what attempt `i` of those pending has returned. -/
  | replaceBundle (i : ℕ)

namespace PolicyServing

open PolicyTools

variable {SK PK : Type} (tools : PolicyTools SK PK)

def step (s : PolicyServing PK) : ReloadEvent → Option (PolicyServing PK)
  | .attempt clock read =>
    match s.loader.reload tools clock read with
    | (.error _, loader) => some { s with loader }
    | (.ok bundle, loader) => some { s with loader, returned := s.returned ++ [bundle] }
  | .replaceBundle i => s.returned[i]?.map fun bundle =>
    { s with active := bundle, returned := s.returned.eraseIdx i }

/-- A first load under the key has succeeded, and its bundle is in force. -/
def Started (publicKey : PK) (s : PolicyServing PK) : Prop :=
  ∃ path clock read bundle,
    (⟨path, some publicKey, none⟩ : PolicyLoader PK).reload tools clock read =
      (.ok bundle, s.loader) ∧ s.active = bundle ∧ s.returned = []

/-- All runs under the key. -/
def runs (publicKey : PK) : TransitionSystem (PolicyServing PK) ReloadEvent where
  init := Started tools publicKey
  step s e s' := s.step tools e = some s'

/-- The bundle has been read from a mapping with a signature in it that verifies. -/
def Verified (publicKey : PK) (bundle : BundleDocument) : Prop :=
  ∃ clock es sig payload,
    tools.lax.modelValidate (utcNow clock) (.dict (popEntries es (py "signature"))) =
      .ok bundle ∧
    b64decode ((Value.lookupStr es (py "signature")).getD .none) = .ok sig ∧
    tools.payload bundle = .ok payload ∧ Crypto.verify tools.lib publicKey sig payload = true

variable {tools} {publicKey : PK} {s s' : PolicyServing PK}

/-- A bundle that is loaded under a key is verified. -/
theorem verified_of_load {clock : ℤ} {path raw : PyStr} {bundle : BundleDocument}
    (h : tools.loadBundleFromPath clock path raw (some publicKey) = .ok bundle) :
    Verified tools publicKey bundle := by
  obtain ⟨es, -, hvalidate, hcheck⟩ := (loadBundleFromPath_eq_ok tools).mp h
  obtain ⟨sig, payload, hverified⟩ := verified_of_checkSignature hcheck
  exact ⟨clock, es, sig, payload, hvalidate, hverified⟩

/-- Every bundle in sight is verified. -/
structure AllVerified (tools : PolicyTools SK PK) (publicKey : PK) (s : PolicyServing PK) :
    Prop where
  key : s.loader.publicKey = some publicKey
  loader : ∃ bundle, s.loader.bundle = some bundle ∧ Verified tools publicKey bundle
  active : Verified tools publicKey s.active
  returned : ∀ bundle ∈ s.returned, Verified tools publicKey bundle

theorem AllVerified.of_started (h : Started tools publicKey s) : AllVerified tools publicKey s := by
  obtain ⟨path, clock, read, bundle, hload, hactive, hnone⟩ := h
  rcases PolicyLoader.reload_cases tools ⟨path, some publicKey, none⟩ clock read with
    ⟨e, herror⟩ | ⟨raw, loaded, -, hloaded, hok⟩
  · rw [herror] at hload
    cases hload
  · rw [hok, Prod.mk.injEq, Except.ok.injEq] at hload
    obtain ⟨rfl, hloader⟩ := hload
    have hverified := verified_of_load hloaded
    exact ⟨hloader ▸ rfl, ⟨loaded, hloader ▸ rfl, hverified⟩, hactive ▸ hverified, by simp [hnone]⟩

theorem AllVerified.step {e : ReloadEvent} (h : AllVerified tools publicKey s)
    (hstep : s.step tools e = some s') : AllVerified tools publicKey s' := by
  obtain ⟨hkey, hloader, hactive, hreturned⟩ := h
  cases e with
  | attempt clock read =>
      rcases PolicyLoader.reload_cases tools s.loader clock read with
        ⟨e, herror⟩ | ⟨raw, bundle, -, hloaded, hok⟩
      · simp only [PolicyServing.step, herror, Option.some.injEq] at hstep
        obtain rfl := hstep
        exact ⟨hkey, hloader, hactive, hreturned⟩
      · simp only [PolicyServing.step, hok, Option.some.injEq] at hstep
        obtain rfl := hstep
        have hverified := verified_of_load (hkey ▸ hloaded)
        refine ⟨hkey, ⟨bundle, rfl, hverified⟩, hactive, fun b hb => ?_⟩
        rcases List.mem_append.mp hb with hb | hb
        · exact hreturned b hb
        · exact List.mem_singleton.mp hb ▸ hverified
  | replaceBundle i =>
      obtain ⟨bundle, hbundle, rfl⟩ := Option.map_eq_some_iff.mp hstep
      refine ⟨hkey, hloader, hreturned _ (List.mem_of_getElem? hbundle), fun b hb => ?_⟩
      exact hreturned b (List.mem_of_mem_eraseIdx hb)

/-- **Hot reload.** In every run of attempts and installations, on whatever the file holds,
the loader and the engine have bundles whose signature has been verified, and an attempt that
raises changes neither. -/
theorem hot_reload_verified (tools : PolicyTools SK PK) (publicKey : PK)
    (h : (runs tools publicKey).Reachable s) :
    (∃ bundle, s.loader.bundle = some bundle ∧ Verified tools publicKey bundle) ∧
      Verified tools publicKey s.active ∧
      ∀ clock read e, (s.loader.reload tools clock read).1 = .error e →
        s.step tools (.attempt clock read) = some s := by
  have hall : AllVerified tools publicKey s :=
    h.invariant (fun _ => AllVerified.of_started) fun _ _ _ _ => AllVerified.step
  refine ⟨hall.loader, hall.active, fun clock read e herror => ?_⟩
  rcases PolicyLoader.reload_cases tools s.loader clock read with ⟨e', hr⟩ | ⟨_, _, -, -, hr⟩
  · simp only [PolicyServing.step, hr]
  · rw [hr] at herror
    cases herror

/-- A signed file with the bundle that keeps agents off the shell is in force. -/
def served : PolicyServing PyBytes where
  loader := ⟨py "signed.yaml", some [], some shellBundle⟩
  active := shellBundle
  returned := []

/-- The file is away, it is back and loaded, what was loaded is installed, and it is loaded once
more. -/
def reloads : List ReloadEvent :=
  [.attempt 60 (.error ⟨.other (py "FileNotFoundError"), py "signed.yaml"⟩),
    .attempt 60 (.ok (toolYaml (py "shell"))), .replaceBundle 0,
    .attempt 60 (.ok (toolYaml (py "shell")))]

theorem reload_served (bundle : Option BundleDocument) :
    (⟨py "signed.yaml", some [], bundle⟩ : PolicyLoader PyBytes).reload
        (toolTools (py "shell") (.str (py "shell"))) 60 (.ok (toolYaml (py "shell"))) =
      (.ok shellBundle, served.loader) := by
  have hload : (toolTools (py "shell") (.str (py "shell"))).loadBundleFromPath 60
      (py "signed.yaml") (toolYaml (py "shell")) (some []) = .ok shellBundle :=
    loadBundleFromPath_signed payload_tool
  rw [PolicyLoader.reload, Except.bind, hload]
  rfl

theorem run_reloads : reloads.foldlM (step (toolTools (py "shell") (.str (py "shell")))) served =
    some ⟨served.loader, shellBundle, [shellBundle]⟩ := by
  have hattempt (returned : List BundleDocument) :
      step (toolTools (py "shell") (.str (py "shell"))) ⟨served.loader, shellBundle, returned⟩
          (.attempt 60 (.ok (toolYaml (py "shell")))) =
        some ⟨served.loader, shellBundle, returned ++ [shellBundle]⟩ := by
    simp only [step, served, reload_served]
  have hserved : served = ⟨served.loader, shellBundle, []⟩ := rfl
  rw [reloads, List.foldlM_cons]
  refine Option.bind_eq_some_iff.mpr ⟨served, rfl, ?_⟩
  rw [List.foldlM_cons, hserved, hattempt []]
  rw [Option.bind_eq_bind, Option.bind_some, List.foldlM_cons]
  refine Option.bind_eq_some_iff.mpr ⟨⟨served.loader, shellBundle, []⟩, rfl, ?_⟩
  rw [List.foldlM_cons, hattempt []]
  rfl

/-- After these, what is in force and what is to be installed is verified. -/
theorem hot_reload_verified_shell : ∃ s,
    reloads.foldlM (step (toolTools (py "shell") (.str (py "shell")))) served = some s ∧
      (∃ bundle, s.loader.bundle = some bundle ∧
        Verified (toolTools (py "shell") (.str (py "shell"))) [] bundle) ∧
      Verified (toolTools (py "shell") (.str (py "shell"))) [] s.active ∧
      ∀ clock read e,
        (s.loader.reload (toolTools (py "shell") (.str (py "shell"))) clock
          read).1 = .error e →
        s.step (toolTools (py "shell") (.str (py "shell"))) (.attempt clock read) = some s := by
  have hstarted : Started (toolTools (py "shell") (.str (py "shell"))) [] served :=
    ⟨py "signed.yaml", 60, .ok (toolYaml (py "shell")), shellBundle, reload_served none, rfl, rfl⟩
  exact ⟨_, run_reloads, hot_reload_verified _ []
    (.replay (fun _ _ _ h => h) (.init hstarted) reloads run_reloads)⟩

end PolicyServing

end AgentSentinel
