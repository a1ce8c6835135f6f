import Mathlib.Data.List.Basic

/-!
# AgentSentinel.Lib.Noninterference

Servers and their runs: what holds along a run, what stays as it is until its end, and
noninterference.

Noninterference is about a server that answers one input after the other. Two runs
whose inputs differ only in hidden ones must give the same answers to the visible
ones. The proof is by *unwinding*: a relation between the states of the two runs
that no hidden input can break and under which a visible input gets the same
answer in both.

Where a server interferes only by some of its inputs, the unwinding conditions are
asked of the inputs that meet a condition `G` in the state they come to, and the
theorem speaks of runs all of whose inputs do.
-/

namespace AgentSentinel.Lib

/-- What a server answers to an input in a state, and the state it goes to. -/
abbrev Server (σ ι ω : Type*) := σ → ι → ω × σ

namespace Server

variable {σ ι ω : Type*}

/-- The inputs of a run, each with its answer. -/
def answers (serve : Server σ ι ω) (s : σ) : List ι → List (ι × ω)
  | [] => []
  | i :: is => (i, (serve s i).1) :: serve.answers (serve s i).2 is

/-- Every input of the run meets `G` in the state it comes to. -/
def Along (serve : Server σ ι ω) (G : σ → ι → Prop) (s : σ) : List ι → Prop
  | [] => True
  | i :: is => G s i ∧ serve.Along G (serve s i).2 is

/-- The state a run ends in. -/
def after (serve : Server σ ι ω) (s : σ) (is : List ι) : σ :=
  is.foldl (fun s i => (serve s i).2) s

/-- The visible part of a run. -/
def observed (serve : Server σ ι ω) (visible : ι → Bool) (s : σ) (is : List ι) : List (ι × ω) :=
  (serve.answers s is).filter fun a => visible a.1

/-- The unwinding conditions. -/
structure Unwinds (serve : Server σ ι ω) (visible : ι → Bool) (G : σ → ι → Prop)
    (R : σ → σ → Prop) : Prop where
  symm : ∀ {s t}, R s t → R t s
  hidden : ∀ {s t i}, R s t → visible i = false → G s i → R (serve s i).2 t
  answer : ∀ {s t i}, R s t → visible i = true → G s i → G t i → (serve s i).1 = (serve t i).1
  step : ∀ {s t i}, R s t → visible i = true → G s i → G t i → R (serve s i).2 (serve t i).2

variable {serve : Server σ ι ω} {visible : ι → Bool} {G : σ → ι → Prop} {R : σ → σ → Prop}
  {s t : σ}

@[simp] theorem after_nil : serve.after s [] = s := rfl

@[simp] theorem after_cons {i : ι} {is : List ι} :
    serve.after s (i :: is) = serve.after (serve s i).2 is := rfl

theorem after_append {is js : List ι} :
    serve.after s (is ++ js) = serve.after (serve.after s is) js := List.foldl_append

theorem answers_append {is js : List ι} : serve.answers s (is ++ js) =
    serve.answers s is ++ serve.answers (serve.after s is) js := by
  induction is generalizing s with
  | nil => rfl
  | cons i is ih => simp [answers, ih]

/-- A condition met along a run is met along its first part and, from where that part
ends, along the rest. -/
theorem along_append {is js : List ι} :
    serve.Along G s (is ++ js) ↔ serve.Along G s is ∧ serve.Along G (serve.after s is) js := by
  induction is generalizing s with
  | nil => simp [Along]
  | cons i is ih => simp [Along, ih, and_assoc]

theorem Along.imp {H : σ → ι → Prop} {is : List ι} (h : serve.Along G s is)
    (himp : ∀ s i, G s i → H s i) : serve.Along H s is := by
  induction is generalizing s with
  | nil => trivial
  | cons i is ih => exact ⟨himp s i h.1, ih h.2⟩

theorem Along.and {H : σ → ι → Prop} {is : List ι} (h : serve.Along G s is)
    (h' : serve.Along H s is) : serve.Along (fun s i => G s i ∧ H s i) s is := by
  induction is generalizing s with
  | nil => trivial
  | cons i is ih => exact ⟨⟨h.1, h'.1⟩, ih h.2 h'.2⟩

/-- **Stability rule.** What is preserved by every input that meets `G`, a reflexive and
transitive relation, relates where a run starts to where it ends. -/
theorem Along.stable (hrefl : ∀ s, R s s) (htrans : ∀ {s t u}, R s t → R t u → R s u)
    (hstep : ∀ s i, G s i → R s (serve s i).2) {is : List ι} (h : serve.Along G s is) :
    R s (serve.after s is) := by
  induction is generalizing s with
  | nil => exact hrefl s
  | cons i is ih => exact htrans (hstep s i h.1) (ih h.2)

/-- The answers are given to the inputs. -/
theorem map_fst_answers {is : List ι} : (serve.answers s is).map Prod.fst = is := by
  induction is generalizing s with
  | nil => rfl
  | cons i is ih => simp [answers, ih]

theorem length_answers {is : List ι} : (serve.answers s is).length = is.length :=
  (List.length_map Prod.fst).symm.trans (congrArg List.length map_fst_answers)

/-- A run of visible inputs is seen whole. -/
theorem observed_eq_answers {is : List ι} (h : ∀ i ∈ is, visible i = true) :
    serve.observed visible s is = serve.answers s is := by
  refine List.filter_eq_self.mpr fun answer hanswer => h answer.1 ?_
  have hinput : answer.1 ∈ (serve.answers s is).map Prod.fst := List.mem_map_of_mem hanswer
  rwa [map_fst_answers] at hinput

theorem observed_cons_hidden {i : ι} (hi : visible i = false) (is : List ι) :
    serve.observed visible s (i :: is) = serve.observed visible (serve s i).2 is := by
  simp [observed, answers, hi]

theorem observed_cons_visible {i : ι} (hi : visible i = true) (is : List ι) :
    serve.observed visible s (i :: is) =
      (i, (serve s i).1) :: serve.observed visible (serve s i).2 is := by
  simp [observed, answers, hi]

/-- A run starting with hidden inputs is observed like the rest of it. -/
theorem Unwinds.skip (h : serve.Unwinds visible G R) (hR : R s t) {pre rest : List ι}
    (hpre : ∀ i ∈ pre, visible i = false) (hG : serve.Along G t (pre ++ rest)) :
    ∃ t', R s t' ∧ serve.Along G t' rest ∧
      serve.observed visible t (pre ++ rest) = serve.observed visible t' rest := by
  induction pre generalizing t with
  | nil => exact ⟨t, hR, hG, rfl⟩
  | cons i pre ih =>
      obtain ⟨hGi, hGrest⟩ := hG
      obtain ⟨hi, hpre⟩ := List.forall_mem_cons.mp hpre
      have hR' : R s (serve t i).2 := h.symm (h.hidden (h.symm hR) hi hGi)
      obtain ⟨t', hRt', hGt', hsame⟩ := ih hR' hpre hGrest
      exact ⟨t', hRt', hGt', (observed_cons_hidden hi _).trans hsame⟩

/-- **Unwinding theorem.** Two runs from related states whose inputs have the same
visible part are observed alike. -/
theorem Unwinds.noninterference (h : serve.Unwinds visible G R) (hR : R s t) {is js : List ι}
    (hs : serve.Along G s is) (ht : serve.Along G t js)
    (hsame : is.filter visible = js.filter visible) :
    serve.observed visible s is = serve.observed visible t js := by
  induction is generalizing s t js with
  | nil =>
      -- Nothing visible is left, so the whole other run is skipped.
      have hpre : ∀ i ∈ js, visible i = false := by
        intro i hi
        simpa using List.filter_eq_nil_iff.mp hsame.symm i hi
      rw [← List.append_nil js] at ht ⊢
      obtain ⟨t', -, -, hskip⟩ := h.skip hR hpre ht
      exact hskip.symm
  | cons i is ih =>
      obtain ⟨hGi, hGis⟩ := hs
      cases hi : visible i with
      | false =>
          rw [observed_cons_hidden hi]
          rw [List.filter_cons_of_neg (by simp [hi])] at hsame
          exact ih (h.hidden hR hi hGi) hGis ht hsame
      | true =>
          rw [List.filter_cons_of_pos hi] at hsame
          obtain ⟨pre, rest, rfl, hpre, -, hrest⟩ := List.filter_eq_cons_iff.mp hsame.symm
          have hpre : ∀ j ∈ pre, visible j = false := by
            intro j hj
            simpa using hpre j hj
          obtain ⟨t', hR', ⟨hGi', hGrest⟩, hskip⟩ := h.skip hR hpre ht
          rw [hskip, observed_cons_visible hi, observed_cons_visible hi,
            h.answer hR' hi hGi hGi', ih (h.step hR' hi hGi hGi') hGis hGrest hrest.symm]

end Server

end AgentSentinel.Lib
